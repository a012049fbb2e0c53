import Mathlib.Data.List.Basic
import AlertRelay.Proofs.Settings.Entries

/-!
# Variables in place of entries

A webhook, a title or a log level that a variable gives is the one that an entry of the
document would give.  There is one exception: the entry for the log level is made a text
even if a variable gives the level, and an integer may be too long for that.
-/

namespace AlertRelay.Settings

open AlertRelay.Text

variable {table : SharedTable} {cx : Value.Context} {entries entries' top : List (Value × Value)}

/-! ## Sections -/

/-- The entries of the mapping under a key; none if there is no mapping. -/
def entriesUnder (table : SharedTable) (key : String) (entries : List (Value × Value)) :
    List (Value × Value) :=
  ((given? key entries).bind (·.entries? table)).getD []

/-- Whether the value of a key is missing, null or a mapping. -/
def IsSection (table : SharedTable) (key : String) (entries : List (Value × Value)) : Prop :=
  ∀ v, given? key entries = some v → (v.entries? table).isSome = true

/-! ## Edits -/

/-- New values for the settings that have a variable of their own. -/
structure Edits where
  webhook : Option Spelled := none
  title : Option Spelled := none
  logLevel : Option Spelled := none

namespace Edits

variable (x : Edits)

/-- Whether the new values are texts that are not empty. -/
structure AreFilled : Prop where
  webhook : x.webhook ≠ some ""
  title : x.title ≠ some ""
  logLevel : x.logLevel ≠ some ""

/-- The new value that a variable would give. -/
def newValue? (name : Spelled) : Option Spelled :=
  if name = webhookVariable then x.webhook
  else if name = titleVariable then x.title
  else if name = logLevelVariable then x.logLevel
  else none

/-- The environment with the variables of the edits set. -/
def setIn (env : Environment) : Environment := fun name => x.newValue? name <|> env name

/-- The environment without the variables of the edits. -/
def clearedIn (env : Environment) : Environment := fun name =>
  if (x.newValue? name).isSome then none else env name

def touchesDiscord : Bool := x.webhook.isSome || x.title.isSome

def discordSection (entries : List (Value × Value)) : List (Value × Value) :=
  overlay "title" x.title (overlay "webhook-url" x.webhook entries)

/-- The section for alerting with the new values; a section in it that is missing is made. -/
def alertingSection (table : SharedTable) (entries : List (Value × Value)) :
    List (Value × Value) :=
  Value.setEntry (.text "discord")
    (.mapping (x.discordSection (entriesUnder table "discord" entries))) entries

/-- The entries of a document with the new values; a section that is missing is made. -/
def applyTo (table : SharedTable) (top : List (Value × Value)) : List (Value × Value) :=
  overlay "log-level" x.logLevel <|
    if x.touchesDiscord then
      Value.setEntry (.text "alerting")
        (.mapping (x.alertingSection table (entriesUnder table "alerting" top))) top
    else top

end Edits

/-! ## Documents with sections -/

theorem alertingEntries_of_isSection (h : IsSection table "alerting" top) :
    alertingEntries table top = .ok (entriesUnder table "alerting" top) := by
  simp only [alertingEntries, entriesUnder]
  cases hv : Value.lookup "alerting" top with
  | none => simp [given?, hv]
  | some v =>
      by_cases hnull : v = .null
      · subst hnull
        simp [given?, hv, Option.filter, Value.isBlank]
      · have hgiven := given?_eq_some_iff.mpr ⟨hv, hnull⟩
        obtain ⟨own, hown⟩ := Option.isSome_iff_exists.mp (h v hgiven)
        cases hblank : v.isBlank with
        | true =>
            obtain rfl := entries?_of_isBlank hblank hown
            simp [hgiven, Option.filter, hblank, hown]
        | false => simp [hgiven, Option.filter, hblank, hown]

theorem discordEntries_of_isSection (h : IsSection table "discord" entries) :
    discordEntries table entries = .ok ((given? "discord" entries).bind (·.entries? table)) := by
  simp only [discordEntries]
  cases hv : given? "discord" entries with
  | none => rfl
  | some v =>
      obtain ⟨own, hown⟩ := Option.isSome_iff_exists.mp (h v hv)
      simp [hown]

theorem discordOfEntries_congr_overrides
    (hoverrides : overridesOf cx entries = overridesOf cx entries')
    (h : ∀ key ∈ ["webhook-url", "title", "default-alert"],
      Value.lookup key entries = Value.lookup key entries') :
    discordOfEntries cx entries = discordOfEntries cx entries' := by
  have hwebhook : textOf cx "webhook-url" entries = textOf cx "webhook-url" entries' := by
    simp only [textOf, h "webhook-url" (by simp)]
  have htitle : textOf cx "title" entries = textOf cx "title" entries' := by
    simp only [textOf, h "title" (by simp)]
  have halert : defaultAlertOf cx entries = defaultAlertOf cx entries' := by
    simp only [defaultAlertOf, given?, h "default-alert" (by simp)]
  simp only [discordOfEntries, hoverrides, hwebhook, htitle, halert]

/-- The settings of the channel depend on the values of its keys alone. -/
theorem discordOfEntries_congr
    (h : ∀ key ∈ ["overrides", "webhook-url", "title", "default-alert"],
      Value.lookup key entries = Value.lookup key entries') :
    discordOfEntries cx entries = discordOfEntries cx entries' := by
  apply discordOfEntries_congr_overrides
  · simp only [overridesOf, h "overrides" (by simp)]
  · intro key hkey
    exact h key (List.mem_cons_of_mem _ hkey)

/-! ## The Discord channel -/

namespace Edits

variable {x : Edits} {env : Environment}

@[simp] theorem newValue?_webhook : x.newValue? webhookVariable = x.webhook := rfl

@[simp] theorem newValue?_title : x.newValue? titleVariable = x.title := rfl

@[simp] theorem newValue?_logLevel : x.newValue? logLevelVariable = x.logLevel := rfl

@[simp] theorem newValue?_config : x.newValue? configVariable = none := rfl

theorem AreFilled.newValue?_ne (hx : x.AreFilled) (name : Spelled) :
    x.newValue? name ≠ some "" := by
  simp only [newValue?]
  split_ifs
  · exact hx.webhook
  · exact hx.title
  · exact hx.logLevel
  · simp

theorem assigned?_setIn (hx : x.AreFilled) (name : Spelled) :
    assigned? (x.setIn env) name = (x.newValue? name <|> assigned? env name) := by
  have hfilled := hx.newValue?_ne name
  cases hnew : x.newValue? name <;> simp_all [assigned?, setIn, Option.filter]

theorem assigned?_clearedIn (name : Spelled) :
    assigned? (x.clearedIn env) name =
      if (x.newValue? name).isSome then none else assigned? env name := by
  cases hnew : x.newValue? name <;> simp [assigned?, clearedIn, hnew]

end Edits

variable {x : Edits} {env : Environment}

/-- The settings of the channel, from its section if there is one and from two texts. -/
def channelOf (cx : Value.Context) (found : Option (List (Value × Value)))
    (webhook title : Option Spelled) : Except LoadFault (Option Discord.Config) :=
  let entries := overlay "title" title (overlay "webhook-url" webhook (found.getD []))
  if found.isSome || !entries.isEmpty then some <$> discordOfEntries cx entries
  else .ok none

theorem discordSettings_of_isSection (halerting : IsSection cx.table "alerting" top)
    (hdiscord : IsSection cx.table "discord" (entriesUnder cx.table "alerting" top)) :
    discordSettings env cx top =
      channelOf cx
        ((given? "discord" (entriesUnder cx.table "alerting" top)).bind (·.entries? cx.table))
        (assigned? env webhookVariable) (assigned? env titleVariable) := by
  rw [discordSettings, alertingEntries_of_isSection halerting]
  change discordEntries cx.table _ >>= _ = _
  rw [discordEntries_of_isSection hdiscord]
  rfl

/-- New texts count the same beside a section and in it. -/
theorem channelOf_discordSection (h : x.touchesDiscord = true)
    (found : Option (List (Value × Value))) (webhook title : Option Spelled) :
    channelOf cx found (x.webhook <|> webhook) (x.title <|> title) =
      channelOf cx (some (x.discordSection (found.getD [])))
        (if x.webhook.isSome then none else webhook)
        (if x.title.isSome then none else title) := by
  have hfilled : (overlay "title" (x.title <|> title)
      (overlay "webhook-url" (x.webhook <|> webhook) (found.getD []))).isEmpty = false := by
    simp only [isEmpty_overlay]
    rcases Bool.or_eq_true_iff.mp h with hwebhook | htitle
    · obtain ⟨w, hw⟩ := Option.isSome_iff_exists.mp hwebhook
      simp [hw]
    · obtain ⟨t, ht⟩ := Option.isSome_iff_exists.mp htitle
      simp [ht]
  simp only [channelOf, hfilled, Option.isSome_some, Bool.not_false, Bool.or_true, Bool.true_or,
    if_true, Option.getD_some]
  refine congrArg _ (discordOfEntries_congr fun key _ => ?_)
  simp only [Edits.discordSection, lookup_overlay]
  -- each of the two keys is found where it was written last
  by_cases htitle : key = "title"
  · subst htitle
    cases x.title <;> simp
  · by_cases hwebhook : key = "webhook-url"
    · subst hwebhook
      cases x.webhook <;> simp
    · simp [htitle, hwebhook]

theorem given?_setEntry_mapping (key : String) (own : List (Value × Value)) :
    given? key (Value.setEntry (.text key) (.mapping own) entries) = some (.mapping own) := by
  simp [given?, Value.lookup_setEntry]

theorem isSection_of_mapping {key : String} {own : List (Value × Value)}
    (h : given? key entries = some (.mapping own)) :
    IsSection table key entries ∧ entriesUnder table key entries = own := by
  constructor
  · intro v hv
    obtain rfl := Option.some.inj (h.symm.trans hv)
    rfl
  · rw [entriesUnder, h]
    rfl

theorem Edits.lookup_applyTo (x : Edits) (table : SharedTable) (top : List (Value × Value))
    {name : String} (hname : name ≠ "log-level") :
    Value.lookup name (x.applyTo table top) =
      if x.touchesDiscord = true ∧ name = "alerting" then
        some (.mapping (x.alertingSection table (entriesUnder table "alerting" top)))
      else Value.lookup name top := by
  rw [applyTo, lookup_overlay, if_neg hname]
  cases x.touchesDiscord <;> simp [Value.lookup_setEntry]

/-- A webhook and a title count the same in a variable and in the document. -/
theorem discordSettings_setIn (hx : x.AreFilled) (halerting : IsSection cx.table "alerting" top)
    (hdiscord : IsSection cx.table "discord" (entriesUnder cx.table "alerting" top)) :
    discordSettings (x.setIn env) cx top =
      discordSettings (x.clearedIn env) cx (x.applyTo cx.table top) := by
  have hlookup := x.lookup_applyTo cx.table top (by decide : "alerting" ≠ "log-level")
  rw [discordSettings_of_isSection halerting hdiscord, Edits.assigned?_setIn hx,
    Edits.assigned?_setIn hx]
  cases htouches : x.touchesDiscord with
  | false =>
      have hgiven : given? "alerting" (x.applyTo cx.table top) = given? "alerting" top := by
        apply given?_congr
        simpa [htouches] using hlookup
      have hunder : entriesUnder cx.table "alerting" (x.applyTo cx.table top) =
          entriesUnder cx.table "alerting" top := by
        rw [entriesUnder, entriesUnder, hgiven]
      have hsection : IsSection cx.table "alerting" (x.applyTo cx.table top) := by
        intro v hv
        exact halerting v (hgiven ▸ hv)
      obtain ⟨hwebhook, htitle⟩ := Bool.or_eq_false_iff.mp htouches
      rw [discordSettings_of_isSection hsection (hunder ▸ hdiscord), hunder,
        Edits.assigned?_clearedIn, Edits.assigned?_clearedIn]
      simp_all
  | true =>
      have hgiven : given? "alerting" (x.applyTo cx.table top) = some (.mapping
          (x.alertingSection cx.table (entriesUnder cx.table "alerting" top))) := by
        simp [given?, hlookup, htouches]
      obtain ⟨hsection, hunder⟩ := isSection_of_mapping hgiven
      have hinner : given? "discord"
          (x.alertingSection cx.table (entriesUnder cx.table "alerting" top)) =
            some (.mapping _) := given?_setEntry_mapping "discord" _
      obtain ⟨hdiscord', -⟩ := isSection_of_mapping hinner
      rw [discordSettings_of_isSection hsection (hunder ▸ hdiscord'), hunder, hinner,
        Edits.assigned?_clearedIn, Edits.assigned?_clearedIn]
      exact channelOf_discordSection htouches _ _ _

/-! ## The log level -/

theorem Edits.lookup_level_applyTo (x : Edits) (table : SharedTable)
    (top : List (Value × Value)) :
    Value.lookup "log-level" (x.applyTo table top) =
      (x.logLevel.map .text <|> Value.lookup "log-level" top) := by
  rw [applyTo, lookup_overlay, if_pos rfl]
  cases x.touchesDiscord <;> simp [Value.lookup_setEntry]

theorem textOf_ends (cx : Value.Context) (key : String) (entries : List (Value × Value)) :
    (∃ s, textOf cx key entries = .ok s) ∨ textOf cx key entries = .error .unwritable := by
  simp only [textOf, displayOf]
  split
  · exact .inl ⟨_, rfl⟩
  · split
    · exact .inl ⟨_, rfl⟩
    · exact .inr rfl

theorem settings_ne_unwritable (name : Spelled) (discord : Option Discord.Config) :
    (logLevelNamed name >>= fun logLevel => .ok { discord, logLevel : Settings }) ≠
      .error .unwritable := by
  simp only [logLevelNamed]
  split <;> simp [Bind.bind, Except.bind]

/-- Without a new level nothing changes. -/
theorem logLevelText_of_none (hlevel : x.logLevel = none) :
    logLevelText (x.setIn env) cx top =
      logLevelText (x.clearedIn env) cx (x.applyTo cx.table top) := by
  have hset : x.setIn env logLevelVariable = env logLevelVariable := by
    simp [Edits.setIn, hlevel]
  have hcleared : x.clearedIn env logLevelVariable = env logLevelVariable := by
    simp [Edits.clearedIn, hlevel]
  have htext : textOf cx "log-level" (x.applyTo cx.table top) = textOf cx "log-level" top := by
    have hlookup := x.lookup_level_applyTo cx.table top
    rw [hlevel] at hlookup
    simp only [textOf]
    rw [hlookup]
    rfl
  rw [logLevelText, logLevelText, hset, hcleared, htext]

/-- A new level in a variable counts once the old one has become a text. -/
theorem logLevelText_setIn {level : Spelled} (hlevel : x.logLevel = some level) :
    logLevelText (x.setIn env) cx top =
      textOf cx "log-level" top >>= fun _ => .ok level := by
  have hset : x.setIn env logLevelVariable = some level := by
    simp [Edits.setIn, hlevel]
  rw [logLevelText, hset]
  rfl

/-- A new level in the document counts at once. -/
theorem logLevelText_clearedIn {level : Spelled} (hlevel : x.logLevel = some level)
    (hfilled : level ≠ "") :
    logLevelText (x.clearedIn env) cx (x.applyTo cx.table top) = .ok level := by
  have hcleared : x.clearedIn env logLevelVariable = none := by
    simp [Edits.clearedIn, hlevel]
  have htext : textOf cx "log-level" (x.applyTo cx.table top) = .ok level := by
    simp [textOf, x.lookup_level_applyTo, hlevel, Option.filter, Value.isBlank, hfilled, displayOf,
      Value.display?]
  rw [logLevelText, hcleared, htext]
  simp [Bind.bind, Except.bind, pure, Except.pure, hfilled]

/-! ## All settings -/

theorem ofEntries_setIn_iff (cx : Value.Context) (hx : x.AreFilled)
    (halerting : IsSection cx.table "alerting" top)
    (hdiscord : IsSection cx.table "discord" (entriesUnder cx.table "alerting" top)) :
    ofEntries (x.setIn env) cx top =
        ofEntries (x.clearedIn env) cx (x.applyTo cx.table top) ↔
      (x.logLevel.isSome = true → (∃ c, discordSettings (x.setIn env) cx top = .ok c) →
        textOf cx "log-level" top ≠ .error .unwritable) := by
  simp only [ofEntries, ← discordSettings_setIn hx halerting hdiscord]
  cases hchannel : discordSettings (x.setIn env) cx top with
  | error f => simp [Bind.bind, Except.bind]
  | ok c =>
      cases hlevel : x.logLevel with
      | none => simp [logLevelText_of_none hlevel]
      | some level =>
          have hfilled : level ≠ "" := by
            rintro rfl
            exact hx.logLevel hlevel
          rw [logLevelText_setIn hlevel, logLevelText_clearedIn hlevel hfilled]
          rcases textOf_ends cx "log-level" top with ⟨s, htext⟩ | htext
          · simp [htext, Bind.bind, Except.bind]
          · rw [htext]
            constructor
            · intro heq
              exact absurd heq.symm (settings_ne_unwritable level c)
            · intro h
              exact absurd rfl (h rfl ⟨c, rfl⟩)

/-- Variables give the settings that entries of the document would give, exactly if no
variable for the level stands over an integer that is too long, after a channel that is
loaded. -/
theorem load_setIn_iff (hx : x.AreFilled) (residues : Value.Residues) {path : Option Spelled}
    {files : Files} (hsource : topEntries path env files = .ok (top, table))
    (halerting : IsSection table "alerting" top)
    (hdiscord : IsSection table "discord" (entriesUnder table "alerting" top)) :
    let cx : Value.Context := ⟨table, residues⟩
    let edited := ofEntries (x.clearedIn env) cx (x.applyTo table top)
    (load residues path (x.setIn env) files = edited ↔
      (x.logLevel.isSome = true → (∃ c, discordSettings (x.setIn env) cx top = .ok c) →
        textOf cx "log-level" top ≠ .error .unwritable)) ∧
    ∀ path' files', topEntries path' (x.clearedIn env) files' = .ok (x.applyTo table top, table) →
      load residues path' (x.clearedIn env) files' = edited := by
  intro cx edited
  have hset : x.setIn env configVariable = env configVariable := by simp [Edits.setIn]
  constructor
  · have hload : load residues path (x.setIn env) files = ofEntries (x.setIn env) cx top := by
      rw [load, topEntries_congr hset, hsource]
      rfl
    rw [hload]
    exact ofEntries_setIn_iff cx hx halerting hdiscord
  · intro path' files' hsource'
    rw [load, hsource']
    rfl

def threeEdits : Edits := ⟨some "http://h/", some "Relay", some "debug"⟩

theorem load_setIn_three :
    let files : Files := fun _ => .error .notFound
    let residues : Value.Residues := fun _ => 0
    threeEdits.AreFilled ∧ topEntries none Environment.empty files = .ok ([], []) ∧
      load residues none (threeEdits.setIn Environment.empty) files =
        ofEntries (threeEdits.clearedIn Environment.empty) ⟨[], residues⟩
          (threeEdits.applyTo [] []) ∧
      load residues none (threeEdits.setIn Environment.empty) files =
        .ok { discord := some { webhookUrl := "http://h/", title := "Relay" },
              logLevel := .debug } := by
  intro files residues
  have hfilled : threeEdits.AreFilled := ⟨by decide, by decide, by decide⟩
  have hsource : topEntries none Environment.empty files = .ok ([], []) := rfl
  have hsections (key : String) : IsSection [] key [] := by
    intro v hv
    cases hv
  obtain ⟨hload, -⟩ :=
    load_setIn_iff hfilled residues hsource (hsections "alerting") (hsections "discord")
  have heq := hload.mpr fun _ _ => by simp [textOf, Value.lookup]
  refine ⟨hfilled, hsource, heq, heq.trans ?_⟩
  decide +kernel

/-- A document with a level of 4301 digits. -/
def longLevel : List (Value × Value) := [(.text "log-level", .int (Nat.pow 10 4300))]

/-- A level that cannot become a text ends loading although a variable gives another. -/
theorem ofEntries_longLevel :
    let x : Edits := { logLevel := some "debug" }
    ofEntries (x.setIn Environment.empty) {} longLevel = .error .unwritable ∧
      ofEntries (x.clearedIn Environment.empty) {} (x.applyTo [] longLevel) =
        .ok { discord := none, logLevel := .debug } := by
  decide +kernel

end AlertRelay.Settings
