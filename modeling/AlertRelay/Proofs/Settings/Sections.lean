import AlertRelay.Proofs.Settings.Overriding
import AlertRelay.Proofs.Settings.Reporting

/-!
# Sections of the wrong kind

The document, its section for alerting, the section for the channel in it and the overrides of
the channel have to be mappings, but the overrides a list.  A value of another kind in one of
these places is refused, unless it is blank: then it counts as null, except in the place of the
section for the channel.
-/

namespace AlertRelay

namespace Value

/-- The value that keys lead to, from one mapping to the next. -/
def atKeys (table : SharedTable) : List String → Value → Option Value
  | [], v => some v
  | key :: keys, v => ((v.entries? table).bind (lookup key)).bind (atKeys table keys)

/-- The value with null in the place that keys lead to. -/
def clearedAt (table : SharedTable) : List String → Value → Value
  | [], _ => null
  | key :: keys, v =>
      let entries := (v.entries? table).getD []
      mapping (setEntry (text (.whole key))
        (clearedAt table keys ((lookup key entries).getD null)) entries)

theorem atKeys_cons {table : SharedTable} {key : String} {keys : List String} {v w : Value} :
    atKeys table (key :: keys) v = some w ↔
      ∃ entries next, v.entries? table = some entries ∧ lookup key entries = some next ∧
        atKeys table keys next = some w := by
  rw [atKeys]
  cases v.entries? table with
  | none => simp
  | some entries => cases hnext : lookup key entries <;> simp [hnext]

theorem clearedAt_cons {table : SharedTable} {key : String} {keys : List String} {v next : Value}
    {entries : List (Value × Value)} (hentries : v.entries? table = some entries)
    (hnext : lookup key entries = some next) :
    clearedAt table (key :: keys) v =
      mapping (setEntry (text (.whole key)) (clearedAt table keys next) entries) := by
  rw [clearedAt, hentries, Option.getD_some, hnext, Option.getD_some]

end Value

namespace Settings

open AlertRelay.Text

/-! ## Sections -/

/-- A place in the document that takes values of one kind. -/
inductive Section where
  | top
  | alerting
  | discord
  | overrides
  deriving DecidableEq, Repr

namespace Section

def keys : Section → List String
  | top => []
  | alerting => ["alerting"]
  | discord => ["alerting", "discord"]
  | overrides => ["alerting", "discord", "overrides"]

def admits (table : SharedTable) (v : Value) : Section → Bool
  | overrides => (v.items? table).isSome
  | top | alerting | discord => (v.entries? table).isSome

def fault (path : Spelled) : Section → Fault
  | top => .topNotMapping path
  | alerting => .alertingNotMapping
  | discord => .discordNotMapping
  | overrides => .overridesNotList

/-- The value in the place of a section that is not null and of the wrong kind. -/
def misfit? (doc : Document) (place : Section) : Option Value :=
  match doc.root.atKeys doc.table place.keys with
  | none | some .null => none
  | some v => if place.admits doc.table v then none else some v

theorem misfit?_eq_some_iff {doc : Document} {place : Section} {v : Value} :
    place.misfit? doc = some v ↔
      doc.root.atKeys doc.table place.keys = some v ∧ v ≠ .null ∧
        place.admits doc.table v = false := by
  unfold misfit?
  split
  · rename_i hnone
    simp [hnone]
  · rename_i hnull
    simp only [hnull, Option.some.injEq, reduceCtorEq, false_iff]
    rintro ⟨rfl, hne, -⟩
    exact hne rfl
  · rename_i w hnull hw
    have hne : w ≠ .null := by
      rintro rfl
      exact hnull rfl
    rw [hw, Option.some.injEq]
    cases hadmits : place.admits doc.table w with
    | true =>
        simp only [if_true, reduceCtorEq, false_iff]
        rintro ⟨rfl, -, hnot⟩
        rw [hadmits] at hnot
        cases hnot
    | false =>
        simp only [Bool.false_eq_true, if_false, Option.some.injEq]
        constructor
        · rintro rfl
          exact ⟨rfl, hne, hadmits⟩
        · exact fun h => h.1

/-- The document with null in the place of a section. -/
def cleared (doc : Document) (place : Section) : Document :=
  { doc with root := doc.root.clearedAt doc.table place.keys }

end Section

/-! ## Documents of files -/

/-- Whether a file can be read and its text is that of a document. -/
structure HoldsDocument (files : Files) (path : Spelled) (doc : Document) : Prop where
  isPath : isPath path = true
  text : ∃ text, files.read (normalPath path) = .ok (utf8 text) ∧
    Yaml.read (normalLines text) = .ok doc

/-- The settings of a document in an environment. -/
def ofDocument (env : Environment) (residues : Value.Residues) (path : Spelled)
    (doc : Document) : Except LoadFault Settings := do
  let (top, table) ← documentEntries path doc
  ofEntries env ⟨table, residues⟩ top

variable {env : Environment} {residues : Value.Residues} {path : Option Spelled} {files : Files}
  {p : Spelled} {doc : Document} {table : SharedTable} {cx : Value.Context}
  {top alerting entries : List (Value × Value)} {v : Value}

theorem load_of_document (hpath : configPath path env = some p) (hdoc : HoldsDocument files p doc) :
    load residues path env files = ofDocument env residues (normalPath p) doc := by
  obtain ⟨text, hread, hyaml⟩ := hdoc.text
  have hfile : readFile files p = documentEntries (normalPath p) doc := by
    rw [readFile_of_path files hdoc.isPath, hread]
    exact parseFile_of_document _ hyaml
  simp only [load, topEntries, hpath]
  simp only [hfile]
  rfl

theorem documentEntries_of_entries {key : String}
    (hentries : doc.root.entries? doc.table = some top)
    (hv : Value.lookup key top = some v) : documentEntries p doc = .ok (top, doc.table) := by
  have hfilled : doc.root.isBlank = false := by
    cases hblank : doc.root.isBlank with
    | false => rfl
    | true =>
        obtain rfl := entries?_of_isBlank hblank hentries
        cases hv
  unfold documentEntries
  rw [hfilled, hentries]
  rfl

theorem ofDocument_of_entries {key : String} (hentries : doc.root.entries? doc.table = some top)
    (hv : Value.lookup key top = some v) :
    ofDocument env residues p doc = ofEntries env ⟨doc.table, residues⟩ top := by
  unfold ofDocument
  rw [documentEntries_of_entries hentries hv]
  rfl

theorem ofDocument_mapping {key : String} (hv : Value.lookup key top = some v) :
    ofDocument env residues p ⟨.mapping top, table⟩ = ofEntries env ⟨table, residues⟩ top :=
  ofDocument_of_entries rfl hv

/-! ## One section in another -/

/-- The channel and the entry for the level are all that settings are made of. -/
theorem ofEntries_congr_entries {top' : List (Value × Value)}
    (hdiscord : discordSettings env cx top = discordSettings env cx top')
    (hlevel : Value.lookup "log-level" top = Value.lookup "log-level" top') :
    ofEntries env cx top = ofEntries env cx top' := by
  have htext : logLevelText env cx top = logLevelText env cx top' := by
    unfold logLevelText textOf
    rw [hlevel]
  unfold ofEntries
  rw [hdiscord, htext]

theorem ofEntries_of_discord_error {f : LoadFault} (h : discordSettings env cx top = .error f) :
    ofEntries env cx top = .error f := by
  unfold ofEntries
  rw [h]
  rfl

theorem isSection_of_lookup {key : String} (hv : Value.lookup key top = some v)
    (hentries : v.entries? table = some entries) :
    IsSection table key top ∧ entriesUnder table key top = entries ∧ given? key top = some v := by
  have hnull : v ≠ .null := by
    rintro rfl
    cases hentries
  have hgiven : given? key top = some v := given?_eq_some_iff.mpr ⟨hv, hnull⟩
  refine ⟨?_, ?_, hgiven⟩
  · intro w hw
    obtain rfl := Option.some.inj (hgiven.symm.trans hw)
    rw [hentries]
    rfl
  · rw [entriesUnder, hgiven]
    simp [hentries]

theorem alertingEntries_of_misfit (hv : Value.lookup "alerting" top = some v)
    (hkind : v.entries? table = none) :
    alertingEntries table top =
      if v.isBlank = true then .ok [] else .error (.settings .alertingNotMapping) := by
  unfold alertingEntries
  cases hblank : v.isBlank with
  | true => simp [hv, Option.filter, hblank]
  | false => simp [hv, Option.filter, hblank, hkind]

theorem alertingEntries_cleared :
    alertingEntries table (Value.setEntry (.text "alerting") .null top) = .ok [] := by
  unfold alertingEntries
  rw [Value.lookup_setEntry, if_pos rfl]
  rfl

theorem discordEntries_of_misfit (hv : Value.lookup "discord" alerting = some v) (hnull : v ≠ .null)
    (hkind : v.entries? table = none) :
    discordEntries table alerting = .error (.settings .discordNotMapping) := by
  unfold discordEntries
  rw [given?_eq_some_iff.mpr ⟨hv, hnull⟩]
  simp [hkind]

theorem overridesOf_of_misfit (cx : Value.Context)
    (hv : Value.lookup "overrides" entries = some v) (hkind : v.items? cx.table = none) :
    overridesOf cx entries =
      if v.isBlank = true then .ok [] else .error (.settings .overridesNotList) := by
  unfold overridesOf
  cases hblank : v.isBlank with
  | true => simp [hv, Option.filter, hblank]
  | false => simp [hv, Option.filter, hblank, hkind]

/-! ## A section of the wrong kind -/

theorem ofDocument_top (hv : Section.top.misfit? doc = some v) :
    ofDocument env residues p doc =
      if v.isBlank = true then ofDocument env residues p (Section.top.cleared doc)
      else .error (.settings (Section.top.fault p)) := by
  obtain ⟨hroot, -, hkind⟩ := Section.misfit?_eq_some_iff.mp hv
  obtain rfl : doc.root = v := Option.some.inj hroot
  have hentries : doc.root.entries? doc.table = none := by
    simpa [Section.admits] using hkind
  unfold ofDocument documentEntries
  cases hblank : doc.root.isBlank with
  | true => rfl
  | false =>
      simp only [hentries]
      rfl

theorem ofDocument_alerting (hv : Section.alerting.misfit? doc = some v) :
    ofDocument env residues p doc =
      if v.isBlank = true then ofDocument env residues p (Section.alerting.cleared doc)
      else .error (.settings (Section.alerting.fault p)) := by
  obtain ⟨hkeys, -, hkind⟩ := Section.misfit?_eq_some_iff.mp hv
  obtain ⟨top, w, htop, halerting, hw⟩ := Value.atKeys_cons.mp hkeys
  obtain rfl : w = v := Option.some.inj hw
  have hentries : w.entries? doc.table = none := by
    simpa [Section.admits] using hkind
  have hfound := alertingEntries_of_misfit halerting hentries
  rw [ofDocument_of_entries htop halerting]
  cases hblank : w.isBlank with
  | false =>
      rw [hblank] at hfound
      apply ofEntries_of_discord_error
      unfold discordSettings
      rw [hfound]
      rfl
  | true =>
      rw [hblank] at hfound
      have hcleared : Section.alerting.cleared doc =
          ⟨.mapping (Value.setEntry (.text "alerting") .null top), doc.table⟩ := by
        unfold Section.cleared
        rw [Section.keys, Value.clearedAt_cons htop halerting]
        rfl
      have hnull : Value.lookup "alerting" (Value.setEntry (.text "alerting") .null top) =
          some .null := by
        rw [Value.lookup_setEntry, if_pos rfl]
      rw [if_pos rfl, hcleared, ofDocument_mapping hnull]
      apply ofEntries_congr_entries
      · unfold discordSettings
        rw [hfound, alertingEntries_cleared]
        rfl
      · rw [Value.lookup_setEntry, if_neg (by decide)]

theorem ofDocument_discord (hv : Section.discord.misfit? doc = some v) :
    ofDocument env residues p doc = .error (.settings (Section.discord.fault p)) := by
  obtain ⟨hkeys, hnull, hkind⟩ := Section.misfit?_eq_some_iff.mp hv
  obtain ⟨top, a, htop, halerting, hrest⟩ := Value.atKeys_cons.mp hkeys
  obtain ⟨alerting, w, hown, hdiscord, hw⟩ := Value.atKeys_cons.mp hrest
  obtain rfl : w = v := Option.some.inj hw
  have hentries : w.entries? doc.table = none := by
    simpa [Section.admits] using hkind
  obtain ⟨hsection, hunder, -⟩ := isSection_of_lookup halerting hown
  rw [ofDocument_of_entries htop halerting]
  apply ofEntries_of_discord_error
  unfold discordSettings
  rw [alertingEntries_of_isSection hsection, hunder]
  change discordEntries doc.table alerting >>= _ = _
  rw [discordEntries_of_misfit hdiscord hnull hentries]
  rfl

theorem discordSettings_of_lookup (cx : Value.Context) (env : Environment) {a d : Value}
    (halerting : Value.lookup "alerting" top = some a) (hown : a.entries? cx.table = some alerting)
    (hdiscord : Value.lookup "discord" alerting = some d)
    (hentries : d.entries? cx.table = some entries) :
    discordSettings env cx top =
      some <$> discordOfEntries cx (overlay "title" (assigned? env titleVariable)
        (overlay "webhook-url" (assigned? env webhookVariable) entries)) := by
  obtain ⟨hsection, hunder, -⟩ := isSection_of_lookup halerting hown
  obtain ⟨hinner, -, hgiven⟩ := isSection_of_lookup hdiscord hentries
  rw [discordSettings_of_isSection hsection (hunder ▸ hinner), hunder, hgiven, Option.bind_some,
    hentries, channelOf]
  simp

theorem overridesOf_overlay (webhook title : Option Spelled) :
    overridesOf cx (overlay "title" title (overlay "webhook-url" webhook entries)) =
      overridesOf cx entries := by
  unfold overridesOf
  rw [lookup_overlay, if_neg (by decide), lookup_overlay, if_neg (by decide)]

theorem overridesOf_cleared :
    overridesOf cx (Value.setEntry (.text "overrides") .null entries) = .ok [] := by
  unfold overridesOf
  rw [Value.lookup_setEntry, if_pos rfl]
  rfl

/-- Overrides that count as none may as well be null. -/
theorem discordOfEntries_cleared (h : overridesOf cx entries = .ok [])
    (webhook title : Option Spelled) :
    discordOfEntries cx (overlay "title" title (overlay "webhook-url" webhook
        (Value.setEntry (.text "overrides") .null entries))) =
      discordOfEntries cx (overlay "title" title (overlay "webhook-url" webhook entries)) := by
  apply discordOfEntries_congr_overrides
  · rw [overridesOf_overlay, overridesOf_overlay, overridesOf_cleared, h]
  · intro key hkey
    have hne : key ≠ "overrides" := by
      rintro rfl
      simp at hkey
    have hother : Value.lookup key (Value.setEntry (.text "overrides") .null entries) =
        Value.lookup key entries := by
      rw [Value.lookup_setEntry, if_neg hne]
    simp only [lookup_overlay, hother]

theorem ofDocument_overrides (hv : Section.overrides.misfit? doc = some v) :
    ofDocument env residues p doc =
      if v.isBlank = true then ofDocument env residues p (Section.overrides.cleared doc)
      else .error (.settings (Section.overrides.fault p)) := by
  obtain ⟨hkeys, -, hkind⟩ := Section.misfit?_eq_some_iff.mp hv
  obtain ⟨top, a, htop, halerting, hrest⟩ := Value.atKeys_cons.mp hkeys
  obtain ⟨alerting, d, hown, hdiscord, hrest⟩ := Value.atKeys_cons.mp hrest
  obtain ⟨entries, w, hentries, hoverrides, hw⟩ := Value.atKeys_cons.mp hrest
  obtain rfl : w = v := Option.some.inj hw
  have hitems : w.items? doc.table = none := by
    simpa [Section.admits] using hkind
  let cx : Value.Context := ⟨doc.table, residues⟩
  have hfound := overridesOf_of_misfit cx hoverrides hitems
  have hsettings := discordSettings_of_lookup cx env halerting hown hdiscord hentries
  rw [ofDocument_of_entries htop halerting]
  cases hblank : w.isBlank with
  | false =>
      rw [hblank] at hfound
      apply ofEntries_of_discord_error
      rw [hsettings, discordOfEntries, overridesOf_overlay, hfound]
      rfl
  | true =>
      rw [hblank] at hfound
      -- the same mappings, one in the other, with null behind the last key
      let entries' := Value.setEntry (.text "overrides") .null entries
      let alerting' := Value.setEntry (.text "discord") (.mapping entries') alerting
      let top' := Value.setEntry (.text "alerting") (.mapping alerting') top
      have hcleared : Section.overrides.cleared doc = ⟨.mapping top', doc.table⟩ := by
        unfold Section.cleared
        rw [Section.keys, Value.clearedAt_cons htop halerting,
          Value.clearedAt_cons hown hdiscord, Value.clearedAt_cons hentries hoverrides]
        rfl
      have htop' : Value.lookup "alerting" top' = some (.mapping alerting') := by
        rw [Value.lookup_setEntry, if_pos rfl]
      have halerting' : Value.lookup "discord" alerting' = some (.mapping entries') := by
        rw [Value.lookup_setEntry, if_pos rfl]
      rw [if_pos rfl, hcleared, ofDocument_mapping htop']
      apply ofEntries_congr_entries
      · rw [hsettings, discordSettings_of_lookup cx env htop' rfl halerting' rfl,
          discordOfEntries_cleared hfound]
      · rw [Value.lookup_setEntry, if_neg (by decide)]

/-! ## Loading a file -/

/-- A value of the wrong kind in the place of a section is refused, unless it is blank: then the
document loads as it would with null in its place.  The section for the channel is refused in
any case. -/
theorem load_misfit_iff (hpath : configPath path env = some p) (hdoc : HoldsDocument files p doc)
    {place : Section} (hv : place.misfit? doc = some v) :
    let ignored := v.isBlank = true ∧ place ≠ .discord
    let rest := ofDocument env residues (normalPath p) (place.cleared doc)
    load residues path env files =
        (if ignored then rest else .error (.settings (place.fault (normalPath p)))) ∧
      ((∃ f, load residues path env files = .error (.settings f)) ↔
        (ignored → ∃ f, rest = .error (.settings f))) := by
  intro ignored rest
  have hload : load residues path env files =
      if ignored then rest else .error (.settings (place.fault (normalPath p))) := by
    rw [load_of_document hpath hdoc]
    cases place with
    | top => simpa [ignored] using ofDocument_top hv
    | alerting => simpa [ignored] using ofDocument_alerting hv
    | discord => simpa [ignored] using ofDocument_discord hv
    | overrides => simpa [ignored] using ofDocument_overrides hv
  refine ⟨hload, ?_⟩
  rw [hload]
  by_cases hignored : ignored
  · simp [hignored]
  · simp [hignored]

def filesOf (text : String) : Files := fun _ => .ok (.file (utf8 text.toList))

/-- Whether a text is read as a document with a blank value in the place of a section. -/
def hasBlankMisfit (place : Section) (text : String) : Bool :=
  match Yaml.read (normalLines text.toList) with
  | .ok doc => (place.misfit? doc).any (·.isBlank)
  | .error _ => false

theorem exists_blank_misfit {place : Section} {text : String}
    (h : hasBlankMisfit place text = true) :
    ∃ doc v, HoldsDocument (filesOf text) "c.yaml" doc ∧ place.misfit? doc = some v ∧
      v.isBlank = true := by
  unfold hasBlankMisfit at h
  split at h
  · rename_i doc hdoc
    obtain ⟨v, hv, hblank⟩ := (Option.any_eq_true _ _).mp h
    exact ⟨doc, v, ⟨by decide, text.toList, rfl, hdoc⟩, hv, hblank⟩
  · cases h

theorem load_misfit_list :
    let files := filesOf "alerting: []"
    let residues : Value.Residues := fun _ => 0
    ∃ doc v, HoldsDocument files "c.yaml" doc ∧ Section.alerting.misfit? doc = some v ∧
      load residues (some "c.yaml") Environment.empty files =
        ofDocument Environment.empty residues "c.yaml" (Section.alerting.cleared doc) := by
  intro files residues
  have hmisfit : hasBlankMisfit .alerting "alerting: []" = true := by decide +kernel
  obtain ⟨doc, v, hdoc, hv, hblank⟩ := exists_blank_misfit hmisfit
  have hpath : configPath (some "c.yaml") Environment.empty = some "c.yaml" := rfl
  obtain ⟨hload, -⟩ := load_misfit_iff hpath hdoc hv
  have hignored : v.isBlank = true ∧ Section.alerting ≠ .discord := ⟨hblank, by decide⟩
  rw [if_pos hignored] at hload
  exact ⟨doc, v, hdoc, hv, hload⟩

def zeroOverrides : String :=
  "alerting: \x7bdiscord: \x7bwebhook-url: u, overrides: 0\x7d\x7d"

/-- A document that is a truth value, a list in place of the section for alerting and a number in
place of the overrides are loaded as if they were not there. -/
theorem load_blank_misfits :
    let residues : Value.Residues := fun _ => 0
    hasBlankMisfit .top "false" = true ∧
      load residues (some "c.yaml") Environment.empty (filesOf "false") = .ok {} ∧
    hasBlankMisfit .alerting "alerting: []" = true ∧
      load residues (some "c.yaml") Environment.empty (filesOf "alerting: []") = .ok {} ∧
    hasBlankMisfit .overrides zeroOverrides = true ∧
      load residues (some "c.yaml") Environment.empty (filesOf zeroOverrides) =
        .ok { discord := some { webhookUrl := "u" } } := by
  decide +kernel

end Settings

end AlertRelay
