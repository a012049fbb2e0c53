import AlertRelay.Proofs.Environment
import AlertRelay.Proofs.Settings.Loading

/-!
# Variables that are empty

Loading takes an empty variable for one that is not set.  The variable for the log level is the
exception: if it is empty, there is no level of its name, and loading fails where it would have
come as far as the level.
-/

namespace AlertRelay

open AlertRelay.Text

namespace Environment

/-- Whether a text names one of some variables. -/
def isAmong (names : List Spelled) (name : Spelled) : Bool := names.any (sameName name)

/-- The environment with some variables set to the empty text. -/
def emptied (env : Environment) (names : List Spelled) : Environment :=
  fun name => if isAmong names name then some "" else env name

/-- The environment with some variables taken away. -/
def without (env : Environment) (names : List Spelled) : Environment :=
  fun name => if isAmong names name then none else env name

end Environment

namespace Settings

open Environment

variable {env : Environment} {names : List Spelled} {path : Option Spelled} {files : Files}
  {residues : Value.Residues} {cx : Value.Context} {top : List (Value × Value)}

/-! ## Where an empty variable counts as none -/

theorem assigned?_emptied (env : Environment) (names : List Spelled) (name : Spelled) :
    assigned? (env.emptied names) name = assigned? (env.without names) name := by
  unfold assigned? emptied without
  cases isAmong names name <;> rfl

theorem topEntries_emptied :
    topEntries path (env.emptied names) files = topEntries path (env.without names) files := by
  unfold topEntries configPath
  rw [assigned?_emptied]

theorem discordSettings_emptied :
    discordSettings (env.emptied names) cx top = discordSettings (env.without names) cx top := by
  unfold discordSettings
  rw [assigned?_emptied, assigned?_emptied]

/-! ## The log level -/

/-- The name of the log level, from the value of its variable and the text of its entry. -/
def levelName (value : Option Spelled) (text : Spelled) : Spelled :=
  match value with
  | some name => name
  | none => if text = "" then "info" else text

/-- The last part of loading, from the channel and the name of the log level. -/
def withLevel (discord : Option Discord.Config) (name : Spelled) : Except LoadFault Settings :=
  logLevelNamed name >>= fun logLevel => .ok { discord, logLevel }

theorem ofEntries_eq (env : Environment) (cx : Value.Context) (top : List (Value × Value)) :
    ofEntries env cx top =
      discordSettings env cx top >>= fun discord =>
        textOf cx "log-level" top >>= fun text =>
          withLevel discord (levelName (env logLevelVariable) text) := by
  unfold ofEntries logLevelText withLevel
  cases discordSettings env cx top with
  | error f => rfl
  | ok discord =>
      cases textOf cx "log-level" top with
      | error f => rfl
      | ok text => rfl

theorem withLevel_empty (discord : Option Discord.Config) :
    withLevel discord "" = .error (.settings (.badLogLevel "")) := by
  unfold withLevel
  have hlevel : logLevelNamed "" = .error (.settings (.badLogLevel "")) := by rfl
  rw [hlevel]
  rfl

theorem withLevel_info (discord : Option Discord.Config) :
    withLevel discord "info" = .ok { discord } := by
  unfold withLevel
  have hlevel : logLevelNamed "info" = .ok .info := by rfl
  rw [hlevel]
  rfl

theorem withLevel_ne_empty {name : Spelled} (discord : Option Discord.Config) (h : name ≠ "") :
    withLevel discord name ≠ .error (.settings (.badLogLevel "")) := by
  unfold withLevel
  rw [ne_eq, bind_eq_error]
  rintro (hlevel | ⟨level, -, hok⟩)
  · unfold logLevelNamed at hlevel
    cases hfound : logLevels.find? fun level =>
        decide (level.name = (⟨name.points.map lowerPoint⟩ : Spelled)) with
    | some level => simp [hfound] at hlevel
    | none =>
        have hname : name = "" := by simpa [hfound] using hlevel
        exact h hname
  · cases hok

theorem levelName_none_ne_empty (text : Spelled) : levelName none text ≠ "" := by
  unfold levelName
  by_cases htext : text = ""
  · simp [htext]
  · simp [htext]

/-! ## All settings -/

/-- The environment with some variables taken away and a log level given. -/
def levelled (env : Environment) (names : List Spelled) : Environment :=
  (env.without names).assign logLevelVariable (some "info")

theorem topEntries_levelled :
    topEntries path (levelled env names) files = topEntries path (env.without names) files :=
  topEntries_congr (assign_of_not_sameName (by simp [configVariable, logLevelVariable])) path files

theorem discordSettings_levelled :
    discordSettings (levelled env names) cx top = discordSettings (env.without names) cx top := by
  have hwebhook : levelled env names webhookVariable = env.without names webhookVariable :=
    assign_of_not_sameName (by simp [webhookVariable, logLevelVariable])
  have htitle : levelled env names titleVariable = env.without names titleVariable :=
    assign_of_not_sameName (by simp [titleVariable, logLevelVariable])
  unfold discordSettings assigned?
  rw [hwebhook, htitle]

theorem ofEntries_emptied_of_not_mem (h : isAmong names logLevelVariable = false) :
    ofEntries (env.emptied names) cx top = ofEntries (env.without names) cx top := by
  have hempty : env.emptied names logLevelVariable = env logLevelVariable := by
    simp [emptied, h]
  have hwithout : env.without names logLevelVariable = env logLevelVariable := by
    simp [without, h]
  rw [ofEntries_eq, ofEntries_eq, discordSettings_emptied, hempty, hwithout]

/-- Without its variable the log level is named by its entry, or is the usual one; an empty
variable names none. -/
theorem ofEntries_emptied_of_mem (h : isAmong names logLevelVariable = true) :
    (∃ f, ofEntries (levelled env names) cx top = .error f ∧
      ofEntries (env.emptied names) cx top = .error f ∧
      ofEntries (env.without names) cx top = .error f) ∨
    (∃ settings, ofEntries (levelled env names) cx top = .ok settings ∧
      ofEntries (env.emptied names) cx top = .error (.settings (.badLogLevel "")) ∧
      ofEntries (env.without names) cx top ≠ .error (.settings (.badLogLevel ""))) := by
  have hempty : env.emptied names logLevelVariable = some "" := if_pos h
  have hwithout : env.without names logLevelVariable = none := if_pos h
  have hinfo : levelled env names logLevelVariable = some "info" :=
    assign_of_sameName (sameName_self _)
  simp only [ofEntries_eq, discordSettings_emptied, discordSettings_levelled, hempty, hwithout,
    hinfo]
  cases discordSettings (env.without names) cx top with
  | error f => exact .inl ⟨f, rfl, rfl, rfl⟩
  | ok discord =>
      cases textOf cx "log-level" top with
      | error f => exact .inl ⟨f, rfl, rfl, rfl⟩
      | ok text =>
          have hnamed := withLevel_ne_empty discord (levelName_none_ne_empty text)
          exact .inr ⟨_, withLevel_info discord, withLevel_empty discord, hnamed⟩

theorem load_emptied_of_not_mem (h : isAmong names logLevelVariable = false) :
    load residues path (env.emptied names) files =
      load residues path (env.without names) files := by
  simp only [load, topEntries_emptied, ofEntries_emptied_of_not_mem h]

theorem load_emptied_of_mem (residues : Value.Residues) (path : Option Spelled)
    (env : Environment) (files : Files) (h : isAmong names logLevelVariable = true) :
    (∃ f, load residues path (levelled env names) files = .error f ∧
      load residues path (env.emptied names) files = .error f ∧
      load residues path (env.without names) files = .error f) ∨
    (∃ settings, load residues path (levelled env names) files = .ok settings ∧
      load residues path (env.emptied names) files = .error (.settings (.badLogLevel "")) ∧
      load residues path (env.without names) files ≠ .error (.settings (.badLogLevel ""))) := by
  simp only [load, topEntries_emptied, topEntries_levelled]
  cases topEntries path (env.without names) files with
  | error f => exact .inl ⟨f, rfl, rfl, rfl⟩
  | ok source => exact ofEntries_emptied_of_mem h

/-- Empty variables count as if they were not set, unless the one for the log level is among
them and loading succeeds once a level is given: then the empty name of a level is refused. -/
theorem load_emptied_iff (residues : Value.Residues) (path : Option Spelled) (env : Environment)
    (files : Files) (names : List Spelled) :
    let reachesLevel := isAmong names logLevelVariable = true ∧
      ∃ settings, load residues path (levelled env names) files = .ok settings
    (load residues path (env.emptied names) files = load residues path (env.without names) files ↔
      ¬reachesLevel) ∧
    (load residues path (env.emptied names) files = .error (.settings (.badLogLevel "")) ↔
      reachesLevel ∨
        load residues path (env.without names) files = .error (.settings (.badLogLevel ""))) := by
  intro reachesLevel
  cases hmem : isAmong names logLevelVariable with
  | true =>
      rcases load_emptied_of_mem residues path env files hmem with
        ⟨f, hlevelled, hempty, hwithout⟩ | ⟨settings, hlevelled, hempty, hnamed⟩
      · have hnot : ¬reachesLevel := by
          rintro ⟨-, settings, hsettings⟩
          rw [hlevelled] at hsettings
          cases hsettings
        simp [hnot, hempty, hwithout]
      · have hreaches : reachesLevel := ⟨hmem, settings, hlevelled⟩
        simp [hreaches, hempty, hnamed.symm]
  | false =>
      have hnot : ¬reachesLevel := fun h => absurd (hmem.symm.trans h.1) (by simp)
      simp [hnot, load_emptied_of_not_mem hmem]

/-- With all variables unset the usual level is loaded, and with an empty level none is. -/
theorem load_emptiedLevel :
    let files : Files := fun _ => .error .notFound
    let residues : Value.Residues := fun _ => 0
    let empty := Environment.empty.emptied [logLevelVariable]
    load residues none empty files = .error (.settings (.badLogLevel "")) ∧
      load residues none (Environment.empty.without [logLevelVariable]) files = .ok {} ∧
      load residues none
        (Environment.empty.emptied [configVariable, webhookVariable, titleVariable]) files =
        .ok {} :=
  ⟨rfl, rfl, rfl⟩

end Settings

end AlertRelay
