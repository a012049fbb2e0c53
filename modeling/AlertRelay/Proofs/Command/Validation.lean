import AlertRelay.Command.Run
import AlertRelay.Proofs.Settings.Reporting

/-!
# How a validation ends

A validation says whether the settings are right, and ends with the code for it, unless
loading fails with a fault that is not reported.
-/

namespace AlertRelay.Command

open AlertRelay.Settings AlertRelay.Text

variable {s : Surroundings} {args : List Spelled} {config : Option Spelled}

/-- A run that no shell asks, and whose arguments ask for a validation. -/
structure AsksForValidation (s : Surroundings) (args : List Spelled) (config : Option Spelled) :
    Prop where
  noQuestion : assigned? s.env completionVariable = none
  arguments : readArguments s.files args = .ok (.validate config)

theorem run_of_asksForValidation (h : AsksForValidation s args config) :
    run s args = validate s config := by
  simp only [run, h.noQuestion, runArguments, h.arguments, perform]

/-- Whether an ending is one that a validation is to have; documents that are too deep
are left aside. -/
def IsVerdict (e : Ending) : Prop :=
  e = .exit 0 ∨ e = .exit 1 ∨ e = .crash (.load (.badScalar .tooDeep))

theorem loadFailure_isVerdict_iff (f : LoadFault) :
    IsVerdict (loadFailure f).ending ↔ f.IsReported ∨ f = .badScalar .tooDeep := by
  cases f <;> simp [loadFailure, failure, IsVerdict, LoadFault.IsReported]

theorem validate_isVerdict_iff (s : Surroundings) (config : Option Spelled) :
    IsVerdict (validate s config).ending ↔
      ∀ f, s.load config = .error f →
        f.IsReported ∨ f = .badScalar .tooDeep := by
  simp only [validate]
  cases hload : s.load config with
  | ok settings => simp [IsVerdict, success]
  | error f => simp [loadFailure_isVerdict_iff]

/-- Whether the file of a configuration has no fault that loading does not report. -/
def LoadsReportably (s : Surroundings) (config : Option Spelled) : Prop :=
  ∀ p, configPath config s.env = some p →
    ∀ f, Unreported s.env s.residues s.files p f → f = .badScalar .tooDeep

theorem load_isReported_iff (s : Surroundings) (config : Option Spelled) :
    (∀ f, s.load config = .error f →
      f.IsReported ∨ f = .badScalar .tooDeep) ↔ LoadsReportably s config := by
  constructor
  · intro h p hp f hf
    have hnot : ¬f.IsReported := by
      rintro ⟨fault, rfl⟩
      cases hf with
      | bytes _ _ hbytes => cases hbytes
    exact (h f ((load_eq_error_iff hnot).mpr ⟨p, hp, hf⟩)).resolve_left hnot
  · intro h f hf
    by_cases hreported : f.IsReported
    · exact .inl hreported
    · obtain ⟨p, hp, hfault⟩ := (load_eq_error_iff hreported).mp hf
      exact .inr (h p hp f hfault)

/-- Loading reports whatever it fails with, and a validation ends with its verdict,
exactly when the file has no fault of another kind; and such a fault has its cause in the
path, in the bytes, in a scalar or in an integer of the file. -/
theorem loading_reported_iff (s : Surroundings) (config : Option Spelled) :
    ((∀ f, s.load config = .error f →
        f.IsReported ∨ f = .badScalar .tooDeep) ↔ LoadsReportably s config) ∧
    (∀ args, AsksForValidation s args config →
      (IsVerdict (run s args).ending ↔ LoadsReportably s config)) ∧
    ∀ p f, configPath config s.env = some p → Unreported s.env s.residues s.files p f →
      (f = .badPath ∧ (.char '\x00' ∈ p.points ∨ p.bytes? = none)) ∨
      ∃ bytes, s.files.read (normalPath p) = .ok bytes ∧
        ((f = .notUtf8 ∧ ∀ text, bytes ≠ utf8 text) ∨
          ∃ text, bytes = utf8 text ∧
            ((∃ g, f = .badScalar g ∧ Yaml.HasFault (normalLines text) g) ∨
              ∃ doc, f = .unwritable ∧ Yaml.read (normalLines text) = .ok doc ∧
                doc.root.HoldsLongIn doc.table)) := by
  refine ⟨load_isReported_iff s config, fun args hasks => ?_, fun p f _ hf => ?_⟩
  · rw [run_of_asksForValidation hasks, validate_isVerdict_iff, load_isReported_iff]
  · cases hf with
    | path hpath => exact .inl ⟨rfl, hpath⟩
    | bytes _ hread hbytes => exact .inr ⟨_, hread, hbytes.cause⟩

def oneFileSurroundings (bytes : List UInt8) : Surroundings where
  env := Environment.empty
  files := fun _ => .ok (.file bytes)
  answer := .reply ⟨204, none, []⟩
  stamp := ""

def oneFileArguments : List Spelled := ["validate", "--config", "c.yaml"]

/-- A byte that begins no character, a day that no month has, a word that is no truth value
and an escape for no character end a validation without a verdict. -/
theorem validate_unreported :
    let ending (bytes : List UInt8) := (run (oneFileSurroundings bytes) oneFileArguments).ending
    AsksForValidation (oneFileSurroundings [0xff]) oneFileArguments (some "c.yaml") ∧
      ending [0xff] = .crash (.load .notUtf8) ∧
      ending (utf8 "a: 2024-02-30".toList) = .crash (.load (.badScalar .noSuchValue)) ∧
      ending (utf8 "!!bool maybe".toList) = .crash (.load (.badScalar .unknownWord)) ∧
      ending (utf8 "\"\\UFFFFFFFF\"".toList) = .crash (.load (.badScalar .tooLarge)) := by
  refine ⟨⟨?_, ?_⟩, ?_, ?_, ?_, ?_⟩ <;> decide +kernel

theorem loading_reported_valid :
    let s := oneFileSurroundings (utf8 "log-level: debug".toList)
    AsksForValidation s oneFileArguments (some "c.yaml") ∧ LoadsReportably s (some "c.yaml") ∧
      (run s oneFileArguments).ending = .exit 0 := by
  intro s
  have hasks : AsksForValidation s oneFileArguments (some "c.yaml") :=
    ⟨by decide +kernel, by decide +kernel⟩
  have hexit : (run s oneFileArguments).ending = .exit 0 := by decide +kernel
  obtain ⟨-, hruns, -⟩ := loading_reported_iff s (some "c.yaml")
  exact ⟨hasks, (hruns oneFileArguments hasks).mp (.inl hexit), hexit⟩

end AlertRelay.Command
