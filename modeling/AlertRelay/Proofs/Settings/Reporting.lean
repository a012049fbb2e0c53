import AlertRelay.Proofs.Environment
import AlertRelay.Proofs.Settings.Faults
import AlertRelay.Proofs.Text.Parts
import AlertRelay.Proofs.Text.Utf8
import AlertRelay.Proofs.Yaml.Construction

/-!
# Which faults of loading are reported

Loading answers for a file that cannot be read, for a text of the wrong form and for
settings that do not fit.  It does not answer for a path that no file can have, for
bytes that are no text, for a scalar without a value, and for an integer that is too
long where a text is wanted.
-/

namespace AlertRelay.Settings

open AlertRelay.Text

def utf8 (text : List Char) : List UInt8 := text.flatMap String.utf8EncodeChar

/-- What makes the bytes of a file fail with a fault that is not reported. -/
inductive UnreportedBytes (env : Environment) (residues : Value.Residues) (path : Spelled)
    (bytes : List UInt8) :
    LoadFault → Prop where
  | encoding (htext : ∀ text, bytes ≠ utf8 text) : UnreportedBytes env residues path bytes .notUtf8
  | scalar {text : List Char} {f : Yaml.Fault} (htext : bytes = utf8 text)
      (hf : Yaml.read (normalLines text) = .error f) (hform : f ≠ .malformed) :
      UnreportedBytes env residues path bytes (.badScalar f)
  | integer {text : List Char} {doc : Document} {top : List (Value × Value)}
      {table : SharedTable} (htext : bytes = utf8 text)
      (hdoc : Yaml.read (normalLines text) = .ok doc)
      (htop : documentEntries path doc = .ok (top, table))
      (hentries : ofEntries env ⟨table, residues⟩ top = .error .unwritable) :
      UnreportedBytes env residues path bytes .unwritable

/-- What makes loading a file fail with a fault that is not reported. -/
inductive Unreported (env : Environment) (residues : Value.Residues) (files : Files)
    (path : Spelled) : LoadFault → Prop where
  | path (hpath : .char '\x00' ∈ path.points ∨ path.bytes? = none) :
      Unreported env residues files path .badPath
  | bytes {bytes : List UInt8} {f : LoadFault} (hpath : isPath path = true)
      (hread : files.read (normalPath path) = .ok bytes)
      (hbytes : UnreportedBytes env residues (normalPath path) bytes f) :
      Unreported env residues files path f

variable {env : Environment} {residues : Value.Residues} {f : LoadFault}

/-! ## The bytes of a file -/

theorem parseFile_of_bytes (path : Spelled) {bytes : List UInt8}
    (htext : ∀ text, bytes ≠ utf8 text) : parseFile path bytes = .error .notUtf8 := by
  have hnone : Utf8.strict? bytes = none :=
    Option.eq_none_iff_forall_not_mem.mpr fun text h => htext text (Utf8.strict?_eq_some_iff.mp h)
  simp only [parseFile, hnone]

theorem parseFile_of_fault (path : Spelled) {text : List Char} {g : Yaml.Fault}
    (hg : Yaml.read (normalLines text) = .error g) :
    parseFile path (utf8 text) =
      .error (if g = .malformed then .settings (.malformed path) else .badScalar g) := by
  simp only [parseFile, Utf8.strict?_eq_some_iff.mpr (rfl : utf8 text = _), hg]
  cases g <;> rfl

theorem parseFile_of_document (path : Spelled) {text : List Char} {doc : Document}
    (hdoc : Yaml.read (normalLines text) = .ok doc) :
    parseFile path (utf8 text) = documentEntries path doc := by
  simp only [parseFile, Utf8.strict?_eq_some_iff.mpr (rfl : utf8 text = _), hdoc]

def loadBytes (env : Environment) (residues : Value.Residues) (path : Spelled)
    (bytes : List UInt8) : Except LoadFault Settings := do
  let (top, table) ← parseFile path bytes
  ofEntries env ⟨table, residues⟩ top

theorem loadBytes_of_document {path : Spelled} {text : List Char} {doc : Document}
    (hf : ¬f.IsReported) (hdoc : Yaml.read (normalLines text) = .ok doc)
    (h : loadBytes env residues path (utf8 text) = .error f) :
    UnreportedBytes env residues path (utf8 text) f := by
  simp only [loadBytes, parseFile_of_document path hdoc] at h
  rcases bind_eq_error.mp h with htop | ⟨⟨top, table⟩, htop, hentries⟩
  · exact absurd ((documentEntries_ends path doc).1 f htop) hf
  · have hlong : Covers True table top := fun _ _ _ => trivial
    rcases ofEntries_fails ⟨table, residues⟩ env hlong (fun _ => trivial) f hentries with
      hreported | ⟨rfl, -⟩
    · exact absurd hreported hf
    · exact .integer rfl hdoc htop hentries

theorem loadBytes_eq_error_iff (hf : ¬f.IsReported) {path : Spelled} {bytes : List UInt8} :
    loadBytes env residues path bytes = .error f ↔ UnreportedBytes env residues path bytes f := by
  constructor
  · intro h
    by_cases htext : ∃ text, bytes = utf8 text
    · obtain ⟨text, rfl⟩ := htext
      cases hread : Yaml.read (normalLines text) with
      | ok doc => exact loadBytes_of_document hf hread h
      | error g =>
          simp only [loadBytes, parseFile_of_fault path hread] at h
          obtain rfl := Except.error.inj h
          split at hf
          · exact absurd ⟨_, rfl⟩ hf
          · rename_i hform
            rw [if_neg hform]
            exact .scalar rfl hread hform
    · have hbytes : ∀ text, bytes ≠ utf8 text := fun text h => htext ⟨text, h⟩
      simp only [loadBytes, parseFile_of_bytes path hbytes] at h
      obtain rfl := Except.error.inj h
      exact .encoding hbytes
  · intro h
    cases h with
    | encoding htext =>
        simp only [loadBytes, parseFile_of_bytes path htext]
        rfl
    | scalar htext hread hform =>
        simp only [loadBytes, htext, parseFile_of_fault path hread, if_neg hform]
        rfl
    | integer htext hdoc htop hentries =>
        simp only [loadBytes, htext, parseFile_of_document path hdoc, htop]
        exact hentries

/-! ## The file -/

theorem isPath_eq_false_iff {path : Spelled} :
    isPath path = false ↔ .char '\x00' ∈ path.points ∨ path.bytes? = none := by
  cases hbytes : path.bytes? <;> simp [isPath, hbytes]

@[simp] theorem isPath_normalPath (path : Spelled) : isPath (normalPath path) = isPath path := by
  have hnul : .char '\x00' ∈ (normalPath path).points ↔ .char '\x00' ∈ path.points :=
    mem_normalPath_iff (by decide) (by decide)
  have hname : isName (normalPath path) = isName path := by
    rw [Bool.eq_iff_iff, isName_iff, isName_iff]
    -- the points that a path may lose or gain stand for bytes
    refine forall_congr' fun p => ?_
    by_cases hslash : p = .char '/'
    · simp [hslash, Point.bytes?]
    by_cases hdot : p = .char '.'
    · simp [hdot, Point.bytes?]
    rw [mem_normalPath_iff hslash hdot]
  simp only [isName] at hname
  rw [isPath, isPath, hname, Bool.eq_iff_iff]
  simp [hnul]

theorem readFile_of_no_path (files : Files) {path : Spelled} (hpath : isPath path = false) :
    readFile files path = .error .badPath := by
  simp only [readFile, isPath_normalPath, hpath, Bool.not_false, if_true]

theorem readFile_of_path (files : Files) {path : Spelled} (hpath : isPath path = true) :
    readFile files path =
      match files.read (normalPath path) with
      | .error f => .error (.settings (.unreadable (normalPath path) f))
      | .ok bytes => parseFile (normalPath path) bytes := by
  cases hread : files.read (normalPath path) <;>
    simp only [readFile, isPath_normalPath, hpath, hread, Bool.not_true, Bool.false_eq_true,
      if_false]

theorem loadFile_eq_error_iff (hf : ¬f.IsReported) {files : Files} {path : Spelled} :
    (readFile files path >>= fun source => ofEntries env ⟨source.2, residues⟩ source.1) =
      .error f ↔ Unreported env residues files path f := by
  cases hpath : isPath path with
  | false =>
      rw [readFile_of_no_path files hpath]
      constructor
      · intro h
        obtain rfl := Except.error.inj h
        exact .path (isPath_eq_false_iff.mp hpath)
      · intro h
        cases h with
        | path => rfl
        | bytes hnot => simp [hpath] at hnot
  | true =>
      rw [readFile_of_path files hpath]
      have hnone : ¬(.char '\x00' ∈ path.points ∨ path.bytes? = none) := by
        rw [← isPath_eq_false_iff, hpath]
        exact Bool.noConfusion
      cases hread : files.read (normalPath path) with
      | error g =>
          constructor
          · intro h
            exact absurd ⟨_, (Except.error.inj h).symm⟩ hf
          · intro h
            cases h with
            | path hnul => exact absurd hnul hnone
            | bytes _ hok => simp [hread] at hok
      | ok bytes =>
          refine (loadBytes_eq_error_iff hf).trans ⟨.bytes hpath hread, fun h => ?_⟩
          cases h with
          | path hnul => exact absurd hnul hnone
          | bytes _ hok hbytes =>
              rw [hread] at hok
              obtain rfl := Except.ok.inj hok
              exact hbytes

theorem ofEntries_nil_isReported (env : Environment) (residues : Value.Residues) :
    FailsWith LoadFault.IsReported (ofEntries env ⟨[], residues⟩ []) := by
  have hc : Covers False [] [] := by simp [Covers]
  exact (ofEntries_fails ⟨[], residues⟩ env hc (by simp)).mono
    fun f hf => hf.resolve_right fun h => h.2

/-- Loading fails with a fault that is not reported exactly for its file. -/
theorem load_eq_error_iff (hf : ¬f.IsReported) {path : Option Spelled} {files : Files} :
    load residues path env files = .error f ↔
      ∃ p, configPath path env = some p ∧ Unreported env residues files p f := by
  simp only [load, topEntries]
  cases hpath : configPath path env with
  | none =>
      refine ⟨fun h => absurd (ofEntries_nil_isReported env residues f h) hf, fun h => ?_⟩
      obtain ⟨p, hp, -⟩ := h
      simp at hp
  | some p => simpa using loadFile_eq_error_iff hf

/-! ## Causes -/

/-- The bytes of a file are to blame for a fault that is not reported: they are no
text, or the text has a fault of its own, or an integer in it is too long. -/
theorem UnreportedBytes.cause {path : Spelled} {bytes : List UInt8}
    (h : UnreportedBytes env residues path bytes f) :
    (f = .notUtf8 ∧ ∀ text, bytes ≠ utf8 text) ∨
      ∃ text, bytes = utf8 text ∧
        ((∃ g, f = .badScalar g ∧ Yaml.HasFault (normalLines text) g) ∨
          ∃ doc, f = .unwritable ∧ Yaml.read (normalLines text) = .ok doc ∧
            doc.root.HoldsLongIn doc.table) := by
  cases h with
  | encoding htext => exact .inl ⟨rfl, htext⟩
  | @scalar text g htext hread hform =>
      have hfault := (Yaml.read_fails _ g hread).resolve_left hform
      exact .inr ⟨text, htext, .inl ⟨g, rfl, hfault⟩⟩
  | @integer text doc top table htext hdoc htop hentries =>
      obtain ⟨hcovers, htable⟩ := (documentEntries_ends path doc).2 _ htop
      rcases ofEntries_fails ⟨table, residues⟩ env hcovers htable _ hentries with
        ⟨fault, hfault⟩ | ⟨-, hlong⟩
      · simp at hfault
      · exact .inr ⟨text, htext, .inr ⟨doc, rfl, hdoc, hlong⟩⟩

end AlertRelay.Settings
