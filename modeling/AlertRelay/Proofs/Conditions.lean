import AlertRelay.Command.Run
import AlertRelay.Proofs.Text.Spelled

/-!
# How conditions are written

A condition is written with its outcome behind the last colon.  Reading a text
gives a condition exactly when the text is how that condition is written.
-/

namespace AlertRelay

open AlertRelay.Text

namespace ConditionResult

def text (r : ConditionResult) : Spelled :=
  r.condition ++ (if r.success then ":ok" else ":fail" : Spelled)

/-! ## Around the last colon -/

theorem splitLastColon_of_not_mem {s : List Point} (h : Point.char ':' ∉ s) :
    splitLastColon s = none := by
  induction s with
  | nil => rfl
  | cons p s ih =>
      obtain ⟨hc, hs⟩ : Point.char ':' ≠ p ∧ Point.char ':' ∉ s := by simpa using h
      simp [splitLastColon, ih hs, Ne.symm hc]

theorem splitLastColon_append {before : List Point} (after : List Point)
    (h : Point.char ':' ∉ after) :
    splitLastColon (before ++ Point.char ':' :: after) = some (before, after) := by
  induction before with
  | nil => simp [splitLastColon, splitLastColon_of_not_mem h]
  | cons p before ih => simp [splitLastColon, ih]

theorem splitLastColon_eq_some {s before after : List Point}
    (h : splitLastColon s = some (before, after)) : s = before ++ Point.char ':' :: after := by
  induction s generalizing before with
  | nil => simp [splitLastColon] at h
  | cons p s ih =>
      simp only [splitLastColon] at h
      split at h
      · rename_i before' after' hrest
        obtain ⟨rfl, rfl⟩ : p :: before' = before ∧ after' = after := by simpa using h
        rw [ih hrest]
        rfl
      · split at h
        · obtain ⟨rfl, rfl⟩ : [] = before ∧ s = after := by simpa using h
          simp_all
        · simp at h

/-! ## Reading -/

/-- Reading is the inverse of writing, for conditions that are not empty. -/
theorem parse?_eq_some_iff {s : Spelled} {r : ConditionResult} :
    parse? s = some r ↔ r.condition ≠ "" ∧ s = r.text := by
  constructor
  · intro h
    simp only [parse?] at h
    split at h
    · simp at h
    · rename_i condition outcome hsplit
      have hs := splitLastColon_eq_some hsplit
      split at h
      · simp at h
      · rename_i hne
        have hcondition : (⟨condition⟩ : Spelled) ≠ "" := by simpa [Spelled.eq_empty_iff] using hne
        split at h
        · rename_i hok
          obtain rfl : (⟨⟨condition⟩, true⟩ : ConditionResult) = r := by simpa using h
          refine ⟨hcondition, Spelled.ext ?_⟩
          rw [hs, hok]
          rfl
        · split at h
          · rename_i hfail
            obtain rfl : (⟨⟨condition⟩, false⟩ : ConditionResult) = r := by simpa using h
            refine ⟨hcondition, Spelled.ext ?_⟩
            rw [hs, hfail]
            rfl
          · simp at h
  · rintro ⟨hne, rfl⟩
    obtain ⟨⟨condition⟩, success⟩ := r
    have hlist : condition ≠ [] := by simpa [Spelled.eq_empty_iff] using hne
    cases success with
    | true =>
        have hsplit : splitLastColon (text ⟨⟨condition⟩, true⟩).points = _ :=
          splitLastColon_append (Spelled.points "ok") (by decide)
        simp only [parse?, hsplit, hlist, if_false, if_true]
    | false =>
        have hsplit : splitLastColon (text ⟨⟨condition⟩, false⟩).points = _ :=
          splitLastColon_append (Spelled.points "fail") (by decide)
        have hfail : Spelled.points "fail" ≠ Spelled.points "ok" := by decide
        simp only [parse?, hsplit, hlist, hfail, if_false, if_true]

end ConditionResult

namespace Command

/-! ## Reading several -/

/-- Whether a text is a condition that is not empty with its outcome behind it. -/
def IsCondition (text : Spelled) : Prop :=
  ∃ condition : Spelled, condition ≠ "" ∧ (text = condition ++ ":ok" ∨ text = condition ++ ":fail")

theorem isCondition_text {r : ConditionResult} (h : r.condition ≠ "") : IsCondition r.text := by
  refine ⟨r.condition, h, ?_⟩
  cases hr : r.success <;> simp [ConditionResult.text, hr]

/-- Conditions that are read come before whatever the reading of the rest gives. -/
theorem parseConditions_map_text_append {results : List ConditionResult}
    (h : ∀ r ∈ results, r.condition ≠ "") (rest : List Spelled) :
    parseConditions (results.map ConditionResult.text ++ rest) =
      (parseConditions rest).map (results ++ ·) := by
  induction results with
  | nil => cases hrest : parseConditions rest <;> simp [hrest, Except.map]
  | cons r results ih =>
      have hr := ConditionResult.parse?_eq_some_iff.mpr ⟨h r (by simp), rfl⟩
      rw [List.map_cons, List.cons_append, parseConditions, hr,
        ih fun q hq => h q (by simp [hq])]
      cases parseConditions rest <;> rfl

theorem parseConditions_map_text {results : List ConditionResult}
    (h : ∀ r ∈ results, r.condition ≠ "") :
    parseConditions (results.map ConditionResult.text) = .ok results := by
  simpa [parseConditions, Except.map] using parseConditions_map_text_append h []

theorem not_isCondition_of_parse? {text : Spelled} (h : ConditionResult.parse? text = none) :
    ¬IsCondition text := by
  rintro ⟨condition, hne, htext⟩
  have hsome : ∃ r, ConditionResult.parse? text = some r := by
    rcases htext with htext | htext
    · exact ⟨⟨condition, true⟩, ConditionResult.parse?_eq_some_iff.mpr ⟨hne, htext⟩⟩
    · exact ⟨⟨condition, false⟩, ConditionResult.parse?_eq_some_iff.mpr ⟨hne, htext⟩⟩
  obtain ⟨r, hr⟩ := hsome
  simp [h] at hr

/-- Either the first text that is no condition is complained about, or all are read. -/
theorem parseConditions_cases (texts : List Spelled) :
    (∃ text ∈ texts, ¬IsCondition text ∧
      parseConditions texts = .error (.badCondition text)) ∨
    ∃ results : List ConditionResult,
      (∀ r ∈ results, r.condition ≠ "") ∧ texts = results.map ConditionResult.text := by
  induction texts with
  | nil => exact .inr ⟨[], by simp, rfl⟩
  | cons t texts ih =>
      cases ht : ConditionResult.parse? t with
      | none =>
          exact .inl ⟨t, by simp, not_isCondition_of_parse? ht, by simp [parseConditions, ht]⟩
      | some r =>
          obtain ⟨hr, rfl⟩ := ConditionResult.parse?_eq_some_iff.mp ht
          rcases ih with ⟨text, hmem, hbad, herror⟩ | ⟨results, hresults, rfl⟩
          · refine .inl ⟨text, by simp [hmem], hbad, ?_⟩
            simp [parseConditions, ht, herror, Except.map]
          · exact .inr ⟨r :: results, by simpa using ⟨hr, hresults⟩, rfl⟩

/-- A text that is no condition is complained about, or one before it is. -/
theorem parseConditions_of_malformed {texts : List Spelled}
    (h : ∃ text ∈ texts, ¬IsCondition text) :
    ∃ text ∈ texts, parseConditions texts = .error (.badCondition text) := by
  rcases parseConditions_cases texts with ⟨text, hmem, -, herror⟩ | ⟨results, hresults, rfl⟩
  · exact ⟨text, hmem, herror⟩
  · obtain ⟨text, hmem, hbad⟩ := h
    obtain ⟨r, hr, rfl⟩ := List.mem_map.mp hmem
    exact absurd (isCondition_text (hresults r hr)) hbad

/-- The first text that is no condition is complained about. -/
theorem parseConditions_append {results : List ConditionResult} {text : Spelled}
    (hresults : ∀ r ∈ results, r.condition ≠ "") (h : ConditionResult.parse? text = none)
    (rest : List Spelled) :
    parseConditions (results.map ConditionResult.text ++ text :: rest) =
      .error (.badCondition text) := by
  rw [parseConditions_map_text_append hresults, parseConditions, h]
  rfl

/-- A text is read as the condition and the outcome that it is written from, and it is written
from one pair of them at most.  Any other text is complained about as soon as it is met. -/
theorem parse?_inverts_writing (text : Spelled) :
    (∀ (c : Spelled) (b : Bool), ConditionResult.parse? text = some ⟨c, b⟩ ↔
        c ≠ "" ∧ text = c ++ (if b then ":ok" else ":fail" : Spelled)) ∧
      (∀ (c c' : Spelled) (b b' : Bool), c ≠ "" → c' ≠ "" →
        (text = c ++ (if b then ":ok" else ":fail" : Spelled)) →
        (text = c' ++ (if b' then ":ok" else ":fail" : Spelled)) → c = c' ∧ b = b') ∧
      ((∀ (c : Spelled) (b : Bool), c ≠ "" → text ≠ c ++ (if b then ":ok" else ":fail" : Spelled)) ↔
        ∀ results : List ConditionResult, (∀ r ∈ results, r.condition ≠ "") → ∀ rest,
          parseConditions (results.map ConditionResult.text ++ text :: rest) =
            .error (.badCondition text)) := by
  have hread (c : Spelled) (b : Bool) : ConditionResult.parse? text = some ⟨c, b⟩ ↔
      c ≠ "" ∧ text = c ++ (if b then ":ok" else ":fail" : Spelled) :=
    ConditionResult.parse?_eq_some_iff
  refine ⟨hread, ?_, ?_, ?_⟩
  · intro c c' b b' hc hc' htext htext'
    have hsame := ((hread c b).mpr ⟨hc, htext⟩).symm.trans ((hread c' b').mpr ⟨hc', htext'⟩)
    simpa using hsame
  · intro hother results hresults rest
    refine parseConditions_append hresults ?_ rest
    cases hparsed : ConditionResult.parse? text with
    | none => rfl
    | some r =>
        obtain ⟨hr, htext⟩ := (hread r.condition r.success).mp hparsed
        exact absurd htext (hother _ _ hr)
  · intro hrefused c b hc htext
    have hparsed := (hread c b).mpr ⟨hc, htext⟩
    have halone := hrefused [] (by simp) []
    simp [parseConditions, hparsed, Except.map] at halone

end Command

end AlertRelay
