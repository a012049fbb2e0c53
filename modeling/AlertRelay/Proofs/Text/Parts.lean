import AlertRelay.Files
import AlertRelay.Proofs.Text.Spelled

/-!
# Parts of a text

Splitting a text at a mark and joining parts with one keep everything else.
-/

namespace AlertRelay.Text

variable {α : Type} {sep c : α}

/-- A text up to the first mark and what follows it are found again in the whole. -/
theorem append_mark_inj {x y r s : List α} (hx : sep ∉ x) (hy : sep ∉ y) :
    x ++ sep :: r = y ++ sep :: s ↔ x = y ∧ r = s := by
  constructor
  · intro h
    induction x generalizing y with
    | nil =>
        cases y with
        | nil => simpa using h
        | cons d y =>
            obtain ⟨rfl, -⟩ : sep = d ∧ _ := by simpa using h
            simp at hy
    | cons c x ih =>
        cases y with
        | nil =>
            obtain ⟨rfl, -⟩ : c = sep ∧ _ := by simpa using h
            simp at hx
        | cons d y =>
            obtain ⟨rfl, hrest⟩ : c = d ∧ x ++ sep :: r = y ++ sep :: s := by simpa using h
            obtain ⟨rfl, rfl⟩ := ih (by simp_all) (by simp_all) hrest
            exact ⟨rfl, rfl⟩
  · rintro ⟨rfl, rfl⟩
    rfl

theorem mem_intercalate {parts : List (List α)} (hc : c ∈ [sep].intercalate parts) :
    c = sep ∨ ∃ part ∈ parts, c ∈ part := by
  induction parts with
  | nil => simp at hc
  | cons part parts ih =>
      cases parts with
      | nil => exact .inr ⟨part, by simp, by simpa using hc⟩
      | cons next parts =>
          rw [List.intercalate_cons_cons, List.mem_append, List.mem_append] at hc
          rcases hc with (hpart | hsep) | hrest
          · exact .inr ⟨part, by simp, hpart⟩
          · exact .inl (List.mem_singleton.mp hsep)
          · refine (ih hrest).imp_right fun ⟨later, hlater, hmem⟩ => ?_
            exact ⟨later, List.mem_cons_of_mem _ hlater, hmem⟩

theorem mem_intercalate_of_mem {parts : List (List α)} {part : List α}
    (hpart : part ∈ parts) (hc : c ∈ part) : c ∈ [sep].intercalate parts := by
  induction parts with
  | nil => simp at hpart
  | cons first parts ih =>
      cases parts with
      | nil =>
          obtain rfl := List.mem_singleton.mp hpart
          simpa using hc
      | cons next parts =>
          rw [List.intercalate_cons_cons, List.mem_append]
          rcases List.mem_cons.mp hpart with rfl | hlater
          · exact .inl (List.mem_append_left _ hc)
          · exact .inr (ih hlater)

/-- The separator as a part of what follows it. -/
theorem intercalate_cons (sep part : List α) (parts : List (List α)) :
    sep.intercalate (part :: parts) = part ++ parts.flatMap (sep ++ ·) := by
  induction parts generalizing part with
  | nil => simp
  | cons next parts ih =>
      rw [List.intercalate_cons_cons, ih, List.flatMap_cons, List.append_assoc, List.append_assoc]

/-- What stands in a text is the mark, or stands in one of the parts. -/
theorem mem_of_mem_splitOn [DecidableEq α] (sep : α) {s : List α} (hc : c ∈ s) :
    c = sep ∨ ∃ part ∈ s.splitOn sep, c ∈ part :=
  mem_intercalate ((List.intercalate_splitOn sep).symm ▸ hc)

theorem mem_of_mem_part [DecidableEq α] {s part : List α} (hpart : part ∈ s.splitOn sep)
    (hc : c ∈ part) :
    c ∈ s := by
  rw [← s.intercalate_splitOn sep]
  exact mem_intercalate_of_mem hpart hc

end AlertRelay.Text

namespace AlertRelay

open AlertRelay.Text

/-! ## Paths -/

theorem ne_of_mem_pathRoot {path : List Point} {p : Point} (hp : p ∈ pathRoot path) :
    p = .char '/' := by
  simp only [pathRoot] at hp
  split at hp <;> simp_all

theorem not_mem_of_isIdle {segment : List Point} {p : Point} (h : isIdle segment = true)
    (hp : p ≠ .char '.') : p ∉ segment := by
  rcases Bool.or_eq_true _ _ ▸ h with hempty | hdot
  · simp [List.isEmpty_iff.mp hempty]
  · simpa [beq_iff_eq.mp hdot] using hp

/-- A path keeps every point that has no meaning in paths. -/
theorem mem_normalPath_iff {path : Spelled} {p : Point} (hslash : p ≠ .char '/')
    (hdot : p ≠ .char '.') : p ∈ (normalPath path).points ↔ p ∈ path.points := by
  have hbody : p ∈ [Point.char '/'].intercalate
      ((pathSegments path.points).filter fun s => !isIdle s) ↔ p ∈ path.points := by
    constructor
    · intro hp
      obtain hsep | ⟨segment, hsegment, hmem⟩ := mem_intercalate hp
      · exact absurd hsep hslash
      · exact mem_of_mem_part (List.mem_filter.mp hsegment).1 hmem
    · intro hp
      obtain hsep | ⟨segment, hsegment, hmem⟩ := mem_of_mem_splitOn (.char '/') hp
      · exact absurd hsep hslash
      · refine mem_intercalate_of_mem (List.mem_filter.mpr ⟨hsegment, ?_⟩) hmem
        cases hidle : isIdle segment with
        | false => rfl
        | true => exact absurd hmem (not_mem_of_isIdle hidle hdot)
  simp only [normalPath]
  split
  · rename_i hempty
    rw [← hbody]
    rw [List.isEmpty_iff, List.append_eq_nil_iff] at hempty
    simp [hempty.2, hdot]
  · rw [List.mem_append, hbody]
    exact ⟨fun h => h.elim (fun hroot => absurd (ne_of_mem_pathRoot hroot) hslash) id, .inr⟩

end AlertRelay
