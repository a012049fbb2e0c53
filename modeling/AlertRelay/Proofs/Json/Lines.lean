import AlertRelay.Proofs.Json.Reading

/-!
# Lines of ASCII

In the style of log lines a value is rendered in printable ASCII alone, so it stays on one
line whatever its texts hold.
-/

namespace AlertRelay.Json

open AlertRelay.Text AlertRelay.Number

/-- Whether a text is printable ASCII. -/
def IsAsciiLine (s : List Char) : Prop := ∀ c ∈ s, 0x20 ≤ c.toNat ∧ c.toNat < 0x7f

variable {s t : List Char} {c : Char}

theorem IsAsciiLine.nil : IsAsciiLine [] := by
  simp [IsAsciiLine]

theorem IsAsciiLine.cons (hc : 0x20 ≤ c.toNat ∧ c.toNat < 0x7f) (hs : IsAsciiLine s) :
    IsAsciiLine (c :: s) :=
  List.forall_mem_cons.mpr ⟨hc, hs⟩

theorem IsAsciiLine.append (hs : IsAsciiLine s) (ht : IsAsciiLine t) : IsAsciiLine (s ++ t) :=
  List.forall_mem_append.mpr ⟨hs, ht⟩

/-! ## Strings -/

theorem isAsciiLine_hexDigits (width n : Nat) : IsAsciiLine (hexDigits width n) := by
  have hdigit : ∀ d < 16, 0x20 ≤ (hexDigit d).toNat ∧ (hexDigit d).toNat < 0x7f := by decide
  induction width generalizing n with
  | zero => exact .nil
  | succ width ih => exact (ih (n / 16)).append (.cons (hdigit _ (Nat.mod_lt n (by decide))) .nil)

theorem isAsciiLine_unitEscape (n : Nat) : IsAsciiLine (unitEscape n) :=
  .cons (by decide) (.cons (by decide) (isAsciiLine_hexDigits 4 n))

theorem isAsciiLine_numberEscape (n : Nat) : IsAsciiLine (numberEscape n) := by
  rw [numberEscape]
  split
  · exact isAsciiLine_unitEscape n
  · exact (isAsciiLine_unitEscape _).append (isAsciiLine_unitEscape _)

theorem isAsciiLine_escapedChar (c : Char) : IsAsciiLine (escapedChar true c) := by
  have hletter {d : Char} (hd : 0x20 ≤ d.toNat ∧ d.toNat < 0x7f) : IsAsciiLine ['\\', d] :=
    .cons (by decide) (.cons hd .nil)
  simp only [escapedChar]
  split_ifs with _ _ _ _ _ _ _ hnumber
  any_goals exact hletter (by decide)
  · exact isAsciiLine_numberEscape c.toNat
  · simp only [Bool.true_and, Bool.or_eq_true, decide_eq_true_eq, not_or, not_lt, not_le]
      at hnumber
    exact .cons hnumber .nil

theorem isAsciiLine_escapedPoint (p : Point) : IsAsciiLine (escapedPoint true p) := by
  cases p with
  | char c => exact isAsciiLine_escapedChar c
  | half isLow bits => exact isAsciiLine_unitEscape _

theorem isAsciiLine_renderText (s : Spelled) : IsAsciiLine (renderText true s) := by
  refine .cons (by decide) (IsAsciiLine.append (fun c hc => ?_) (.cons (by decide) .nil))
  obtain ⟨p, -, hp⟩ := List.mem_flatMap.mp hc
  exact isAsciiLine_escapedPoint p c hp

/-! ## Values -/

theorem toNat_of_isWordChar (h : isWordChar c = true) : 0x20 ≤ c.toNat ∧ c.toNat < 0x7f := by
  unfold isWordChar Char.isAlphanum Char.isAlpha Char.isUpper Char.isLower Char.isDigit at h
  simp only [Bool.or_eq_true, Bool.and_eq_true, decide_eq_true_eq, beq_iff_eq,
    UInt32.le_iff_toNat_le, ge_iff_le] at h
  rcases h with ((((⟨hlow, hhigh⟩ | ⟨hlow, hhigh⟩) | ⟨hlow, hhigh⟩) | rfl) | rfl) | rfl
  · exact ⟨Nat.le_trans (by decide) hlow, Nat.lt_of_le_of_lt hhigh (by decide)⟩
  · exact ⟨Nat.le_trans (by decide) hlow, Nat.lt_of_le_of_lt hhigh (by decide)⟩
  · exact ⟨Nat.le_trans (by decide) hlow, Nat.lt_of_le_of_lt hhigh (by decide)⟩
  all_goals decide

theorem IsWord.isAsciiLine (h : IsWord s) : IsAsciiLine s :=
  fun c hc => toNat_of_isWordChar (h.2 c hc)

theorem isAsciiLine_gap : IsAsciiLine spaced.gap := .cons (by decide) .nil

mutual

theorem isAsciiLine_render : ∀ {v : Json}, v.IsFinite → IsAsciiLine (render spaced v)
  | .null, _ => (isWord_of_all (by decide) rfl).isAsciiLine
  | .bool false, _ => (isWord_of_all (by decide) rfl).isAsciiLine
  | .bool true, _ => (isWord_of_all (by decide) rfl).isAsciiLine
  | .int i, _ => (isWord_integerText i).isAsciiLine
  | .float _, hx => (isWord_renderFloat hx).isAsciiLine
  | .text s, _ => isAsciiLine_renderText s
  | .array _, h =>
      .cons (by decide) ((isAsciiLine_renderItems h).append (.cons (by decide) .nil))
  | .object _, h =>
      .cons (by decide) ((isAsciiLine_renderFields h).append (.cons (by decide) .nil))

theorem isAsciiLine_renderItems :
    ∀ {items : List Json}, AreFiniteItems items → IsAsciiLine (renderItems spaced items)
  | [], _ => .nil
  | [_], h => isAsciiLine_render h.1
  | v :: w :: items, h => by
      have hcomma : IsAsciiLine (',' :: spaced.gap) := .cons (by decide) isAsciiLine_gap
      rw [renderItems.eq_3 _ _ _ (by simp)]
      exact ((isAsciiLine_render h.1).append hcomma).append (isAsciiLine_renderItems h.2)

theorem isAsciiLine_renderFields :
    ∀ {fields : List (Spelled × Json)}, AreFiniteFields fields →
      IsAsciiLine (renderFields spaced fields)
  | [], _ => .nil
  | [(key, v)], h => by
      have hcolon : IsAsciiLine (':' :: spaced.gap) := .cons (by decide) isAsciiLine_gap
      rw [renderFields]
      exact ((isAsciiLine_renderText key).append hcolon).append (isAsciiLine_render h.1)
  | (key, v) :: field :: fields, h => by
      have hcolon : IsAsciiLine (':' :: spaced.gap) := .cons (by decide) isAsciiLine_gap
      have hcomma : IsAsciiLine (',' :: spaced.gap) := .cons (by decide) isAsciiLine_gap
      rw [renderFields.eq_3 _ _ _ _ (by simp)]
      exact ((((isAsciiLine_renderText key).append hcolon).append (isAsciiLine_render h.1)).append
        hcomma).append (isAsciiLine_renderFields h.2)

end

end AlertRelay.Json
