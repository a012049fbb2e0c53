import AlertRelay.Json.Read
import AlertRelay.Proofs.Number.Shortest

/-!
# Reading numbers

The text of an integer, and that of a finite float, is a word that stands for the number that
it was rendered from.
-/

namespace AlertRelay.Json

open AlertRelay.Text AlertRelay.Number

/-! ## Whole numbers -/

theorem wholeNumber?_of_isWholePart {ds : List Char} (h : IsWholePart ds) :
    wholeNumber? ds = some (digitsValue ds) := by
  rcases h with rfl | ⟨hne, hhead⟩
  · rfl
  · simp [wholeNumber?, hne, hhead, digitsValue]

theorem isWholePart_naturalText (n : Nat) : IsWholePart (naturalText n) := by
  rcases Nat.eq_zero_or_pos n with rfl | hn
  · exact .inl rfl
  · exact .inr ⟨Nat.toDigits_ne_nil, head?_naturalText_ne_zero n hn⟩

theorem number?_of_splitMinus {word : List Char} {negative : Bool} {n : Nat}
    (h : splitMinus word = (negative, naturalText n)) :
    number? word = some (.int (signed negative n)) := by
  have htake : (naturalText n).takeWhile (·.isDigit) = naturalText n :=
    List.takeWhile_eq_self_iff.mpr (areDigits_naturalText n)
  have hdrop : (naturalText n).dropWhile (·.isDigit) = [] :=
    List.dropWhile_eq_nil_iff.mpr (areDigits_naturalText n)
  simp [number?, h, htake, hdrop, wholeNumber?_of_isWholePart (isWholePart_naturalText n),
    digitsValue_naturalText]

theorem splitMinus_append {ds : List Char} (hds : AreDigits ds) (hne : ds ≠ [])
    (rest : List Char) :
    splitMinus (ds ++ rest) = (false, ds ++ rest) := by
  obtain ⟨d, more, rfl⟩ := List.exists_cons_of_ne_nil hne
  rw [splitMinus]
  rintro more' ⟨⟩
  exact absurd (hds '-' (by simp)) (by decide)

theorem splitMinus_naturalText (n : Nat) :
    splitMinus (naturalText n) = (false, naturalText n) := by
  have hsplit := splitMinus_append (areDigits_naturalText n) Nat.toDigits_ne_nil []
  rwa [List.append_nil] at hsplit

theorem number?_integerText (i : Int) : number? (integerText i).toList = some (.int i) := by
  rw [integerText, String.toList_ofList]
  split
  · rename_i hnegative
    have hi : signed true i.natAbs = i := by
      simp only [signed, if_true]
      omega
    have hsplit : splitMinus ('-' :: naturalText i.natAbs) = (true, naturalText i.natAbs) := rfl
    rw [number?_of_splitMinus hsplit, hi]
  · rename_i hpositive
    have hi : signed false i.natAbs = i := by
      simp only [signed, Bool.false_eq_true, if_false]
      omega
    rw [number?_of_splitMinus (splitMinus_naturalText _), hi]

theorem integerText_inj {i j : Int} (h : integerText i = integerText j) : i = j := by
  have hi := number?_integerText i
  rw [h, number?_integerText j] at hi
  simpa using hi.symm

/-! ## Floats -/

theorem isDigit_of_endsDigits {rest : List Char} (h : EndsDigits rest) :
    ∀ c ∈ rest.head?, c.isDigit = false := by
  intro c hc
  by_contra hdigit
  have := decimalDigit?_of_isDigit (Bool.eq_true_of_not_eq_false hdigit)
  simp [h c hc] at this

theorem takeWhile_isDigit {ds rest : List Char} (hds : AreDigits ds) (hrest : EndsDigits rest) :
    (ds ++ rest).takeWhile (·.isDigit) = ds := by
  rw [List.takeWhile_append_of_pos hds]
  cases rest with
  | nil => simp
  | cons c rest => simp [isDigit_of_endsDigits hrest c rfl]

theorem dropWhile_isDigit {ds rest : List Char} (hds : AreDigits ds) (hrest : EndsDigits rest) :
    (ds ++ rest).dropWhile (·.isDigit) = rest := by
  rw [List.dropWhile_append_of_pos hds]
  cases rest with
  | nil => simp
  | cons c rest => simp [isDigit_of_endsDigits hrest c rfl]

theorem number?_of_numeral {word : List Char} {negative : Bool} (n : Numeral)
    (h : splitMinus word = (negative, n.text)) :
    number? word = some (.float (.ofDecimal negative n.coefficient n.scale)) := by
  have htake := takeWhile_isDigit n.whole_digits n.endsDigits_fractionText
  have hdrop := dropWhile_isDigit n.whole_digits n.endsDigits_fractionText
  have hread := n.unsignedNumeral?_text negative
  rw [← Numeral.text] at htake hdrop
  simp only [number?, h, htake, hdrop, hread, wholeNumber?_of_isWholePart n.whole_part,
    Option.bind_eq_bind, Option.bind_some]
  by_cases hfraction : n.fraction = []
  · obtain ⟨⟨negative, ds⟩, hending⟩ :=
      Option.ne_none_iff_exists'.mp (n.not_integer.resolve_left (· hfraction))
    simp [Numeral.fractionText, Numeral.endingText, hfraction, hending]
  · obtain ⟨d, rest, hcons⟩ := List.exists_cons_of_ne_nil hfraction
    have hd : d.isDigit = true := n.fraction_digits d (by simp [hcons])
    simp [Numeral.fractionText, hcons, hd]

theorem renderFloat_finite (negative : Bool) {m : Nat} {e : Int}
    (h : Binary64.IsCanonical m e) :
    ∃ n : Numeral, .ofDecimal negative n.coefficient n.scale = Binary64.finite negative m e ∧
      renderFloat (.finite negative m e) = Binary64.signText negative ++ n.text :=
  Binary64.exists_numeral _ negative h

theorem number?_renderFloat {x : Binary64} (hx : x.IsFinite) :
    number? (renderFloat x) = some (.float x) := by
  cases x with
  | nan => exact hx.elim
  | infinite => exact hx.elim
  | finite negative m e =>
      obtain ⟨n, hread, htext⟩ := renderFloat_finite negative hx
      have hsplit : splitMinus (renderFloat (.finite negative m e)) = (negative, n.text) := by
        rw [htext]
        cases negative with
        | true => rfl
        | false =>
            rw [Binary64.signText, if_neg (by decide), List.nil_append]
            exact splitMinus_append n.whole_digits n.whole_ne_nil _
      rw [number?_of_numeral n hsplit, hread]

/-! ## Words -/

def IsWord (s : List Char) : Prop := s ≠ [] ∧ ∀ c ∈ s, isWordChar c = true

theorem isWord_of_all {s : List Char} (hne : s ≠ []) (h : s.all isWordChar = true) : IsWord s :=
  ⟨hne, List.all_eq_true.mp h⟩

theorem isWordChar_of_isDigit {c : Char} (h : c.isDigit = true) : isWordChar c = true := by
  simp [isWordChar, Char.isAlphanum, h]

theorem isWord_integerText (i : Int) : IsWord (integerText i).toList := by
  rw [integerText, String.toList_ofList]
  split
  · refine ⟨by simp, ?_⟩
    intro c hc
    rcases List.mem_cons.mp hc with rfl | hdigit
    · decide
    · exact isWordChar_of_isDigit (areDigits_naturalText _ c hdigit)
  · refine ⟨Nat.toDigits_ne_nil, fun c hc => ?_⟩
    exact isWordChar_of_isDigit (areDigits_naturalText _ c hc)

theorem IsWord.append {s t : List Char} (ht : IsWord t) (hs : ∀ c ∈ s, isWordChar c = true) :
    IsWord (s ++ t) := by
  refine ⟨List.append_ne_nil_of_right_ne_nil s ht.1, fun c hc => ?_⟩
  rcases List.mem_append.mp hc with h | h
  · exact hs c h
  · exact ht.2 c h

theorem isWord_numeral (n : Numeral) : IsWord n.text := by
  have hdigits {ds : List Char} (h : AreDigits ds) : ∀ c ∈ ds, isWordChar c = true :=
    fun c hc => isWordChar_of_isDigit (h c hc)
  have hfraction : ∀ c ∈ n.fractionText, isWordChar c = true := by
    rw [Numeral.fractionText]
    split
    · simp
    · rw [List.forall_mem_cons]
      exact ⟨by decide, hdigits n.fraction_digits⟩
  have hending : ∀ c ∈ n.endingText, isWordChar c = true := by
    rw [Numeral.endingText]
    split
    · simp
    · rename_i negative ds heq
      rw [List.forall_mem_cons, List.forall_mem_cons]
      refine ⟨by decide, ?_, hdigits (n.ending_digits negative ds heq).1⟩
      cases negative <;> decide
  refine ⟨List.append_ne_nil_of_left_ne_nil n.whole_ne_nil _, fun c hc => ?_⟩
  rcases List.mem_append.mp hc with h | h
  · exact hdigits n.whole_digits c h
  · exact (List.mem_append.mp h).elim (hfraction c) (hending c)

theorem isWord_renderFloat {x : Binary64} (hx : x.IsFinite) : IsWord (renderFloat x) := by
  cases x with
  | nan => exact hx.elim
  | infinite => exact hx.elim
  | finite negative m e =>
      obtain ⟨n, -, htext⟩ := renderFloat_finite negative hx
      rw [htext]
      refine (isWord_numeral n).append fun c hc => ?_
      cases negative with
      | false => simp [Binary64.signText] at hc
      | true =>
          obtain rfl : c = '-' := by simpa [Binary64.signText] using hc
          decide

/-- A word that is read as a number is none of the three names. -/
theorem scalar?_of_number? {word : List Char} {v : Json} (h : number? word = some v) :
    scalar? word = some v := by
  have hnot {name : List Char} (hname : number? name = none) : word ≠ name := by
    rintro rfl
    rw [hname] at h
    simp at h
  rw [scalar?, if_neg (hnot (by decide)), if_neg (hnot (by decide)), if_neg (hnot (by decide)), h]

end AlertRelay.Json
