import Mathlib.Algebra.Ring.Nat
import Mathlib.Data.List.Basic
import AlertRelay.Number.Decimal
import AlertRelay.Number.Shortest

/-!
# Reading decimal numerals

A numeral that is laid out in ASCII digits is read as its parts have it.
-/

namespace AlertRelay.Number

open AlertRelay.Text

/-! ## Digits -/

def AreDigits (ds : List Char) : Prop := ∀ c ∈ ds, c.isDigit = true

def digit (c : Char) : Nat := c.toNat - '0'.toNat

/-- The number with the given digits. -/
def digitsValue (ds : List Char) : Nat := Nat.ofDigitChars 10 ds 0

theorem AreDigits.append {ds es : List Char} (hds : AreDigits ds) (hes : AreDigits es) :
    AreDigits (ds ++ es) := by
  intro c hc
  rcases List.mem_append.mp hc with h | h
  · exact hds c h
  · exact hes c h

theorem areDigits_zeros (n : Nat) : AreDigits (List.replicate n '0') := by
  intro c hc
  rw [List.eq_of_mem_replicate hc]
  decide

theorem areDigits_naturalText (n : Nat) : AreDigits (naturalText n) :=
  fun _ hc => Nat.isDigit_of_mem_toDigits (by decide) (by decide) hc

theorem digitsValue_naturalText (n : Nat) : digitsValue (naturalText n) = n :=
  Nat.ofDigitChars_ten_toDigits

theorem digitsValue_append_zeros (ds : List Char) (n : Nat) :
    digitsValue (ds ++ List.replicate n '0') = digitsValue ds * 10 ^ n := by
  rw [digitsValue, Nat.ofDigitChars_append, Nat.ofDigitChars_replicate_zero, Nat.mul_comm]
  rfl

theorem digitsValue_zeros_append (n : Nat) (ds : List Char) :
    digitsValue (List.replicate n '0' ++ ds) = digitsValue ds := by
  rw [digitsValue, Nat.ofDigitChars_append, Nat.ofDigitChars_replicate_zero, Nat.mul_zero]
  rfl

theorem head?_naturalText_ne_zero (n : Nat) (hn : 0 < n) : (naturalText n).head? ≠ some '0' := by
  induction n using Nat.strongRecOn with
  | ind n ih =>
      rw [naturalText]
      by_cases hsmall : n < 10
      · have hdigit : ∀ d < 10, 0 < d → Nat.digitChar d ≠ '0' := by decide
        rw [Nat.toDigits_of_lt_base hsmall]
        simpa using hdigit n hsmall hn
      · have hrest := ih (n / 10) (by omega) (by omega)
        rw [Nat.toDigits_of_base_le (by decide) (by omega),
          List.head?_append_of_ne_nil _ Nat.toDigits_ne_nil]
        exact hrest

theorem decimalDigit?_of_isDigit {c : Char} (h : c.isDigit = true) :
    decimalDigit? c = some (digit c) := by
  have hrange : 0x30 ≤ c.toNat ∧ c.toNat < 0x30 + 10 := by
    simp only [Char.isDigit, Bool.and_eq_true, decide_eq_true_eq] at h
    exact ⟨h.1, Nat.lt_succ_of_le h.2⟩
  simp only [decimalDigit?, decimalZeros, List.find?_cons]
  simp [hrange, digit]

/-- A text that does not go on with a digit. -/
def EndsDigits (rest : List Char) : Prop := ∀ c ∈ rest.head?, decimalDigit? c = none

theorem spanDigits_append {ds rest : List Char} (hds : AreDigits ds) (hrest : EndsDigits rest) :
    spanDigits (ds ++ rest) = (ds.map digit, rest) := by
  induction ds with
  | nil =>
      cases rest with
      | nil => rfl
      | cons c rest => simp [spanDigits, hrest c rfl]
  | cons d ds ih =>
      have hd := decimalDigit?_of_isDigit (hds d (by simp))
      have htail := ih fun c hc => hds c (by simp [hc])
      simp [spanDigits, hd, htail]

theorem ofDigits_eq_digitsValue (ds : List Char) :
    ofDigits 10 (ds.map digit) = digitsValue ds := by
  simp only [ofDigits, digitsValue, digit, Nat.ofDigitChars_eq_foldl, List.foldl_map, Nat.mul_comm]

/-! ## Numerals -/

/-- Whether digits may stand in front of a point: no zero is in front of other digits. -/
def IsWholePart (ds : List Char) : Prop := ds = ['0'] ∨ (ds ≠ [] ∧ ds.head? ≠ some '0')

/-- A numeral without a sign that has a fraction or a power of ten. -/
structure Numeral where
  whole : List Char
  fraction : List Char
  /-- the sign and the digits of a power of ten -/
  ending : Option (Bool × List Char)
  whole_digits : AreDigits whole
  fraction_digits : AreDigits fraction
  ending_digits : ∀ negative ds, ending = some (negative, ds) → AreDigits ds ∧ ds ≠ []
  whole_part : IsWholePart whole
  not_integer : fraction ≠ [] ∨ ending ≠ none

namespace Numeral

def fractionText (n : Numeral) : List Char :=
  if n.fraction = [] then [] else '.' :: n.fraction

def endingText (n : Numeral) : List Char :=
  match n.ending with
  | none => []
  | some (negative, ds) => 'e' :: (if negative then '-' else '+') :: ds

def text (n : Numeral) : List Char := n.whole ++ (n.fractionText ++ n.endingText)

def power (n : Numeral) : Int :=
  match n.ending with
  | none => 0
  | some (negative, ds) => signed negative (digitsValue ds)

def coefficient (n : Numeral) : Nat := digitsValue (n.whole ++ n.fraction)

/-- The power of ten that stands behind the last digit. -/
def scale (n : Numeral) : Int := n.power - n.fraction.length

variable (n : Numeral)

theorem whole_ne_nil : n.whole ≠ [] := by
  rcases n.whole_part with h | h
  · simp [h]
  · exact h.1

theorem endsDigits_endingText : EndsDigits n.endingText := by
  intro c hc
  rw [endingText] at hc
  split at hc
  · simp at hc
  · obtain rfl : 'e' = c := by simpa using hc
    decide

theorem endsDigits_fractionText : EndsDigits (n.fractionText ++ n.endingText) := by
  rw [fractionText]
  split
  · exact n.endsDigits_endingText
  · intro c hc
    obtain rfl : '.' = c := by simpa using hc
    decide

theorem exponentPart?_endingText : exponentPart? n.endingText = some n.power := by
  rw [endingText, power]
  split
  · rfl
  · rename_i negative ds hending
    obtain ⟨hdigits, hne⟩ := n.ending_digits negative ds hending
    obtain ⟨d, ds, rfl⟩ := List.exists_cons_of_ne_nil hne
    have hends : EndsDigits [] := by simp [EndsDigits]
    have hspan := spanDigits_append hdigits hends
    rw [List.append_nil, List.map_cons] at hspan
    have hvalue := ofDigits_eq_digitsValue (d :: ds)
    rw [List.map_cons] at hvalue
    cases negative <;> simp [exponentPart?, splitSign, hspan, hvalue]

/-- A numeral is read as its digits with the power of ten behind them. -/
theorem unsignedNumeral?_text (negative : Bool) :
    unsignedNumeral? negative n.text = some (.ofDecimal negative n.coefficient n.scale) := by
  have hwhole := spanDigits_append n.whole_digits n.endsDigits_fractionText
  have hcoefficient := ofDigits_eq_digitsValue (n.whole ++ n.fraction)
  rw [List.map_append] at hcoefficient
  have hempty : (n.whole.map digit).isEmpty = false := by simpa using n.whole_ne_nil
  by_cases hfraction : n.fraction = []
  · obtain ⟨rest, hrest⟩ : ∃ rest, n.endingText = 'e' :: rest := by
      obtain ⟨⟨sign, ds⟩, hending⟩ :=
        Option.ne_none_iff_exists'.mp (n.not_integer.resolve_left (· hfraction))
      exact ⟨_, by rw [endingText, hending]⟩
    have hpower := n.exponentPart?_endingText
    rw [hrest] at hpower
    rw [unsignedNumeral?, text, hwhole, fractionText, if_pos hfraction, List.nil_append, hrest]
    simp [hempty, hpower, coefficient, scale, hfraction, ofDigits_eq_digitsValue]
  · have hspan := spanDigits_append n.fraction_digits n.endsDigits_endingText
    rw [unsignedNumeral?, text, hwhole]
    simp only [fractionText, hfraction, if_false, List.cons_append, hspan]
    simp [hempty, n.exponentPart?_endingText, coefficient, scale, ← ofDigits_eq_digitsValue]

end Numeral

end AlertRelay.Number
