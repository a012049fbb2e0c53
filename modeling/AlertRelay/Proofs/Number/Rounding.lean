import Mathlib.Algebra.Order.Field.Power
import Mathlib.Data.Int.Log
import Mathlib.Data.Rat.Floor
import Mathlib.Tactic.FieldSimp
import Mathlib.Tactic.GCongr
import Mathlib.Tactic.Linarith
import Mathlib.Tactic.NormNum
import Mathlib.Tactic.Positivity
import Mathlib.Tactic.Ring
import AlertRelay.Number.Binary64

/-!
# Rounding to binary numbers

Rounding depends on the value of a fraction alone, and a fraction that is near enough to a
binary number is rounded to it.
-/

namespace AlertRelay.Number.Binary64

/-! ## Numbers -/

/-- Whether a mantissa and an exponent are those of a number: the mantissa has 53 bits, or
fewer of them if the exponent is the least one. -/
def IsCanonical (m : Nat) (e : Int) : Prop :=
  m < 2 ^ 53 ∧ -1074 ≤ e ∧ e ≤ 971 ∧ (2 ^ 52 ≤ m ∨ e = -1074)

/-- Whether a number is finite. -/
def IsFinite : Binary64 → Prop
  | finite _ m e => IsCanonical m e
  | infinite _ | nan => False

/-- Half of the gap to the neighbours of a number.  Below a power of two the gap is half as
wide. -/
def IsNear (v : ℚ) (m : Nat) (e : Int) : Prop :=
  |v / 2 ^ e - m| < 1 / 2 ∧ (m = 2 ^ 52 → e ≠ -1074 → m - v / 2 ^ e < 1 / 4)

/-! ## Fractions -/

namespace Fraction

variable {f g : Fraction}

def value (f : Fraction) : ℚ := f.num / f.den

theorem den_shifted_pos (hden : 0 < f.den) (e : Int) : 0 < (f.shifted e).den := by
  simp only [shifted, Nat.pow_eq]
  split
  · exact Nat.mul_pos hden (Nat.two_pow_pos _)
  · exact hden

theorem value_shifted (f : Fraction) (e : Int) : (f.shifted e).value = f.value / 2 ^ e := by
  simp only [shifted, value, Nat.pow_eq]
  split
  · rename_i he
    obtain ⟨n, rfl⟩ := Int.eq_ofNat_of_zero_le he
    simp [div_div]
  · rename_i he
    obtain ⟨n, hn⟩ := Int.eq_ofNat_of_zero_le (a := -e) (by omega)
    obtain rfl : e = -n := by omega
    simp only [neg_neg, Int.toNat_natCast, Nat.cast_mul, Nat.cast_pow, Nat.cast_ofNat, zpow_neg,
      zpow_natCast, div_inv_eq_mul]
    ring

theorem value_pos (hnum : 0 < f.num) (hden : 0 < f.den) : 0 < f.value := by
  have hn : (0 : ℚ) < f.num := by exact_mod_cast hnum
  have hd : (0 : ℚ) < f.den := by exact_mod_cast hden
  exact div_pos hn hd

theorem value_bounds (hnum : 0 < f.num) (hden : 0 < f.den) :
    (2 : ℚ) ^ ((f.num.log2 : Int) - f.den.log2 - 1) < f.value ∧
      f.value < (2 : ℚ) ^ ((f.num.log2 : Int) - f.den.log2 + 1) := by
  have hd : (0 : ℚ) < f.den := by exact_mod_cast hden
  have hnumLow : (2 : ℚ) ^ f.num.log2 ≤ f.num := by
    exact_mod_cast Nat.log2_self_le (Nat.ne_of_gt hnum)
  have hnumHigh : (f.num : ℚ) < 2 ^ (f.num.log2 + 1) := by
    exact_mod_cast Nat.lt_log2_self (n := f.num)
  have hdenLow : (2 : ℚ) ^ f.den.log2 ≤ f.den := by
    exact_mod_cast Nat.log2_self_le (Nat.ne_of_gt hden)
  have hdenHigh : (f.den : ℚ) < 2 ^ (f.den.log2 + 1) := by
    exact_mod_cast Nat.lt_log2_self (n := f.den)
  have htwo : (2 : ℚ) ≠ 0 := by norm_num
  constructor
  · rw [value, lt_div_iff₀ hd]
    calc (2 : ℚ) ^ ((f.num.log2 : Int) - f.den.log2 - 1) * f.den
        < 2 ^ ((f.num.log2 : Int) - f.den.log2 - 1) * 2 ^ (f.den.log2 + 1) := by gcongr
      _ = 2 ^ f.num.log2 := by
          rw [← zpow_natCast, ← zpow_natCast, ← zpow_add₀ htwo]
          congr 1
          push_cast
          ring
      _ ≤ f.num := hnumLow
  · rw [value, div_lt_iff₀ hd]
    calc (f.num : ℚ) < 2 ^ (f.num.log2 + 1) := hnumHigh
      _ = 2 ^ ((f.num.log2 : Int) - f.den.log2 + 1) * 2 ^ f.den.log2 := by
          rw [← zpow_natCast, ← zpow_natCast, ← zpow_add₀ htwo]
          congr 1
          push_cast
          ring
      _ ≤ 2 ^ ((f.num.log2 : Int) - f.den.log2 + 1) * f.den := by gcongr

/-- The exponent leaves 53 bits in front of the point. -/
theorem exponent_eq_log (hnum : 0 < f.num) (hden : 0 < f.den) :
    f.exponent = Int.log 2 f.value - 52 := by
  have hpos := value_pos hnum hden
  have hguess : Int.log 2 f.value = f.num.log2 - f.den.log2 ∨
      Int.log 2 f.value = f.num.log2 - f.den.log2 - 1 := by
    obtain ⟨hlow, hhigh⟩ := value_bounds hnum hden
    have hless := (Int.lt_zpow_iff_log_lt one_lt_two hpos).mp (by rwa [Nat.cast_ofNat])
    have hmore := (Int.zpow_le_iff_le_log one_lt_two hpos).mp (by
      rw [Nat.cast_ofNat]
      exact hlow.le)
    omega
  set guess : Int := (f.num.log2 : Int) - f.den.log2 - 52 with hset
  have htrial : (f.shifted guess).num / (f.shifted guess).den < 2 ^ 52 ↔
      Int.log 2 f.value < guess + 52 := by
    have hshifted : (0 : ℚ) < (f.shifted guess).den := by
      exact_mod_cast den_shifted_pos hden guess
    rw [Nat.div_lt_iff_lt_mul (den_shifted_pos hden guess),
      ← Int.lt_zpow_iff_log_lt one_lt_two hpos, zpow_add₀ (by norm_num),
      ← div_lt_iff₀' (by positivity)]
    push_cast
    rw [← value_shifted, value, div_lt_iff₀ hshifted]
    exact_mod_cast Iff.rfl
  simp only [exponent, ← hset, Nat.pow_eq]
  split
  · rename_i hless
    have := htrial.mp hless
    omega
  · rename_i hmore
    have := mt htrial.mpr hmore
    omega

/-- There is only one exponent that leaves 53 bits. -/
theorem exponent_eq (hnum : 0 < f.num) (hden : 0 < f.den) {e : Int}
    (hlow : (2 : ℚ) ^ 52 ≤ f.value / 2 ^ e) (hhigh : f.value / 2 ^ e < 2 ^ 53) :
    f.exponent = e := by
  rw [exponent_eq_log hnum hden]
  rw [le_div_iff₀ (by positivity), ← zpow_natCast, ← zpow_add₀ (by norm_num)] at hlow
  rw [div_lt_iff₀ (by positivity), ← zpow_natCast, ← zpow_add₀ (by norm_num)] at hhigh
  have hmore := (Int.zpow_le_iff_le_log one_lt_two (value_pos hnum hden)).mp
    (by rwa [Nat.cast_ofNat])
  have hless := (Int.lt_zpow_iff_log_lt one_lt_two (value_pos hnum hden)).mp
    (by rwa [Nat.cast_ofNat])
  push_cast at hmore hless
  omega

theorem exponent_le (hnum : 0 < f.num) (hden : 0 < f.den) {e : Int}
    (h : f.value / 2 ^ e < 2 ^ 53) : f.exponent ≤ e := by
  rw [exponent_eq_log hnum hden]
  rw [div_lt_iff₀ (by positivity), ← zpow_natCast, ← zpow_add₀ (by norm_num)] at h
  have hless := (Int.lt_zpow_iff_log_lt one_lt_two (value_pos hnum hden)).mp
    (by rwa [Nat.cast_ofNat])
  push_cast at hless
  omega

end Fraction

/-! ## Quotients -/

theorem roundedQuotient_mul {k : Nat} (hk : 0 < k) (num den : Nat) :
    roundedQuotient (num * k) (den * k) = roundedQuotient num den := by
  have hdouble (r : Nat) : 2 * (r * k) = 2 * r * k := (Nat.mul_assoc 2 r k).symm
  simp only [roundedQuotient, Nat.mul_div_mul_right _ _ hk, Nat.mul_mod_mul_right, hdouble,
    Nat.mul_lt_mul_right hk, Nat.mul_right_cancel_iff hk]

/-- A quotient that is less than a half away from a natural number is rounded to it. -/
theorem roundedQuotient_of_near {num den m : Nat} (hden : 0 < den)
    (h : |(num : ℚ) / den - m| < 1 / 2) : roundedQuotient num den = m := by
  have hd : (0 : ℚ) < den := by exact_mod_cast hden
  obtain ⟨hlow, hhigh⟩ := abs_lt.mp h
  have hlow' : 2 * m * den < 2 * num + den := by
    have : (2 * m * den : ℚ) < 2 * num + den := by
      have := mul_lt_mul_of_pos_right hlow hd
      field_simp at this
      linarith
    exact_mod_cast this
  have hhigh' : 2 * num < 2 * m * den + den := by
    have : (2 * num : ℚ) < 2 * m * den + den := by
      have := mul_lt_mul_of_pos_right hhigh hd
      field_simp at this
      linarith
    exact_mod_cast this
  have hsplit := Nat.div_add_mod num den
  have hrest := Nat.mod_lt num hden
  simp only [roundedQuotient]
  set q := num / den
  set r := num % den
  have hq : q ≤ m := by
    by_contra hlt
    have : (m + 1) * den ≤ q * den := Nat.mul_le_mul_right den (by omega)
    nlinarith
  have hq' : m ≤ q + 1 := by
    by_contra hlt
    have : (q + 2) * den ≤ m * den := Nat.mul_le_mul_right den (by omega)
    nlinarith
  rcases Nat.lt_or_eq_of_le hq' with hless | rfl
  · obtain rfl : m = q := by omega
    rw [if_neg]
    rintro (hmore | ⟨heven, -⟩) <;> nlinarith
  · rw [if_pos]
    left
    nlinarith

theorem roundedQuotient_congr {f g : Fraction} (hf : 0 < f.den) (hg : 0 < g.den)
    (h : f.value = g.value) : roundedQuotient f.num f.den = roundedQuotient g.num g.den := by
  have hcross : f.num * g.den = g.num * f.den := by
    have hf' : (f.den : ℚ) ≠ 0 := by exact_mod_cast Nat.ne_of_gt hf
    have hg' : (g.den : ℚ) ≠ 0 := by exact_mod_cast Nat.ne_of_gt hg
    rw [Fraction.value, Fraction.value, div_eq_div_iff hf' hg'] at h
    exact_mod_cast h
  rw [← roundedQuotient_mul hg f.num f.den, ← roundedQuotient_mul hf g.num g.den, hcross,
    Nat.mul_comm f.den g.den]

/-! ## Rounding -/

variable {f g : Fraction} {m : Nat} {e : Int} {v : ℚ}

/-- Rounding depends on the value of a fraction alone. -/
theorem ofFraction_congr (negative : Bool) (hf : 0 < f.den) (hg : 0 < g.den)
    (h : f.value = g.value) : ofFraction negative f = ofFraction negative g := by
  have hzero : f.num = 0 ↔ g.num = 0 := by
    have hf' : (f.den : ℚ) ≠ 0 := by exact_mod_cast Nat.ne_of_gt hf
    have hg' : (g.den : ℚ) ≠ 0 := by exact_mod_cast Nat.ne_of_gt hg
    have hvalue : f.value = 0 ↔ g.value = 0 := by rw [h]
    simpa [Fraction.value, hf', hg'] using hvalue
  by_cases hnum : f.num = 0
  · simp only [ofFraction, hnum, hzero.mp hnum, if_true]
  · have hnum' : g.num ≠ 0 := fun h0 => hnum (hzero.mpr h0)
    have hexponent : f.exponent = g.exponent := by
      rw [Fraction.exponent_eq_log (Nat.pos_of_ne_zero hnum) hf,
        Fraction.exponent_eq_log (Nat.pos_of_ne_zero hnum') hg, h]
    have hrounded := roundedQuotient_congr (Fraction.den_shifted_pos hf (max g.exponent (-1074)))
      (Fraction.den_shifted_pos hg (max g.exponent (-1074)))
      (by rw [Fraction.value_shifted, Fraction.value_shifted, h])
    simp only [ofFraction, hnum, hnum', if_false, hexponent, hrounded]

theorem carried_of_canonical (negative : Bool) (h : IsCanonical m e) :
    carried negative m e = finite negative m e := by
  obtain ⟨hm, -, he, -⟩ := h
  have hne : m ≠ 2 ^ 53 := Nat.ne_of_lt hm
  simp only [carried, Nat.pow_eq, hne, if_false, Int.not_lt.mpr he]

theorem roundedQuotient_shifted (hden : 0 < f.den) {n : Nat} {d : Int}
    (h : |f.value / 2 ^ d - n| < 1 / 2) :
    roundedQuotient (f.shifted d).num (f.shifted d).den = n := by
  apply roundedQuotient_of_near (Fraction.den_shifted_pos hden d)
  rw [← Fraction.value, Fraction.value_shifted]
  exact h

/-- Just below a power of two a fraction is rounded up to it. -/
theorem ofFraction_of_below_power (negative : Bool) (hnum : 0 < f.num) (hden : 0 < f.den)
    (hleast : -1074 < e) (hgreatest : e ≤ 971) (hbelow : f.value / 2 ^ e < 2 ^ 52)
    (hquarter : 2 ^ 52 - f.value / 2 ^ e < 1 / 4) :
    ofFraction negative f = finite negative (2 ^ 52) e := by
  have hdouble : f.value / 2 ^ (e - 1) = 2 * (f.value / 2 ^ e) := by
    rw [zpow_sub_one₀ (by norm_num)]
    field_simp
  have hexponent : f.exponent = e - 1 := by
    apply Fraction.exponent_eq hnum hden <;> rw [hdouble] <;> linarith
  have hcarry : |f.value / 2 ^ (e - 1) - (2 ^ 53 : ℕ)| < 1 / 2 := by
    rw [hdouble, abs_lt]
    push_cast
    constructor <;> linarith
  simp only [ofFraction, Nat.ne_of_gt hnum, if_false]
  rw [hexponent, max_eq_left (by omega), roundedQuotient_shifted hden hcarry]
  simp only [carried, Nat.pow_eq, if_true, sub_add_cancel, Int.not_lt.mpr hgreatest, if_false]

/-- A fraction near to a number is rounded to it. -/
theorem ofFraction_of_near (negative : Bool) (hnum : 0 < f.num) (hden : 0 < f.den)
    (hcanonical : IsCanonical m e) (hnear : IsNear f.value m e) :
    ofFraction negative f = finite negative m e := by
  obtain ⟨hclose, hbelow⟩ := hnear
  obtain ⟨hm, hleast, hgreatest, hbits⟩ := id hcanonical
  obtain ⟨hlow, hhigh⟩ := abs_lt.mp hclose
  have hmQ : (m : ℚ) + 1 ≤ 2 ^ 53 := by exact_mod_cast hm
  have hrounded (hexponent : max f.exponent (-1074) = e) :
      ofFraction negative f = finite negative m e := by
    simp only [ofFraction, Nat.ne_of_gt hnum, if_false, hexponent]
    rw [roundedQuotient_shifted hden hclose]
    exact carried_of_canonical negative hcanonical
  by_cases hfull : (2 : ℚ) ^ 52 ≤ f.value / 2 ^ e
  · -- all 53 bits are in front of the point
    apply hrounded
    rw [Fraction.exponent_eq hnum hden hfull (by linarith), max_eq_left hleast]
  · by_cases hsmallest : e = -1074
    · -- the least exponent takes what has fewer bits
      apply hrounded
      rw [← hsmallest, max_eq_right (Fraction.exponent_le hnum hden (by linarith))]
    · have hmore := hbits.resolve_right hsmallest
      obtain rfl : m = 2 ^ 52 := by
        have hupper : (m : ℚ) < 2 ^ 52 + 1 := by linarith
        have hupper' : m < 2 ^ 52 + 1 := by exact_mod_cast hupper
        omega
      have hquarter := hbelow rfl hsmallest
      push_cast at hquarter
      exact ofFraction_of_below_power negative hnum hden (by omega) hgreatest
        (not_le.mp hfull) hquarter

end AlertRelay.Number.Binary64
