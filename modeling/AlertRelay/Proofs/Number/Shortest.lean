import Mathlib.Algebra.Order.Floor.Semifield
import Mathlib.Data.List.TakeWhile
import AlertRelay.Proofs.Number.Decimal
import AlertRelay.Proofs.Number.Rounding

/-!
# Shortest digits

The shortest digits of a number read back as the number: with seventeen of them a neighbour
on the grid is always near enough.
-/

namespace AlertRelay.Number

/-! ## Digits in front of the point -/

theorem log_eq_of_bounds {v : ℚ} {n : Int} (hlow : (10 : ℚ) ^ n ≤ v) (hhigh : v < 10 ^ (n + 1)) :
    Int.log 10 v = n := by
  have hv : 0 < v := lt_of_lt_of_le (by positivity) hlow
  have hmore := (Int.zpow_le_iff_le_log (b := 10) (by decide) hv).mp (by rwa [Nat.cast_ofNat])
  have hless := (Int.lt_zpow_iff_log_lt (b := 10) (by decide) hv).mp (by rwa [Nat.cast_ofNat])
  omega

theorem log_bounds {v : ℚ} (hv : 0 < v) :
    (10 : ℚ) ^ Int.log 10 v ≤ v ∧ v < 10 ^ (Int.log 10 v + 1) := by
  have hlow := Int.zpow_log_le_self (b := 10) (by decide) hv
  have hhigh := Int.lt_zpow_succ_log_self (b := 10) (by decide) v
  rw [Nat.cast_ofNat] at hlow hhigh
  exact ⟨hlow, hhigh⟩

theorem log_mul_zpow {v : ℚ} (hv : 0 < v) (k : Int) :
    Int.log 10 (v * 10 ^ k) = Int.log 10 v + k := by
  obtain ⟨hlow, hhigh⟩ := log_bounds hv
  have hten : (10 : ℚ) ≠ 0 := by norm_num
  apply log_eq_of_bounds
  · rw [zpow_add₀ hten]
    gcongr
  · rw [add_right_comm, zpow_add₀ hten]
    gcongr

theorem length_naturalText {n : Nat} (hn : 0 < n) :
    ((naturalText n).length : Int) = Int.log 10 (n : ℚ) + 1 := by
  have hupper : (naturalText n).length ≤ Nat.log 10 n + 1 :=
    (Nat.length_toDigits_le_iff (by decide) (Nat.succ_pos _)).mpr
      (Nat.lt_pow_succ_log_self (by decide) n)
  have hlower : Nat.log 10 n < (naturalText n).length := by
    have hpos : 0 < (naturalText n).length := Nat.length_toDigits_pos
    exact (Nat.log_lt_iff_lt_pow (by decide) (Nat.ne_of_gt hn)).mpr
      ((Nat.length_toDigits_le_iff (by decide) hpos).mp (Nat.le_refl _))
  rw [Int.log_natCast]
  omega

namespace Binary64

/-! ## Decimal numerals -/

/-- A decimal numeral far outside of the range is known by its size, any other one is
rounded. -/
theorem ofDecimal_eq (negative : Bool) {c : Nat} (hc : 0 < c) (k : Int) :
    ∃ f : Fraction, 0 < f.num ∧ 0 < f.den ∧ f.value = c * 10 ^ k ∧
      ofDecimal negative c k =
        if 310 < Int.log 10 (c * 10 ^ k : ℚ) + 1 then infinite negative
        else if Int.log 10 (c * 10 ^ k : ℚ) + 1 < -330 then zero negative
        else ofFraction negative f := by
  have hcQ : (0 : ℚ) < c := by exact_mod_cast hc
  have hsize : ((Nat.toDigits 10 c).length : Int) + k = Int.log 10 (c * 10 ^ k : ℚ) + 1 := by
    rw [log_mul_zpow hcQ, ← naturalText, length_naturalText hc]
    omega
  by_cases hk : 0 ≤ k
  · refine ⟨⟨c * 10 ^ k.toNat, 1⟩, by positivity, Nat.one_pos, ?_, ?_⟩
    · obtain ⟨n, rfl⟩ := Int.eq_ofNat_of_zero_le hk
      simp [Fraction.value]
    · simp only [ofDecimal, Nat.ne_of_gt hc, if_false, hsize, hk, if_true, Nat.pow_eq]
  · refine ⟨⟨c, 10 ^ (-k).toNat⟩, hc, by positivity, ?_, ?_⟩
    · obtain ⟨n, hn⟩ := Int.eq_ofNat_of_zero_le (a := -k) (by omega)
      obtain rfl : k = -n := by omega
      simp [Fraction.value, div_eq_mul_inv]
    · simp only [ofDecimal, Nat.ne_of_gt hc, if_false, hsize, hk, Nat.pow_eq]

/-- A numeral is read by its value alone. -/
theorem ofDecimal_congr (negative : Bool) {c d : Nat} {k l : Int}
    (h : (c : ℚ) * 10 ^ k = d * 10 ^ l) : ofDecimal negative c k = ofDecimal negative d l := by
  have hten (n : Int) : (10 : ℚ) ^ n ≠ 0 := by positivity
  have hzero : c = 0 ↔ d = 0 := by
    have hvalue : (c : ℚ) * 10 ^ k = 0 ↔ (d : ℚ) * 10 ^ l = 0 := by rw [h]
    simpa [hten] using hvalue
  rcases Nat.eq_zero_or_pos c with rfl | hc
  · obtain rfl : d = 0 := hzero.mp rfl
    rfl
  · have hd : 0 < d := Nat.pos_of_ne_zero fun hd => (Nat.ne_of_gt hc) (hzero.mpr hd)
    obtain ⟨f, -, hfden, hf, hread⟩ := ofDecimal_eq negative hc k
    obtain ⟨g, -, hgden, hg, hread'⟩ := ofDecimal_eq negative hd l
    rw [hread, hread', ← h, ofFraction_congr negative hfden hgden (by rw [hf, hg, h])]

theorem greatest_lt_ten_pow : 2 ^ 1024 < 10 ^ 309 := by decide +kernel

theorem least_gt_ten_pow : 2 ^ 1075 < 10 ^ 324 := by decide +kernel

variable {m : Nat} {e : Int}

theorem IsNear.lt_ten_pow {v : ℚ} (h : IsNear v m e) (hcanonical : IsCanonical m e) :
    v < 10 ^ (309 : Int) := by
  obtain ⟨hbits, -, hgreatest, -⟩ := hcanonical
  have hquotient : v / 2 ^ e < 2 ^ 53 := by
    have : (m : ℚ) + 1 ≤ 2 ^ 53 := by exact_mod_cast hbits
    linarith [(abs_lt.mp h.1).2]
  rw [div_lt_iff₀ (by positivity)] at hquotient
  calc v < 2 ^ 53 * 2 ^ e := hquotient
    _ ≤ 2 ^ 53 * 2 ^ (971 : Int) := by gcongr; norm_num
    _ = 2 ^ 1024 := by rw [← zpow_natCast, ← zpow_add₀ (by norm_num)]; rfl
    _ < 10 ^ (309 : Int) := by exact_mod_cast greatest_lt_ten_pow

theorem IsNear.ten_pow_le {v : ℚ} (h : IsNear v m e) (hm : 0 < m)
    (hcanonical : IsCanonical m e) : (10 : ℚ) ^ (-324 : Int) ≤ v := by
  obtain ⟨-, hleast, -⟩ := hcanonical
  have hquotient : (1 : ℚ) / 2 < v / 2 ^ e := by
    have : (1 : ℚ) ≤ m := by exact_mod_cast hm
    linarith [(abs_lt.mp h.1).1]
  rw [lt_div_iff₀ (by positivity)] at hquotient
  calc (10 : ℚ) ^ (-324 : Int) ≤ 2 ^ (-1075 : Int) := by
        rw [zpow_neg, zpow_neg]
        gcongr
        exact_mod_cast least_gt_ten_pow.le
    _ = 1 / 2 * 2 ^ (-1074 : Int) := by
        rw [one_div, ← zpow_neg_one, ← zpow_add₀ (by norm_num)]
        rfl
    _ ≤ 1 / 2 * 2 ^ e := by gcongr; norm_num
    _ ≤ v := hquotient.le

/-- A numeral near to a number is read as the number. -/
theorem ofDecimal_of_near (negative : Bool) {c : Nat} (hc : 0 < c) {k : Int} (hm : 0 < m)
    (hcanonical : IsCanonical m e) (hnear : IsNear (c * 10 ^ k) m e) :
    ofDecimal negative c k = finite negative m e := by
  obtain ⟨f, hnum, hden, hvalue, hread⟩ := ofDecimal_eq negative hc k
  have hv : (0 : ℚ) < c * 10 ^ k := by positivity
  have hless := hnear.lt_ten_pow hcanonical
  have hmore := hnear.ten_pow_le hm hcanonical
  have hhigh := (Int.lt_zpow_iff_log_lt (b := 10) (by decide) hv).mp (by rwa [Nat.cast_ofNat])
  have hlow := (Int.zpow_le_iff_le_log (b := 10) (by decide) hv).mp (by rwa [Nat.cast_ofNat])
  rw [hread, if_neg (by omega), if_neg (by omega)]
  exact ofFraction_of_near negative hnum hden hcanonical (hvalue ▸ hnear)

theorem carried_true (m : Nat) (e : Int) : carried true m e = (carried false m e).neg := by
  simp only [carried]
  split_ifs <;> rfl

theorem ofFraction_true (f : Fraction) : ofFraction true f = (ofFraction false f).neg := by
  simp only [ofFraction, carried_true]
  split_ifs <;> rfl

/-- The sign takes no part in the rounding. -/
theorem ofDecimal_true (c : Nat) (k : Int) : ofDecimal true c k = (ofDecimal false c k).neg := by
  simp only [ofDecimal, ofFraction_true]
  split_ifs <;> rfl

/-! ## Grids -/

/-- The zeros behind the point of a fraction below one are the digits of a quotient. -/
theorem Fraction.log_value_of_lt {f : Fraction} (hnum : 0 < f.num) (hlt : f.num < f.den) :
    Int.log 10 f.value = -(Int.log 10 (((f.den - 1) / f.num : Nat) : ℚ) + 1) := by
  have hd : (0 : ℚ) < f.den := by exact_mod_cast Nat.lt_of_le_of_lt (Nat.zero_le _) hlt
  have hnumQ : (0 : ℚ) < f.num := by exact_mod_cast hnum
  have hq : 0 < (f.den - 1) / f.num := Nat.div_pos (by omega) hnum
  have hsplit := Nat.div_add_mod (f.den - 1) f.num
  have hrest := Nat.mod_lt (f.den - 1) hnum
  obtain ⟨hlow, hhigh⟩ := log_bounds (v := ((f.den - 1) / f.num : Nat)) (by exact_mod_cast hq)
  set q := (f.den - 1) / f.num
  obtain ⟨n, hn⟩ : ∃ n : Nat, Int.log 10 (q : ℚ) = n := ⟨_, Int.log_natCast 10 q⟩
  rw [hn] at hlow hhigh ⊢
  have hmore : 10 ^ n * f.num < f.den := by
    have : 10 ^ n ≤ q := by exact_mod_cast hlow
    have : 10 ^ n * f.num ≤ f.num * q := by
      rw [Nat.mul_comm]
      exact Nat.mul_le_mul_left _ this
    omega
  have hless : f.den ≤ 10 ^ (n + 1) * f.num := by
    have : q + 1 ≤ 10 ^ (n + 1) := by exact_mod_cast hhigh
    have : f.num * (q + 1) ≤ 10 ^ (n + 1) * f.num := by
      rw [Nat.mul_comm (10 ^ (n + 1))]
      exact Nat.mul_le_mul_left _ this
    rw [Nat.mul_succ] at this
    omega
  apply log_eq_of_bounds
  · rw [zpow_neg, value, le_div_iff₀ hd, inv_mul_le_iff₀ (by positivity)]
    exact_mod_cast hless
  · have hexponent : -((n : Int) + 1) + 1 = -n := by omega
    rw [hexponent, zpow_neg, value, div_lt_iff₀ hd, lt_inv_mul_iff₀ (by positivity)]
    exact_mod_cast hmore

theorem Fraction.magnitude_eq_log {f : Fraction} (hnum : 0 < f.num) (hden : 0 < f.den) :
    f.magnitude = Int.log 10 f.value + 1 := by
  have hd : (0 : ℚ) < f.den := by exact_mod_cast hden
  rw [magnitude]
  split
  · rename_i hle
    have hone : 1 ≤ f.value := by
      rw [value, one_le_div hd]
      exact_mod_cast hle
    have hfloor : f.num / f.den = ⌊f.value⌋₊ := (Nat.floor_div_eq_div f.num f.den).symm
    rw [length_naturalText (Nat.div_pos hle hden), Int.log_natCast, hfloor,
      Int.log_of_one_le_right _ hone]
  · rename_i hlt
    have hq : 0 < (f.den - 1) / f.num := Nat.div_pos (by omega) hnum
    rw [length_naturalText hq, log_value_of_lt hnum (not_le.mp hlt)]
    omega

/-- The neighbours are the whole parts around the fraction. -/
theorem Fraction.neighbours_eq (f : Fraction) (k : Int) :
    f.neighbours k = (⌊f.value / 10 ^ k⌋₊, ⌊f.value / 10 ^ k⌋₊ + 1) := by
  simp only [neighbours, Nat.pow_eq, value]
  split
  · rename_i hk
    obtain ⟨n, rfl⟩ := Int.eq_ofNat_of_zero_le hk
    rw [Int.toNat_natCast, zpow_natCast, div_div, ← Nat.floor_div_eq_div (K := ℚ)]
    push_cast
    rfl
  · rename_i hk
    obtain ⟨n, hn⟩ := Int.eq_ofNat_of_zero_le (a := -k) (by omega)
    obtain rfl : k = -n := by omega
    rw [neg_neg, Int.toNat_natCast, zpow_neg, zpow_natCast, div_inv_eq_mul, div_mul_eq_mul_div,
      ← Nat.floor_div_eq_div (K := ℚ)]
    push_cast
    rfl

theorem Fraction.value_scaled (m : Nat) (e : Int) : (Fraction.scaled m e).value = m * 2 ^ e := by
  simp only [scaled, Nat.pow_eq]
  split
  · rename_i he
    obtain ⟨n, rfl⟩ := Int.eq_ofNat_of_zero_le he
    simp [value]
  · rename_i he
    obtain ⟨n, hn⟩ := Int.eq_ofNat_of_zero_le (a := -e) (by omega)
    obtain rfl : e = -n := by omega
    simp [value, div_eq_mul_inv]

theorem Fraction.num_scaled_pos (hm : 0 < m) (e : Int) : 0 < (Fraction.scaled m e).num := by
  simp only [scaled, Nat.pow_eq]
  split
  · exact Nat.mul_pos hm (Nat.two_pow_pos _)
  · exact hm

theorem Fraction.den_scaled_pos (m : Nat) (e : Int) : 0 < (Fraction.scaled m e).den := by
  simp only [scaled, Nat.pow_eq]
  split
  · exact Nat.one_pos
  · exact Nat.two_pow_pos _

/-- A point of a grid of seventeen digits that is next to a number is near to it. -/
theorem isNear_of_grid (hbits : m < 2 ^ 53) {n : Nat} {k : Int}
    (hgrid : (10 : ℚ) ^ k * 10 ^ 16 ≤ m * 2 ^ e)
    (hhalf : |(n : ℚ) - m * 2 ^ e / 10 ^ k| ≤ 1 / 2) : IsNear (n * 10 ^ k) m e := by
  have hm' : (m : ℚ) < 2 ^ 53 := by exact_mod_cast hbits
  have hunit : (10 : ℚ) ^ k / 2 ^ e ≤ m / 10 ^ 16 := by
    rw [div_le_div_iff₀ (by positivity) (by positivity)]
    exact hgrid
  have hgap : (n * 10 ^ k : ℚ) / 2 ^ e - m = (n - m * 2 ^ e / 10 ^ k) * (10 ^ k / 2 ^ e) := by
    field_simp
  have hnear : |(n * 10 ^ k : ℚ) / 2 ^ e - m| ≤ m / (2 * 10 ^ 16) := by
    rw [hgap, abs_mul, abs_of_pos (a := (10 : ℚ) ^ k / 2 ^ e) (by positivity)]
    calc |(n : ℚ) - m * 2 ^ e / 10 ^ k| * (10 ^ k / 2 ^ e) ≤ 1 / 2 * (m / 10 ^ 16) := by gcongr
      _ = m / (2 * 10 ^ 16) := by ring
  refine ⟨hnear.trans_lt ?_, fun hpower _ => ?_⟩
  · rw [div_lt_iff₀ (by norm_num)]
    linarith
  · have hpower' : (m : ℚ) = 2 ^ 52 := by exact_mod_cast hpower
    have hquarter : (m : ℚ) / (2 * 10 ^ 16) < 1 / 4 := by
      rw [hpower']
      norm_num
    have := (abs_le.mp hnear).1
    linarith

theorem length_naturalText_of_bounds {n count : Nat} (hlow : 10 ^ (count - 1) ≤ n)
    (hhigh : n < 10 ^ count) (hcount : 0 < count) : (naturalText n).length = count := by
  have hn : 0 < n := lt_of_lt_of_le (by positivity) hlow
  have hlog : Int.log 10 (n : ℚ) = (count - 1 : Nat) := by
    apply log_eq_of_bounds
    · exact_mod_cast hlow
    · have hexponent : ((count - 1 : Nat) : Int) + 1 = count := by omega
      rw [hexponent]
      exact_mod_cast hhigh
  have := length_naturalText hn
  omega

/-- The points of a grid next to a number have as many digits as the grid. -/
theorem grid_bounds {v : ℚ} (hv : 0 < v) (count : Nat) (hcount : 0 < count) :
    10 ^ (count - 1) ≤ ⌊v / 10 ^ (Int.log 10 v + 1 - count)⌋₊ ∧
      ⌊v / 10 ^ (Int.log 10 v + 1 - count)⌋₊ < 10 ^ count := by
  obtain ⟨hlow, hhigh⟩ := log_bounds hv
  have hten : (10 : ℚ) ≠ 0 := by norm_num
  constructor
  · have hexponent : ((count - 1 : Nat) : Int) + (Int.log 10 v + 1 - count) = Int.log 10 v := by
      omega
    rw [Nat.le_floor_iff (by positivity), le_div_iff₀ (by positivity), Nat.cast_pow,
      Nat.cast_ofNat, ← zpow_natCast, ← zpow_add₀ hten, hexponent]
    exact hlow
  · have hexponent : (count : Int) + (Int.log 10 v + 1 - count) = Int.log 10 v + 1 := by omega
    rw [Nat.floor_lt (by positivity), div_lt_iff₀ (by positivity), Nat.cast_pow,
      Nat.cast_ofNat, ← zpow_natCast, ← zpow_add₀ hten, hexponent]
    exact hhigh

/-- What is found on a grid is a neighbour of the number that reads back, carried if it has one
digit more. -/
theorem onGrid?_eq_some {count : Nat} {s : DigitString} (hm : 0 < m)
    (h : onGrid? m e count = some s) :
    ∃ n, (n = ⌊(m * 2 ^ e : ℚ) / 10 ^ (Int.log 10 (m * 2 ^ e : ℚ) + 1 - count)⌋₊ ∨
        n = ⌊(m * 2 ^ e : ℚ) / 10 ^ (Int.log 10 (m * 2 ^ e : ℚ) + 1 - count)⌋₊ + 1) ∧
      ofDecimal false n (Int.log 10 (m * 2 ^ e : ℚ) + 1 - count) = finite false m e ∧
      s = if n = 10 ^ count then ⟨10 ^ (count - 1), Int.log 10 (m * 2 ^ e : ℚ) + 1 + 1⟩
        else ⟨n, Int.log 10 (m * 2 ^ e : ℚ) + 1⟩ := by
  simp only [onGrid?, Fraction.neighbours_eq, Fraction.value_scaled, Option.map_eq_some_iff,
    Fraction.magnitude_eq_log (Fraction.num_scaled_pos hm e) (Fraction.den_scaled_pos m e)] at h
  obtain ⟨n, hchosen, rfl⟩ := h
  split at hchosen
  · rename_i hbelow habove
    obtain rfl := Option.some.inj hchosen
    split
    · exact ⟨_, .inl rfl, eq_of_beq hbelow, rfl⟩
    · exact ⟨_, .inr rfl, eq_of_beq habove, rfl⟩
  · rename_i hbelow _
    obtain rfl := Option.some.inj hchosen
    exact ⟨_, .inl rfl, eq_of_beq hbelow, rfl⟩
  · rename_i _ habove
    obtain rfl := Option.some.inj hchosen
    exact ⟨_, .inr rfl, eq_of_beq habove, rfl⟩
  · simp at hchosen

/-- What is found on a grid has as many digits as the grid and reads back. -/
theorem onGrid?_reads {count : Nat} {s : DigitString} (hm : 0 < m) (hcount : 0 < count)
    (h : onGrid? m e count = some s) :
    (naturalText s.digits).length = count ∧
      ofDecimal false s.digits (s.point - count) = finite false m e := by
  have hv : (0 : ℚ) < m * 2 ^ e := by positivity
  obtain ⟨hlow, hhigh⟩ := grid_bounds hv count hcount
  obtain ⟨n, hplace, hread, rfl⟩ := onGrid?_eq_some hm h
  set p := Int.log 10 (m * 2 ^ e : ℚ) + 1
  set q := ⌊(m * 2 ^ e : ℚ) / 10 ^ (p - count)⌋₊
  split
  · rename_i hcarry
    refine ⟨length_naturalText_of_bounds (Nat.le_refl _) ?_ hcount, ?_⟩
    · exact Nat.pow_lt_pow_right (by decide) (by omega)
    · rw [← hread]
      apply ofDecimal_congr
      have hexponent : ((count - 1 : Nat) : Int) + (p + 1 - count) = count + (p - count) := by
        omega
      rw [hcarry, Nat.cast_pow, Nat.cast_pow, Nat.cast_ofNat, ← zpow_natCast, ← zpow_natCast,
        ← zpow_add₀ (by norm_num), ← zpow_add₀ (by norm_num), hexponent]
  · have hlower : 10 ^ (count - 1) ≤ n := by omega
    have hupper : n < 10 ^ count := by omega
    exact ⟨length_naturalText_of_bounds hlower hupper hcount, hread⟩

theorem isSome_onGrid?_of_reads (count : Nat) {n : Nat} (hm : 0 < m)
    (hn : n = ⌊(m * 2 ^ e : ℚ) / 10 ^ (Int.log 10 (m * 2 ^ e : ℚ) + 1 - count)⌋₊ ∨
      n = ⌊(m * 2 ^ e : ℚ) / 10 ^ (Int.log 10 (m * 2 ^ e : ℚ) + 1 - count)⌋₊ + 1)
    (hread : ofDecimal false n (Int.log 10 (m * 2 ^ e : ℚ) + 1 - count) = finite false m e) :
    (onGrid? m e count).isSome := by
  have hreads := beq_iff_eq.mpr hread
  simp only [onGrid?, Fraction.neighbours_eq, Fraction.value_scaled, Option.isSome_map,
    Fraction.magnitude_eq_log (Fraction.num_scaled_pos hm e) (Fraction.den_scaled_pos m e)]
  rcases hn with rfl | rfl
  · rw [hreads]
    split <;> simp_all
  · rw [hreads]
    split <;> simp_all

/-- Seventeen digits are enough. -/
theorem isSome_onGrid? (hm : 0 < m) (hcanonical : IsCanonical m e) :
    (onGrid? m e 17).isSome := by
  have hv : (0 : ℚ) < m * 2 ^ e := by positivity
  obtain ⟨hmore, -⟩ := grid_bounds hv 17 (by decide)
  have hfloor := Nat.floor_le
    (a := (m * 2 ^ e : ℚ) / 10 ^ (Int.log 10 (m * 2 ^ e : ℚ) + 1 - (17 : Nat))) (by positivity)
  have hceil := Nat.lt_floor_add_one
    ((m * 2 ^ e : ℚ) / 10 ^ (Int.log 10 (m * 2 ^ e : ℚ) + 1 - (17 : Nat)))
  have hgrid : (10 : ℚ) ^ (Int.log 10 (m * 2 ^ e : ℚ) + 1 - (17 : Nat)) * 10 ^ 16 ≤
      m * 2 ^ e := by
    have hexponent : Int.log 10 (m * 2 ^ e : ℚ) + 1 - (17 : Nat) + (16 : Nat) =
        Int.log 10 (m * 2 ^ e : ℚ) := by omega
    rw [← zpow_natCast, ← zpow_add₀ (by norm_num), hexponent]
    exact (log_bounds hv).1
  have hchoice {n : Nat} := isSome_onGrid?_of_reads 17 (n := n) (e := e) hm
  set k := Int.log 10 (m * 2 ^ e : ℚ) + 1 - (17 : Nat)
  set q := ⌊(m * 2 ^ e : ℚ) / 10 ^ k⌋₊
  have hpos : 0 < q := lt_of_lt_of_le (by decide) hmore
  by_cases hnearer : (m * 2 ^ e : ℚ) / 10 ^ k ≤ q + 1 / 2
  · have hhalf : |(q : ℚ) - m * 2 ^ e / 10 ^ k| ≤ 1 / 2 := by
      rw [abs_le]
      constructor <;> linarith
    exact hchoice (.inl rfl)
      (ofDecimal_of_near false hpos hm hcanonical (isNear_of_grid hcanonical.1 hgrid hhalf))
  · have hhalf : |((q + 1 : Nat) : ℚ) - m * 2 ^ e / 10 ^ k| ≤ 1 / 2 := by
      rw [abs_le]
      push_cast
      constructor <;> linarith
    exact hchoice (.inr rfl)
      (ofDecimal_of_near false (Nat.succ_pos q) hm hcanonical
        (isNear_of_grid hcanonical.1 hgrid hhalf))

/-- The shortest digits read back. -/
theorem shortestDigits_reads (hm : 0 < m) (hcanonical : IsCanonical m e) :
    ofDecimal false (shortestDigits m e).digits
      ((shortestDigits m e).point - (naturalText (shortestDigits m e).digits).length) =
        finite false m e := by
  have hsome : ((List.range 17).findSome? fun i => onGrid? m e (i + 1)).isSome := by
    rw [List.isSome_findSome?, List.any_eq_true]
    exact ⟨16, by decide, isSome_onGrid? hm hcanonical⟩
  obtain ⟨s, hs⟩ := Option.isSome_iff_exists.mp hsome
  obtain ⟨i, -, hgrid⟩ := List.exists_of_findSome?_eq_some hs
  obtain ⟨hlength, hread⟩ := onGrid?_reads hm (Nat.succ_pos i) hgrid
  rw [shortestDigits, hs, Option.getD_some, hlength]
  exact hread

/-! ## Layout -/

theorem exists_trimZeros (s : List Char) : ∃ n, s = trimZeros s ++ List.replicate n '0' := by
  refine ⟨(s.reverse.takeWhile (· == '0')).length, ?_⟩
  have hzeros : (s.reverse.takeWhile (· == '0')).reverse =
      List.replicate (s.reverse.takeWhile (· == '0')).length '0' := by
    rw [List.eq_replicate_iff]
    refine ⟨List.length_reverse, fun c hc => ?_⟩
    simpa using List.mem_takeWhile_imp (List.mem_reverse.mp hc)
  rw [← hzeros, trimZeros, ← List.reverse_append, List.takeWhile_append_dropWhile,
    List.reverse_reverse]

/-- Significant digits: there are some, and the first is no zero. -/
structure IsSignificant (ds : List Char) : Prop where
  digits : AreDigits ds
  head : ∃ d rest, ds = d :: rest ∧ d ≠ '0'

theorem IsSignificant.isWholePart {ds : List Char} (h : IsSignificant ds) (zeros : List Char) :
    IsWholePart (ds ++ zeros) := by
  obtain ⟨d, rest, rfl, hd⟩ := h.head
  exact .inr ⟨by simp, by simpa using hd⟩

theorem IsSignificant.ne_nil {ds : List Char} (h : IsSignificant ds) : ds ≠ [] := by
  obtain ⟨d, rest, rfl, -⟩ := h.head
  simp

theorem isSignificant_trimZeros {n : Nat} (hn : 0 < n) :
    IsSignificant (trimZeros (naturalText n)) := by
  obtain ⟨z, hz⟩ := exists_trimZeros (naturalText n)
  have hhead := head?_naturalText_ne_zero n hn
  have hvalue := digitsValue_naturalText n
  rw [hz] at hhead hvalue
  refine ⟨fun c hc => areDigits_naturalText n c (hz ▸ List.mem_append_left _ hc), ?_⟩
  cases hds : trimZeros (naturalText n) with
  | nil =>
      rw [hds, digitsValue_append_zeros] at hvalue
      simp [digitsValue] at hvalue
      omega
  | cons d rest =>
      rw [hds] at hhead
      exact ⟨d, rest, rfl, by simpa using hhead⟩

/-- Zeros at the end of digits may be left out. -/
theorem digitsValue_trimZeros (n : Nat) (point : Int) :
    (digitsValue (trimZeros (naturalText n)) : ℚ) *
        10 ^ (point - (trimZeros (naturalText n)).length) =
      n * 10 ^ (point - (naturalText n).length) := by
  obtain ⟨z, hz⟩ := exists_trimZeros (naturalText n)
  have hvalue := digitsValue_naturalText n
  have hlength := congrArg List.length hz
  rw [hz, digitsValue_append_zeros] at hvalue
  rw [List.length_append, List.length_replicate] at hlength
  have hexponent : point - (trimZeros (naturalText n)).length =
      z + (point - (naturalText n).length) := by
    omega
  rw [hexponent, zpow_add₀ (by norm_num), ← mul_assoc, zpow_natCast]
  congr 1
  exact_mod_cast hvalue

section Texts

variable {ds : List Char} (hds : IsSignificant ds)

/-- The numeral with all digits behind the point, and zeros between. -/
def smallNumeral (zeros : Nat) : Numeral where
  whole := ['0']
  fraction := List.replicate zeros '0' ++ ds
  ending := none
  whole_digits := areDigits_zeros 1
  fraction_digits := (areDigits_zeros zeros).append hds.digits
  ending_digits := by simp
  whole_part := .inl rfl
  not_integer := .inl (by simp [hds.ne_nil])

/-- The numeral with the point among the digits. -/
def splitNumeral (point : Nat) (hpos : 0 < point) (hpoint : point < ds.length) : Numeral where
  whole := ds.take point
  fraction := ds.drop point
  ending := none
  whole_digits := fun c hc => hds.digits c (List.mem_of_mem_take hc)
  fraction_digits := fun c hc => hds.digits c (List.mem_of_mem_drop hc)
  ending_digits := by simp
  whole_part := by
    obtain ⟨d, rest, rfl, hd⟩ := hds.head
    obtain ⟨k, rfl⟩ := Nat.exists_eq_succ_of_ne_zero (Nat.ne_of_gt hpos)
    exact .inr ⟨by simp, by simpa using hd⟩
  not_integer := .inl (by simpa using hpoint)

/-- The numeral with all digits in front of the point, and zeros between. -/
def roundNumeral (zeros : Nat) : Numeral where
  whole := ds ++ List.replicate zeros '0'
  fraction := ['0']
  ending := none
  whole_digits := hds.digits.append (areDigits_zeros zeros)
  fraction_digits := areDigits_zeros 1
  ending_digits := by simp
  whole_part := hds.isWholePart _
  not_integer := .inl (by simp)

/-- The numeral with one digit in front of the point and a power of ten. -/
def scaledNumeral (negative : Bool) (exponent : Nat) (zeros : Nat) : Numeral where
  whole := ds.take 1
  fraction := ds.drop 1
  ending := some (negative, List.replicate zeros '0' ++ naturalText exponent)
  whole_digits := fun c hc => hds.digits c (List.mem_of_mem_take hc)
  fraction_digits := fun c hc => hds.digits c (List.mem_of_mem_drop hc)
  ending_digits := by
    rintro negative _ ⟨⟩
    exact ⟨(areDigits_zeros zeros).append (areDigits_naturalText exponent),
      List.append_ne_nil_of_right_ne_nil _ Nat.toDigits_ne_nil⟩
  whole_part := by
    obtain ⟨d, rest, rfl, hd⟩ := hds.head
    exact .inr ⟨by simp, by simpa using hd⟩
  not_integer := .inr (by simp)

include hds

theorem smallNumeral_reads {point : Int} (hpoint : point ≤ 0) :
    (smallNumeral hds (-point).toNat).text = positional ds point ∧
      ((smallNumeral hds (-point).toNat).coefficient : ℚ) *
          10 ^ (smallNumeral hds (-point).toNat).scale =
        digitsValue ds * 10 ^ (point - ds.length) := by
  have hcoefficient : digitsValue (['0'] ++ (List.replicate (-point).toNat '0' ++ ds)) =
      digitsValue ds := by
    rw [← List.append_assoc, ← List.replicate_one, List.replicate_append_replicate,
      digitsValue_zeros_append]
  have hscale : (smallNumeral hds (-point).toNat).scale = point - ds.length := by
    simp [smallNumeral, Numeral.scale, Numeral.power]
    omega
  constructor
  · simp [smallNumeral, Numeral.text, Numeral.fractionText, Numeral.endingText, positional,
      hpoint, hds.ne_nil]
  · rw [hscale, Numeral.coefficient, smallNumeral, hcoefficient]

theorem splitNumeral_reads {point : Nat} (hpos : 0 < point) (hpoint : point < ds.length) :
    (splitNumeral hds point hpos hpoint).text = positional ds point ∧
      ((splitNumeral hds point hpos hpoint).coefficient : ℚ) *
          10 ^ (splitNumeral hds point hpos hpoint).scale =
        digitsValue ds * 10 ^ ((point : Int) - ds.length) := by
  have hscale : (splitNumeral hds point hpos hpoint).scale = point - ds.length := by
    simp [splitNumeral, Numeral.scale, Numeral.power]
    omega
  have hzeros : point - ds.length = 0 := by omega
  constructor
  · simp [splitNumeral, Numeral.text, Numeral.fractionText, Numeral.endingText, positional,
      hzeros, Nat.not_le.mpr hpoint, Nat.ne_of_gt hpos]
  · rw [hscale, Numeral.coefficient, splitNumeral, List.take_append_drop]

theorem roundNumeral_reads {point : Nat} (hpos : 0 < point) (hpoint : ds.length ≤ point) :
    (roundNumeral hds (point - ds.length)).text = positional ds point ∧
      ((roundNumeral hds (point - ds.length)).coefficient : ℚ) *
          10 ^ (roundNumeral hds (point - ds.length)).scale =
        digitsValue ds * 10 ^ ((point : Int) - ds.length) := by
  have hcoefficient : digitsValue (ds ++ List.replicate (point - ds.length) '0' ++ ['0']) =
      digitsValue ds * 10 ^ (point - ds.length + 1) := by
    rw [List.append_assoc, ← List.replicate_one, List.replicate_append_replicate,
      digitsValue_append_zeros]
  have hscale : (roundNumeral hds (point - ds.length)).scale = -1 := rfl
  have hexponent : ((point - ds.length + 1 : Nat) : Int) + -1 = point - ds.length := by omega
  constructor
  · simp [roundNumeral, Numeral.text, Numeral.fractionText, Numeral.endingText, positional,
      List.drop_eq_nil_of_le hpoint, List.take_of_length_le hpoint]
    omega
  · rw [hscale, Numeral.coefficient, roundNumeral, hcoefficient, Nat.cast_mul, Nat.cast_pow,
      Nat.cast_ofNat, mul_assoc, ← zpow_natCast, ← zpow_add₀ (by norm_num), hexponent]

/-- A positional layout is a numeral with a fraction. -/
theorem exists_positional (point : Int) :
    ∃ n : Numeral, n.text = positional ds point ∧
      (n.coefficient : ℚ) * 10 ^ n.scale = digitsValue ds * 10 ^ (point - ds.length) := by
  by_cases hsmall : point ≤ 0
  · exact ⟨_, smallNumeral_reads hds hsmall⟩
  · obtain ⟨p, rfl⟩ := Int.eq_ofNat_of_zero_le (a := point) (by omega)
    have hpos : 0 < p := by omega
    by_cases hsplit : p < ds.length
    · exact ⟨_, splitNumeral_reads hds hpos hsplit⟩
    · exact ⟨_, roundNumeral_reads hds hpos (not_lt.mp hsplit)⟩

/-- A scientific layout is a numeral with a power of ten. -/
theorem exists_scientific (layout : Layout) (point : Int) :
    ∃ n : Numeral, n.text = scientific layout ds point ∧
      (n.coefficient : ℚ) * 10 ^ n.scale = digitsValue ds * 10 ^ (point - ds.length) := by
  let zeros := layout.exponentWidth - (naturalText (point - 1).natAbs).length
  refine ⟨scaledNumeral hds (point - 1 < 0) (point - 1).natAbs zeros, ?_, ?_⟩
  · obtain ⟨d, rest, rfl, -⟩ := hds.head
    cases rest <;>
      simp [scaledNumeral, Numeral.text, Numeral.fractionText, Numeral.endingText, scientific,
        paddedText, zeros]
  · have hpower : (scaledNumeral hds (point - 1 < 0) (point - 1).natAbs zeros).power =
        point - 1 := by
      simp only [scaledNumeral, Numeral.power, digitsValue_zeros_append, digitsValue_naturalText,
        signed, decide_eq_true_eq]
      split <;> omega
    have hscale : (scaledNumeral hds (point - 1 < 0) (point - 1).natAbs zeros).scale =
        point - ds.length := by
      have hpos := List.length_pos_of_ne_nil hds.ne_nil
      rw [Numeral.scale, hpower]
      simp [scaledNumeral]
      omega
    rw [hscale, Numeral.coefficient, scaledNumeral, List.take_append_drop]

end Texts

def zeroNumeral : Numeral where
  whole := ['0']
  fraction := ['0']
  ending := none
  whole_digits := areDigits_zeros 1
  fraction_digits := areDigits_zeros 1
  ending_digits := by simp
  whole_part := .inl rfl
  not_integer := .inl (by simp)

def signText (negative : Bool) : List Char := if negative then ['-'] else []

/-- The text of a number is a numeral that is read as the number. -/
theorem exists_numeral (layout : Layout) (negative : Bool) (hcanonical : IsCanonical m e) :
    ∃ n : Numeral, ofDecimal negative n.coefficient n.scale = finite negative m e ∧
      ((finite negative m e).render layout).toList = signText negative ++ n.text := by
  rcases Nat.eq_zero_or_pos m with rfl | hm
  · obtain rfl : e = -1074 := by
      obtain ⟨-, -, -, hbits | he⟩ := hcanonical
      · simp at hbits
      · exact he
    exact ⟨zeroNumeral, rfl, by simp [render, signText]; rfl⟩
  · have hread := shortestDigits_reads hm hcanonical
    set s := shortestDigits m e with hs
    have hpos : 0 < s.digits := by
      refine Nat.pos_of_ne_zero fun hzero => ?_
      rw [hzero] at hread
      simp only [ofDecimal, if_true, zero, finite.injEq] at hread
      omega
    have hds := isSignificant_trimZeros hpos
    -- the layout keeps the value of the digits
    obtain ⟨n, htext, hvalue⟩ : ∃ n : Numeral,
        n.text = (if layout.leastPoint ≤ s.point ∧ s.point ≤ layout.greatestPoint then
          positional (trimZeros (naturalText s.digits)) s.point
        else scientific layout (trimZeros (naturalText s.digits)) s.point) ∧
        (n.coefficient : ℚ) * 10 ^ n.scale = digitsValue (trimZeros (naturalText s.digits)) *
          10 ^ (s.point - (trimZeros (naturalText s.digits)).length) := by
      split
      · exact exists_positional hds s.point
      · exact exists_scientific hds layout s.point
    rw [digitsValue_trimZeros] at hvalue
    have hsame (negative : Bool) := ofDecimal_congr negative hvalue
    refine ⟨n, ?_, ?_⟩
    · rw [hsame]
      cases negative with
      | false => exact hread
      | true => rw [ofDecimal_true, hread, neg, Bool.not_false]
    · simp only [render, Nat.ne_of_gt hm, if_false, String.toList_ofList, ← hs, htext, signText]

end Binary64

end AlertRelay.Number
