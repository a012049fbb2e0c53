/-!
# Binary floating-point numbers

A finite number is `± mantissa · 2 ^ exponent` with a mantissa below `2 ^ 53`
and an exponent of at least `-1074`; the mantissa has 53 bits unless the
exponent is the least one.  Every operation is the exact one on fractions
followed by rounding to the nearest such number, a tie going to the even
mantissa.
-/

namespace AlertRelay.Number

inductive Binary64 where
  | nan
  | infinite (negative : Bool)
  | finite (negative : Bool) (mantissa : Nat) (exponent : Int)
  deriving DecidableEq, Repr, Inhabited

namespace Binary64

def zero (negative : Bool) : Binary64 := finite negative 0 (-1074)

/-! ## Fractions -/

structure Fraction where
  num : Nat
  den : Nat
  deriving DecidableEq, Repr

/-- `n · 2 ^ e`. -/
def Fraction.scaled (n : Nat) (e : Int) : Fraction :=
  if 0 ≤ e then ⟨n * Nat.pow 2 e.toNat, 1⟩ else ⟨n, Nat.pow 2 (-e).toNat⟩

/-- The quotient rounded to the nearest natural number, a tie to the even one. -/
def roundedQuotient (num den : Nat) : Nat :=
  let q := num / den
  let twice := 2 * (num % den)
  if den < twice ∨ (twice = den ∧ q % 2 = 1) then q + 1 else q

/-- The fraction divided by `2 ^ e`. -/
def Fraction.shifted (f : Fraction) (e : Int) : Fraction :=
  if 0 ≤ e then ⟨f.num, f.den * Nat.pow 2 e.toNat⟩ else ⟨f.num * Nat.pow 2 (-e).toNat, f.den⟩

/-- The exponent that leaves 53 bits in front of the point, found next to an estimate by the
binary size. -/
def Fraction.exponent (f : Fraction) : Int :=
  let guess : Int := (f.num.log2 : Int) - f.den.log2 - 52
  let trial := f.shifted guess
  if trial.num / trial.den < Nat.pow 2 52 then guess - 1 else guess

/-- A number with a mantissa that may have been rounded up to the next power of two. -/
def carried (negative : Bool) (mantissa : Nat) (exponent : Int) : Binary64 :=
  let (mantissa, exponent) :=
    if mantissa = Nat.pow 2 53 then (Nat.pow 2 52, exponent + 1) else (mantissa, exponent)
  if 971 < exponent then infinite negative else finite negative mantissa exponent

def ofFraction (negative : Bool) (f : Fraction) : Binary64 :=
  if f.num = 0 then zero negative
  else
    let exponent := max f.exponent (-1074)
    let scaled := f.shifted exponent
    carried negative (roundedQuotient scaled.num scaled.den) exponent

/-- The number nearest to `coefficient · 10 ^ exponent`.  Far outside the range
the answer is known from the number of digits. -/
def ofDecimal (negative : Bool) (coefficient : Nat) (exponent : Int) : Binary64 :=
  if coefficient = 0 then zero negative
  else
    let size : Int := (Nat.toDigits 10 coefficient).length + exponent
    if 310 < size then infinite negative
    else if size < -330 then zero negative
    else if 0 ≤ exponent then ofFraction negative ⟨coefficient * Nat.pow 10 exponent.toNat, 1⟩
    else ofFraction negative ⟨coefficient, Nat.pow 10 (-exponent).toNat⟩

def ofNat (n : Nat) : Binary64 := ofFraction false ⟨n, 1⟩

/-! ## Arithmetic -/

def neg : Binary64 → Binary64
  | nan => nan
  | infinite s => infinite !s
  | finite s m e => finite (!s) m e

def isZero : Binary64 → Bool
  | finite _ m _ => m == 0
  | _ => false

/-- The product, rounded once. -/
def mul : Binary64 → Binary64 → Binary64
  | nan, _ => nan
  | _, nan => nan
  | infinite s, y@(finite t _ _) => if y.isZero then nan else infinite (s != t)
  | x@(finite s _ _), infinite t => if x.isZero then nan else infinite (s != t)
  | infinite s, infinite t => infinite (s != t)
  | finite s m e, finite t n f => ofFraction (s != t) (.scaled (m * n) (e + f))

/-- The mantissa of a finite number when its exponent is lowered to `e`. -/
def alignedTo (e : Int) (negative : Bool) (mantissa : Nat) (exponent : Int) : Int :=
  let n : Int := mantissa * Nat.pow 2 (exponent - e).toNat
  if negative then -n else n

/-- The sum, rounded once; a sum of zero is negative only if both terms are. -/
def add : Binary64 → Binary64 → Binary64
  | nan, _ => nan
  | _, nan => nan
  | infinite s, infinite t => if s = t then infinite s else nan
  | infinite s, _ => infinite s
  | _, infinite t => infinite t
  | finite s m e, finite t n f =>
      let low := min e f
      let total := alignedTo low s m e + alignedTo low t n f
      if total = 0 then zero (s && t)
      else ofFraction (total < 0) (.scaled total.natAbs low)

/-! ## Comparison -/

/-- Whether two numbers are equal as numbers: the zeros are, and nothing equals
the value that is not a number. -/
def sameNumber : Binary64 → Binary64 → Bool
  | infinite s, infinite t => s == t
  | finite s m e, finite t n f => (m == 0 && n == 0) || (s == t && m == n && e == f)
  | _, _ => false

def equalsInt : Binary64 → Int → Bool
  | finite s m e, i =>
      let f := Fraction.scaled m e
      (if s then -(f.num : Int) else f.num) == i * f.den
  | _, _ => false

end Binary64

end AlertRelay.Number
