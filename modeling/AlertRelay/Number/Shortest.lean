import AlertRelay.Number.Decimal

/-!
# Shortest decimal texts

A finite number is written with the fewest significant digits that read back as
the same number, and of those digit strings the nearest to it.  On each decimal
grid only the two neighbours of the number come into question: if a point of
the grid reads back, so does one of them.
-/

namespace AlertRelay.Number

/-- Significant digits and the place of the point: `0.d₁d₂… · 10 ^ point`. -/
structure DigitString where
  digits : Nat
  point : Int
  deriving DecidableEq, Repr

namespace Binary64

/-- The least `k` with the fraction below `10 ^ k`: the digits in front of its point are
counted, or else the zeros behind it. -/
def Fraction.magnitude (f : Fraction) : Int :=
  if f.den ≤ f.num then (naturalText (f.num / f.den)).length
  else 1 - ((naturalText ((f.den - 1) / f.num)).length : Int)

/-- The points of the grid `10 ^ k` just below and just above the fraction. -/
def Fraction.neighbours (f : Fraction) (k : Int) : Nat × Nat :=
  let q :=
    if 0 ≤ k then f.num / (f.den * Nat.pow 10 k.toNat) else f.num * Nat.pow 10 (-k).toNat / f.den
  (q, q + 1)

/-- Whether the point below is nearer to the fraction than the point above it;
a tie goes to the even one. -/
def Fraction.lowerIsNearer (f : Fraction) (k : Int) (low : Nat) : Bool :=
  let twice := 2 * low + 1
  let (left, right) :=
    if 0 ≤ k then (2 * f.num, twice * f.den * Nat.pow 10 k.toNat)
    else (2 * f.num * Nat.pow 10 (-k).toNat, twice * f.den)
  left < right || (left == right && low % 2 == 0)

/-- The best point on the grid with `count` significant digits, if one of the
two neighbours reads back. -/
def onGrid? (m : Nat) (e : Int) (count : Nat) : Option DigitString :=
  let f := Fraction.scaled m e
  let point := f.magnitude
  let k := point - count
  let (low, high) := f.neighbours k
  let readsBack (n : Nat) : Bool := ofDecimal false n k == finite false m e
  let chosen :=
    match readsBack low, readsBack high with
    | true, true => some (if f.lowerIsNearer k low then low else high)
    | true, false => some low
    | false, true => some high
    | false, false => none
  chosen.map fun n =>
    if n = Nat.pow 10 count then ⟨Nat.pow 10 (count - 1), point + 1⟩ else ⟨n, point⟩

/-- The shortest digits of `m · 2 ^ e`; seventeen always read back. -/
def shortestDigits (m : Nat) (e : Int) : DigitString :=
  ((List.range 17).findSome? fun i => onGrid? m e (i + 1)).getD ⟨0, 0⟩

/-! ## Layout -/

/-- How a number is laid out: positional while the point lies in the given
range, scientific outside of it. -/
structure Layout where
  leastPoint : Int
  greatestPoint : Int
  exponentWidth : Nat
  infinity : String
  notANumber : String
  deriving DecidableEq, Repr

/-- A number from `0.0001` up to below `10 ^ 16` is positional and has at least
one digit after its point; the exponent of any other has a sign and at least
two digits. -/
def plain : Layout := ⟨-3, 16, 2, "inf", "nan"⟩

def trimZeros (ds : List Char) : List Char := (ds.reverse.dropWhile (· == '0')).reverse

def positional (ds : List Char) (point : Int) : List Char :=
  if point ≤ 0 then '0' :: '.' :: List.replicate (-point).toNat '0' ++ ds
  else
    let whole := ds.take point.toNat
    let fraction := ds.drop point.toNat
    whole ++ List.replicate (point.toNat - ds.length) '0' ++ '.' ::
      (if fraction.isEmpty then ['0'] else fraction)

def scientific (layout : Layout) (ds : List Char) (point : Int) : List Char :=
  let power := point - 1
  let mantissa :=
    match ds with
    | d :: rest@(_ :: _) => d :: '.' :: rest
    | ds => ds
  mantissa ++ 'e' :: (if power < 0 then '-' else '+') ::
    (paddedText layout.exponentWidth power.natAbs).toList

def render (layout : Layout) : Binary64 → String
  | nan => layout.notANumber
  | infinite negative => (if negative then "-" else "") ++ layout.infinity
  | finite negative m e =>
      let sign := if negative then ['-'] else []
      if m = 0 then String.ofList (sign ++ ['0', '.', '0'])
      else
        let s := shortestDigits m e
        let ds := trimZeros (naturalText s.digits)
        let body :=
          if layout.leastPoint ≤ s.point ∧ s.point ≤ layout.greatestPoint then
            positional ds s.point
          else scientific layout ds s.point
        String.ofList (sign ++ body)

def text (x : Binary64) : String := x.render plain

end Binary64

end AlertRelay.Number
