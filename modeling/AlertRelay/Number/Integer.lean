import AlertRelay.Text.Digit

/-!
# Integers in text

An integer is read in a radix: blanks around it are dropped, a sign may come
first, then the mark of the radix, then digits, of which any two neighbours may
be parted by one underscore.  Reading and writing in the decimal radix give up on
more than 4300 digits.
-/

namespace AlertRelay.Number

open AlertRelay.Text

inductive Radix where
  | binary
  | octal
  | decimal
  | hexadecimal
  deriving DecidableEq, Repr

def Radix.size : Radix → Nat
  | .binary => 2
  | .octal => 8
  | .decimal => 10
  | .hexadecimal => 16

/-- The letter that follows a leading zero to announce the radix. -/
def Radix.announcedBy (c : Char) : Radix → Bool
  | .binary => c == 'b' || c == 'B'
  | .octal => c == 'o' || c == 'O'
  | .decimal => false
  | .hexadecimal => c == 'x' || c == 'X'

/-- The largest number of decimal digits that is read or written. -/
def maxDecimalDigits : Nat := 4300

/-- Whether an integer is short enough to be written.  The bound is a number of its own size,
so it is not unfolded by the way. -/
@[irreducible] def isWritable (i : Int) : Bool := i.natAbs < Nat.pow 10 maxDecimalDigits

/-- The value of a digit: a decimal digit, or a letter from ten on. -/
def digitValue? (c : Char) : Option Nat :=
  if 'a' ≤ c ∧ c ≤ 'z' then some (c.toNat - 0x61 + 10)
  else if 'A' ≤ c ∧ c ≤ 'Z' then some (c.toNat - 0x41 + 10)
  else decimalDigit? c

def digitIn? (r : Radix) (c : Char) : Option Nat :=
  (digitValue? c).filter (· < r.size)

/-- The digits of a numeral, underscores between them left out. -/
def digitsIn? (r : Radix) : List Char → Option (List Nat)
  | [] => none
  | [c] => (digitIn? r c).map ([·])
  | c :: '_' :: rest => do
      let d ← digitIn? r c
      let ds ← digitsIn? r rest
      return d :: ds
  | c :: rest => do
      let d ← digitIn? r c
      let ds ← digitsIn? r rest
      return d :: ds

/-- The number with the given digits, most significant first. -/
def ofDigits (base : Nat) (ds : List Nat) : Nat := ds.foldl (fun n d => n * base + d) 0

/-- A sign and what follows it; `true` is the minus sign. -/
def splitSign : List Char → Bool × List Char
  | '-' :: rest => (true, rest)
  | '+' :: rest => (false, rest)
  | s => (false, s)

/-- What follows the mark of the radix, if it is there. -/
def dropMark (r : Radix) : List Char → List Char
  | s@('0' :: c :: rest) =>
      if r.announcedBy c then
        match rest with
        | '_' :: rest => rest
        | rest => rest
      else s
  | s => s

def signed (negative : Bool) (n : Nat) : Int := if negative then -(n : Int) else n

/-- The integer that a text stands for in a radix. -/
def integer? (r : Radix) (s : List Char) : Option Int := do
  let (negative, body) := splitSign (trimBlanks s)
  let ds ← digitsIn? r (dropMark r body)
  if r = .decimal ∧ maxDecimalDigits < ds.length then none
  else some (signed negative (ofDigits r.size ds))

def naturalText (n : Nat) : List Char := Nat.toDigits 10 n

/-- An integer in decimal digits, after a minus sign if it is negative. -/
def integerText (i : Int) : String :=
  String.ofList (if i < 0 then '-' :: naturalText i.natAbs else naturalText i.natAbs)

/-- A natural number in at least `width` decimal digits. -/
def paddedText (width n : Nat) : String :=
  let ds := naturalText n
  String.ofList (List.replicate (width - ds.length) '0' ++ ds)

end AlertRelay.Number
