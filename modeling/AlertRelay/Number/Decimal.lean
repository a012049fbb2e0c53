import AlertRelay.Number.Binary64
import AlertRelay.Number.Integer

/-!
# Decimal numerals

A numeral is read as digits with an optional point among them and an optional
power of ten behind, after an optional sign, or as one of the words for an
infinity or for what is not a number.  Blanks around it do not count.
-/

namespace AlertRelay.Number

open AlertRelay.Text

/-- A run of decimal digits and what follows it. -/
def spanDigits : List Char → List Nat × List Char
  | [] => ([], [])
  | c :: rest =>
      match decimalDigit? c with
      | some d => let (ds, after) := spanDigits rest; (d :: ds, after)
      | none => ([], c :: rest)

/-- The power of ten at the end of a numeral; `0` when nothing is left. -/
def exponentPart? : List Char → Option Int
  | [] => some 0
  | e :: rest =>
      if e == 'e' || e == 'E' then
        let (negative, body) := splitSign rest
        match spanDigits body with
        | (d :: ds, []) => some (signed negative (ofDigits 10 (d :: ds)))
        | _ => none
      else none

/-- An unsigned numeral in digits. -/
def unsignedNumeral? (negative : Bool) (s : List Char) : Option Binary64 := do
  let (whole, afterWhole) := spanDigits s
  let (fraction, rest) :=
    match afterWhole with
    | '.' :: more => spanDigits more
    | more => ([], more)
  if whole.isEmpty && fraction.isEmpty then none
  else
    let power ← exponentPart? rest
    some (.ofDecimal negative (ofDigits 10 (whole ++ fraction)) (power - fraction.length))

def lowerAscii (c : Char) : Char :=
  if 'A' ≤ c ∧ c ≤ 'Z' then Char.ofNat (c.toNat + 32) else c

/-- The number nearest to the numeral that a text holds. -/
def numeral? (s : List Char) : Option Binary64 :=
  let (negative, body) := splitSign (trimBlanks s)
  let word := String.ofList (body.map lowerAscii)
  if word = "inf" ∨ word = "infinity" then some (.infinite negative)
  else if word = "nan" then some .nan
  else unsignedNumeral? negative body

end AlertRelay.Number
