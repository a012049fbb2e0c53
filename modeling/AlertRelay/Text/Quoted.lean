import AlertRelay.Text.Point
import AlertRelay.Text.Printable

/-!
# Quoted texts

A quoted text stands between two equal quotation marks on one line.  The mark
is the single one, unless the text holds single marks and no double one.  A
backslash and the mark itself are preceded by a backslash; tab, line feed and
carriage return have escapes of one letter; any other character that is not
printable, and so each half of a pair, is written by its number in hexadecimal.
-/

namespace AlertRelay.Text

def singleMark : Char := '\x27'

def doubleMark : Char := '\x22'

/-- The hexadecimal digit of a number below sixteen, in lower case. -/
def hexDigit (n : Nat) : Char :=
  if n < 10 then Char.ofNat (0x30 + n) else Char.ofNat (0x61 + (n - 10))

/-- The last `width` hexadecimal digits of a number. -/
def hexDigits : Nat → Nat → List Char
  | 0, _ => []
  | width + 1, n => hexDigits width (n / 16) ++ [hexDigit (n % 16)]

def quotationMark (s : List Point) : Char :=
  if s.contains (.char singleMark) && !s.contains (.char doubleMark) then doubleMark
  else singleMark

def numberEscape (n : Nat) : List Char :=
  if n < 0x100 then '\\' :: 'x' :: hexDigits 2 n
  else if n < 0x10000 then '\\' :: 'u' :: hexDigits 4 n
  else '\\' :: 'U' :: hexDigits 8 n

def quotedChar (mark c : Char) : List Char :=
  if c == mark || c == '\\' then ['\\', c]
  else if c == '\t' then ['\\', 't']
  else if c == '\n' then ['\\', 'n']
  else if c == '\r' then ['\\', 'r']
  else if isPrintable c then [c]
  else numberEscape c.toNat

def quotedPoint (mark : Char) : Point → List Char
  | .char c => quotedChar mark c
  | p => numberEscape p.toNat

def quotedPoints (s : List Point) : List Char :=
  quotationMark s :: s.flatMap (quotedPoint (quotationMark s)) ++ [quotationMark s]

/-- A text between quotation marks. -/
def quoted (s : Spelled) : String := String.ofList (quotedPoints s.points)

/-- A point outside of quotation marks: a half is written by its number. -/
def escapedHalf : Point → List Char
  | .char c => [c]
  | p => numberEscape p.toNat

/-- The text with its halves written by their numbers. -/
def Spelled.escaped (s : Spelled) : String := String.ofList (s.points.flatMap escapedHalf)

/-- One byte of a quoted byte string: only ASCII is shown as it is. -/
def quotedByte (mark : Char) (b : UInt8) : List Char :=
  if b.toNat < 0x7f then quotedChar mark (Char.ofNat b.toNat) else numberEscape b.toNat

/-- A byte string between quotation marks, after the letter that tells it from
a text. -/
def quotedBytes (bs : List UInt8) : String :=
  let mark := quotationMark (bs.map fun b => .char (Char.ofNat b.toNat))
  String.ofList ('b' :: mark :: bs.flatMap (quotedByte mark) ++ [mark])

end AlertRelay.Text
