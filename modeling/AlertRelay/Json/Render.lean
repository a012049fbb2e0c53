import AlertRelay.Json.Basic
import AlertRelay.Number.Shortest
import AlertRelay.Text.Quoted

/-!
# JSON texts

Two styles are in use.  The compact one has no blanks and writes characters
beyond ASCII as they are; it makes request bodies.  The spaced one puts a blank
after each comma and colon and writes ASCII alone, characters above `\uffff` as
a pair of escapes; it makes log lines.  Neither style has a line feed in it.  Half of
a pair has an escape of its own; bodies never hold one, as it has no bytes.
-/

namespace AlertRelay.Json

open AlertRelay.Text AlertRelay.Number

structure Style where
  gap : List Char
  asciiOnly : Bool
  deriving DecidableEq, Repr

def compact : Style := ⟨[], false⟩

def spaced : Style := ⟨[' '], true⟩

/-- An escape of four hexadecimal digits. -/
def unitEscape (n : Nat) : List Char := '\\' :: 'u' :: hexDigits 4 n

/-- A character by its number: one escape, or the pair of a high and a low
half for a number above `0xffff`. -/
def numberEscape (n : Nat) : List Char :=
  if n < 0x10000 then unitEscape n
  else unitEscape (0xd800 + (n - 0x10000) / 0x400) ++ unitEscape (0xdc00 + (n - 0x10000) % 0x400)

/-- One character of a string. -/
def escapedChar (asciiOnly : Bool) (c : Char) : List Char :=
  if c == '\x22' then ['\\', '\x22']
  else if c == '\\' then ['\\', '\\']
  else if c == '\n' then ['\\', 'n']
  else if c == '\r' then ['\\', 'r']
  else if c == '\t' then ['\\', 't']
  else if c == '\x0c' then ['\\', 'f']
  else if c == '\x08' then ['\\', 'b']
  else if c.toNat < 0x20 || (asciiOnly && 0x7f ≤ c.toNat) then numberEscape c.toNat
  else [c]

/-- One point of a string. -/
def escapedPoint (asciiOnly : Bool) : Point → List Char
  | .char c => escapedChar asciiOnly c
  | p => unitEscape p.toNat

def renderText (asciiOnly : Bool) (s : Spelled) : List Char :=
  '\x22' :: s.points.flatMap (escapedPoint asciiOnly) ++ ['\x22']

mutual

/-- Whether no text of a value holds half of a pair. -/
def isWhole : Json → Bool
  | text s => s.isWhole
  | array items => areWholeItems items
  | object fields => areWholeFields fields
  | null | bool _ | int _ | float _ => true

def areWholeItems : List Json → Bool
  | [] => true
  | v :: rest => isWhole v && areWholeItems rest

def areWholeFields : List (Spelled × Json) → Bool
  | [] => true
  | (k, v) :: rest => k.isWhole && isWhole v && areWholeFields rest

end

mutual

/-- Whether a value can be written: no integer in it is too long. -/
def isWritable : Json → Bool
  | int i => Number.isWritable i
  | array items => areWritableItems items
  | object fields => areWritableFields fields
  | null | bool _ | float _ | text _ => true

def areWritableItems : List Json → Bool
  | [] => true
  | v :: rest => isWritable v && areWritableItems rest

def areWritableFields : List (Spelled × Json) → Bool
  | [] => true
  | (_, v) :: rest => isWritable v && areWritableFields rest

end

/-- The text of a float; the values that are no numbers have words of their
own. -/
def renderFloat (x : Binary64) : List Char :=
  (x.render { Binary64.plain with infinity := "Infinity", notANumber := "NaN" }).toList

mutual

def render (style : Style) : Json → List Char
  | null => "null".toList
  | bool b => (if b then "true" else "false").toList
  | int i => (integerText i).toList
  | float x => renderFloat x
  | text s => renderText style.asciiOnly s
  | array items => '[' :: renderItems style items ++ [']']
  | object fields => '\x7b' :: renderFields style fields ++ ['\x7d']

def renderItems (style : Style) : List Json → List Char
  | [] => []
  | [v] => render style v
  | v :: rest => render style v ++ ',' :: style.gap ++ renderItems style rest

def renderFields (style : Style) : List (Spelled × Json) → List Char
  | [] => []
  | [(k, v)] => renderText style.asciiOnly k ++ ':' :: style.gap ++ render style v
  | (k, v) :: rest =>
      renderText style.asciiOnly k ++ ':' :: style.gap ++ render style v ++
        ',' :: style.gap ++ renderFields style rest

end

end AlertRelay.Json
