/-!
# UTF-8

Bytes are read as UTF-8 one at a time.  Where they are ill-formed, the longest
run that could still have begun a character counts as one fault, and reading
starts again at the byte that could not follow.  `decode` lists characters and
faults in order, and a strict reader refuses any fault.
-/

namespace AlertRelay.Text.Utf8

/-- A character of which some bytes have been read: how many are still owed,
the range in which the next one has to lie, and the value so far. -/
structure Unfinished where
  owed : Nat
  low : Nat
  high : Nat
  value : Nat
  deriving DecidableEq, Repr

/-- What a byte means at the start of a character. -/
inductive Lead where
  | whole (c : Char)
  | opens (p : Unfinished)
  | fault
  deriving DecidableEq, Repr

def lead (b : Nat) : Lead :=
  if b < 0x80 then .whole (Char.ofNat b)
  else if b < 0xC2 then .fault
  else if b < 0xE0 then .opens ⟨1, 0x80, 0xBF, b - 0xC0⟩
  else if b = 0xE0 then .opens ⟨2, 0xA0, 0xBF, 0⟩
  else if b = 0xED then .opens ⟨2, 0x80, 0x9F, 0xD⟩
  else if b < 0xF0 then .opens ⟨2, 0x80, 0xBF, b - 0xE0⟩
  else if b = 0xF0 then .opens ⟨3, 0x90, 0xBF, 0⟩
  else if b < 0xF4 then .opens ⟨3, 0x80, 0xBF, b - 0xF0⟩
  else if b = 0xF4 then .opens ⟨3, 0x80, 0x8F, 4⟩
  else .fault

/-- The value of a partly read character with six more bits. -/
def Unfinished.extend (p : Unfinished) (b : Nat) : Nat := p.value * 64 + (b - 0x80)

/-- Characters and faults (`none`) of the bytes, given what is still open. -/
def decodeFrom : Option Unfinished → List UInt8 → List (Option Char)
  | none, [] => []
  | some _, [] => [none]
  | none, b :: bs =>
      match lead b.toNat with
      | .whole c => some c :: decodeFrom none bs
      | .opens p => decodeFrom (some p) bs
      | .fault => none :: decodeFrom none bs
  | some p, b :: bs =>
      if p.low ≤ b.toNat ∧ b.toNat ≤ p.high then
        if p.owed ≤ 1 then some (Char.ofNat (p.extend b.toNat)) :: decodeFrom none bs
        else decodeFrom (some ⟨p.owed - 1, 0x80, 0xBF, p.extend b.toNat⟩) bs
      else
        match lead b.toNat with
        | .whole c => none :: some c :: decodeFrom none bs
        | .opens q => none :: decodeFrom (some q) bs
        | .fault => none :: none :: decodeFrom none bs

def decode (bs : List UInt8) : List (Option Char) := decodeFrom none bs

/-- The text of the bytes, if they are well-formed throughout. -/
def strict? (bs : List UInt8) : Option (List Char) := (decode bs).mapM id

def replacement : Char := '\ufffd'

end AlertRelay.Text.Utf8
