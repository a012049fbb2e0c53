import AlertRelay.Charset.Table

/-!
# Sets of two bytes

Most sets for ideographs share one plan: bytes of the lower half are ASCII, some
others stand for themselves, and all the rest begin a pair.
-/

namespace AlertRelay.Charset

/-- A pair of bytes as one number. -/
def pairCode (a b : UInt8) : Nat := a.toNat * 256 + b.toNat

/-- A pair without its high bits, if the second byte has one. -/
def highCode? (a b : UInt8) : Option Nat :=
  if a.toNat < 0x80 ∨ b.toNat < 0x80 then none else some (pairCode a b - 0x8080)

def asciiByte? (b : UInt8) : Option Char :=
  if b.toNat < 0x80 then some (Char.ofNat b.toNat) else none

/-- Characters from so many bytes, or one faulty byte. -/
def Step.ofChars? {σ : Type} (s : σ) (taken : Nat) : Option (List Char) → Step σ
  | some cs => .chars cs taken s
  | none => .fault 1

/-- One step in a set whose single bytes and pairs are given. -/
def pairStep (one : UInt8 → Option Char) (two : UInt8 → UInt8 → Option (List Char)) :
    Unit → List UInt8 → Step Unit
  | _, [] => .short
  | _, a :: rest =>
      match one a with
      | some c => .chars [c] 1 ()
      | none =>
          match rest with
          | [] => .short
          | b :: _ => .ofChars? () 2 (two a b)

def pairSet (name : String) (aliases : List String) (one : UInt8 → Option Char)
    (two : UInt8 → UInt8 → Option (List Char)) : Charset :=
  { name, aliases, read := readWith (pairStep one two) () }

/-- The character with the given number among those from a first one on that are not
in the list, which is in increasing order. -/
def nthBeside (taken : List Nat) (first n : Nat) : Nat :=
  taken.foldl (fun c t => if t ≤ c then c + 1 else c) (first + n)

/-- The characters of a table in a range, in increasing order. -/
def Table.inRange (t : Table) (first last : Nat) : List Nat :=
  ((t.flatMap fun (_, chars) => chars.toList.map Char.toNat).filter
    fun n => first ≤ n && n ≤ last).mergeSort

end AlertRelay.Charset
