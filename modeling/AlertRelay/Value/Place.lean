import AlertRelay.Value.Basic

/-!
# The places of a set

A set is kept in a table with a power of two of places, and its members are shown in
the order of their places.  A member finds its place by its residue; if that place is
taken, the following ones are tried, and then the member moves on by a rule that leads
to every place.  The residue of a number is that for a prime, and what is empty counts
as zero.  Other members have residues that each process draws for itself, so the order in
which they are shown differs from process to process.
-/

namespace AlertRelay.Value

open AlertRelay.Number

/-! ## Residues -/

def residuePrime : Nat := Nat.pow 2 61 - 1

/-- The residue of what is beyond all numbers. -/
def boundlessResidue : Int := 314159

/-- A number with its sign; the residue of minus one is that of minus two. -/
def signed (negative : Bool) (n : Nat) : Int :=
  if negative then (if n = 1 then -2 else -n) else n

/-- The residue of a number.  For a power of two only the exponent modulo 61
counts. -/
def residue? : Value → Option Int
  | float .nan | stray _ => none
  | text s => if s = "" then some 0 else none
  | bytes bs => if bs = [] then some 0 else none
  | float (.infinite s) => some (if s then -boundlessResidue else boundlessResidue)
  | float (.finite s m e) =>
      some (signed s (m * Nat.pow 2 (e % 61).toNat % residuePrime))
  | v => v.asInt?.map fun i => signed (i < 0) (i.natAbs % residuePrime)

/-- The residues that one process has drawn for what is no number. -/
abbrev Residues := Value → Int

def residueIn (residues : Residues) (v : Value) : Int := (residue? v).getD (residues v)

/-! ## Tables -/

def placeCount (members : Nat) : Nat :=
  if members < 5 then 8 else Nat.pow 2 ((2 * members).log2 + 1)

/-- How many places are tried behind the first one, if the table has so many. -/
def nearby : Nat := 9

/-- The places that are tried together. -/
def placesFrom (i size : Nat) : List Nat :=
  if i + nearby < size then (List.range (nearby + 1)).map (i + ·) else [i]

/-- The first free place for a member; the drift makes members part that began at one
place, and is gone after a few steps. -/
def freePlace (table : Array (Option α)) : Nat → Nat → Nat → Nat
  | 0, i, _ => i
  | steps + 1, i, drift =>
      match (placesFrom i table.size).find? fun j => (table.getD j none).isNone with
      | some j => j
      | none => freePlace table steps ((i * 5 + 1 + drift / 32) % table.size) (drift / 32)

/-- Puts what stands for a member with a residue into a table. -/
def place (table : Array (Option α)) (member : α × Int) : Array (Option α) :=
  let drift := (member.2 % Nat.pow 2 64).toNat
  table.setIfInBounds (freePlace table (table.size + 16) (drift % table.size) drift)
    (some member.1)

/-- What stands for the members of a set, in the order in which they are shown. -/
def inPlaces (members : List (α × Int)) : List α :=
  (members.foldl place (Array.replicate (placeCount members.length) none)).toList.filterMap id

end AlertRelay.Value
