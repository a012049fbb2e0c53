import AlertRelay.Calendar
import AlertRelay.Json.Basic
import AlertRelay.Text.Point

/-!
# Values of a document

A document is a tree of values, with one addition: a container that holds
itself, directly or through others, stands in a table of shared containers, and
the tree refers to it by its number there.  The keys of a mapping and the
members of a set are never containers.  A number that is none, given by its text,
is a value of its own wherever it stands, and the number of its place tells it from
others.
-/

namespace AlertRelay

open AlertRelay.Number AlertRelay.Calendar

inductive Value where
  | null
  | bool (b : Bool)
  | int (i : Int)
  | float (x : Binary64)
  /-- no number, at a place of its own -/
  | stray (place : Nat)
  | text (s : Text.Spelled)
  | bytes (bs : List UInt8)
  | date (d : Date)
  | timestamp (t : Timestamp)
  | list (items : List Value)
  | pair (key value : Value)
  | set (members : List Value)
  | mapping (entries : List (Value × Value))
  | shared (number : Nat)
  deriving Repr, Inhabited

abbrev SharedTable := List (Nat × Value)

structure Document where
  root : Value
  table : SharedTable
  deriving Repr, Inhabited

namespace Value

/-! ## Keys -/

/-- The integer that a truth value counts as among numbers. -/
def asInt? : Value → Option Int
  | bool b => some (if b then 1 else 0)
  | int i => some i
  | _ => none

/-- Whether two keys are the same: numbers are compared as numbers, so that `1`,
`1.0` and the true value are one key, and timestamps by the moment they mean. -/
def sameKey (a b : Value) : Bool :=
  match a, b with
  | null, null => true
  | text s, text t => s == t
  | stray m, stray n => m == n
  | bytes s, bytes t => s == t
  | date d, date e => d == e
  | timestamp t, timestamp u => t.sameMoment u
  | float .nan, float .nan => true
  | float x, float y => x.sameNumber y
  | float x, b =>
      match b.asInt? with
      | some i => x.equalsInt i
      | none => false
  | a, float y =>
      match a.asInt? with
      | some i => y.equalsInt i
      | none => false
  | a, b =>
      match a.asInt?, b.asInt? with
      | some i, some j => i == j
      | _, _ => false

/-- Entries with one of them set: a key that is there keeps its place and takes
the new value. -/
def setEntry (key : Value) (value : α) : List (Value × α) → List (Value × α)
  | [] => [(key, value)]
  | (k, v) :: rest =>
      if k.sameKey key then (k, value) :: rest else (k, v) :: setEntry key value rest

def lookup (key : String) (entries : List (Value × Value)) : Option Value :=
  (entries.find? fun (k, _) => k.sameKey (text (.whole key))).map (·.2)

/-! ## Shared containers -/

/-- The value itself; a reference is replaced by the container it means. -/
def resolved (table : SharedTable) : Value → Value
  | shared n => (table.lookup n).getD null
  | v => v

def entries? (table : SharedTable) (v : Value) : Option (List (Value × Value)) :=
  match v.resolved table with
  | mapping entries => some entries
  | _ => none

def items? (table : SharedTable) (v : Value) : Option (List Value) :=
  match v.resolved table with
  | list items => some items
  | _ => none

/-! ## Truth -/

/-- A value is blank if it is null, false, a zero or empty.  A shared container
holds something, and so is not blank. -/
def isBlank : Value → Bool
  | null => true
  | bool b => !b
  | int i => i == 0
  | float x => x.isZero
  | text s => s == .whole ""
  | bytes bs => bs.isEmpty
  | list items => items.isEmpty
  | set members => members.isEmpty
  | mapping entries => entries.isEmpty
  | stray _ | date _ | timestamp _ | pair _ _ | shared _ => false

/-! ## From JSON -/

mutual

def ofJson : Json → Value
  | .null => null
  | .bool b => bool b
  | .int i => int i
  | .float x => float x
  | .text s => text s
  | .array items => list (ofJsonItems items)
  | .object fields => mapping (ofJsonFields fields)

def ofJsonItems : List Json → List Value
  | [] => []
  | v :: rest => ofJson v :: ofJsonItems rest

def ofJsonFields : List (Text.Spelled × Json) → List (Value × Value)
  | [] => []
  | (k, v) :: rest => (text k, ofJson v) :: ofJsonFields rest

end

end Value

end AlertRelay
