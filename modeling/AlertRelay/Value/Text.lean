import AlertRelay.Number.Integer
import AlertRelay.Number.Shortest
import AlertRelay.Text.Quoted
import AlertRelay.Value.Place

/-!
# Texts of values

A value has two texts.  Its literal shows what kind of value it is: texts are
quoted, and a container lists the literals of what it holds.  Its display text
is the literal, except that a text is shown as it is and a date or a timestamp
in the usual notation.

A container that is met again inside itself is shown as an ellipsis between its
brackets, so every literal is finite.  An integer that is too long to be written
has no text, and neither has what holds it.
-/

namespace AlertRelay.Value

open AlertRelay.Number AlertRelay.Text

/-- What the texts of the values of a document depend on besides the values: its shared
containers, and the residues of the process. -/
structure Context where
  table : SharedTable := []
  residues : Residues := fun _ => 0

/-- The marks around a container that is met again inside itself. -/
def ellipsis : Value → String
  | mapping _ => "\x7b...\x7d"
  | set _ => "set(...)"
  | _ => "[...]"

/-- The text of an integer that is short enough. -/
def integerText? (i : Int) : Option String :=
  if isWritable i then some (integerText i) else none

/-- Literals one after the other. -/
def listed (literals : List String) : String := ", ".intercalate literals

/-- The literal of a set, given those of its members. -/
def setLiteral (residues : Residues) (members : List Value) (literals : List String) : String :=
  if literals.isEmpty then "set()"
  else "\x7b" ++ listed (inPlaces (literals.zip (members.map (residueIn residues)))) ++ "\x7d"

mutual

/-- The literal of a value, given the literals of the shared containers. -/
def literalWith (residues : Residues) (ofShared : Nat → Option String) : Value → Option String
  | null => some "None"
  | bool b => some (if b then "True" else "False")
  | int i => integerText? i
  | float x => some x.text
  | stray _ => some Binary64.nan.text
  | text s => some (quoted s)
  | bytes bs => some (quotedBytes bs)
  | date d => some d.constructorText
  | timestamp t => some t.constructorText
  | list items => do return "[" ++ listed (← literalsWith residues ofShared items) ++ "]"
  | pair k v => do
      return "(" ++ (← literalWith residues ofShared k) ++ ", " ++
        (← literalWith residues ofShared v) ++ ")"
  | set members => do
      return setLiteral residues members (← literalsWith residues ofShared members)
  | mapping entries => do
      return "\x7b" ++ listed (← entriesWith residues ofShared entries) ++ "\x7d"
  | shared n => ofShared n

def literalsWith (residues : Residues) (ofShared : Nat → Option String) :
    List Value → Option (List String)
  | [] => some []
  | v :: rest => do
      return (← literalWith residues ofShared v) :: (← literalsWith residues ofShared rest)

def entriesWith (residues : Residues) (ofShared : Nat → Option String) :
    List (Value × Value) → Option (List String)
  | [] => some []
  | (k, v) :: rest => do
      return ((← literalWith residues ofShared k) ++ ": " ++ (← literalWith residues ofShared v)) ::
        (← entriesWith residues ofShared rest)

end

/-- The literal of a shared container inside the given ones; each level enters
one more container of the table, so its length bounds the depth. -/
def sharedLiteral (cx : Context) : Nat → List Nat → Nat → Option String
  | 0, _, n => some (ellipsis ((shared n).resolved cx.table))
  | depth + 1, inside, n =>
      let container := (shared n).resolved cx.table
      if inside.contains n then some (ellipsis container)
      else literalWith cx.residues (sharedLiteral cx depth (n :: inside)) container

def literal? (cx : Context) (v : Value) : Option String :=
  literalWith cx.residues (sharedLiteral cx (cx.table.length + 1) []) v

def display? (cx : Context) : Value → Option Spelled
  | text s => some s
  | date d => some d.text
  | timestamp t => some t.text
  | v => (v.literal? cx).map .whole

end AlertRelay.Value
