import AlertRelay.Text.Point
import AlertRelay.Yaml.Cursor
import AlertRelay.Yaml.Fault

/-!
# Tokens

The words of a document: the marks that open, part and close its collections,
and anchors, tags and scalars.  Indentation shows as tokens too, so that later
stages need not know about columns.
-/

namespace AlertRelay.Yaml

inductive Directive where
  | version (major : Nat)
  | tagHandle (handle stem : String)
  | other
  deriving DecidableEq, Repr

inductive Token where
  | streamEnd
  | directive (d : Directive)
  | documentStart
  | documentEnd
  | blockSequenceStart
  | blockMappingStart
  | blockEnd
  | flowSequenceStart
  | flowSequenceEnd
  | flowMappingStart
  | flowMappingEnd
  | blockEntry
  | flowEntry
  | key
  | value
  | alias (name : String)
  | anchor (name : String)
  | tag (handle : Option String) (suffix : String)
  | scalar (isPlain : Bool) (text : Text.Spelled)
  deriving DecidableEq, Repr

/-- The letters, digits and marks of which names are made. -/
def isNameChar (c : Char) : Bool :=
  ('0' ≤ c && c ≤ '9') || ('A' ≤ c && c ≤ 'Z') || ('a' ≤ c && c ≤ 'z') || c == '-' || c == '_'

def hexValue? (c : Char) : Option Nat :=
  if '0' ≤ c ∧ c ≤ '9' then some (c.toNat - 0x30)
  else if 'a' ≤ c ∧ c ≤ 'f' then some (c.toNat - 0x61 + 10)
  else if 'A' ≤ c ∧ c ≤ 'F' then some (c.toNat - 0x41 + 10)
  else none

def hexNumber? (s : List Char) : Option Nat :=
  (s.mapM hexValue?).map fun ds => ds.foldl (fun n d => n * 16 + d) 0

/-- The end of a line that may hold a comment and nothing else. -/
def restOfLine (c : Cursor) : Except Fault Cursor :=
  let after := c.skipSpaces.skipComment
  if endsLine after.peek then .ok after.skipLineBreak else .error .malformed

end AlertRelay.Yaml
