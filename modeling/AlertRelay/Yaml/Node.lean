import AlertRelay.Yaml.Event
import AlertRelay.Yaml.Tag

/-!
# Nodes

A document as a graph: a table of nodes, in which collections refer to their
members by number.  An alias is one more reference to the node with its anchor,
so a collection may come to hold itself.
-/

namespace AlertRelay.Yaml

inductive Content where
  | scalar (text : Text.Spelled)
  | sequence (items : List Nat)
  | mapping (entries : List (Nat × Nat))
  deriving DecidableEq, Repr, Inhabited

structure Node where
  tag : Tag
  content : Content
  deriving DecidableEq, Repr, Inhabited

structure Graph where
  nodes : Array Node
  root : Nat
  deriving DecidableEq, Repr

/-- A collection whose end has not been seen, with the members so far, last
first. -/
structure Frame where
  number : Nat
  members : List Nat
  deriving DecidableEq, Repr

structure Builder where
  nodes : Array Node
  anchors : List (String × Nat)
  /-- the open collections, innermost first -/
  frames : List Frame
  root : Option Nat
  deriving DecidableEq, Repr

/-- Members of a mapping two by two. -/
def inPairs : List Nat → List (Nat × Nat)
  | key :: value :: rest => (key, value) :: inPairs rest
  | _ => []

namespace Builder

def start : Builder := ⟨#[], [], [], none⟩

/-- A node that is complete or can be referred to becomes a member of the
innermost open collection, or the root. -/
def place (number : Nat) (b : Builder) : Builder :=
  match b.frames with
  | [] => { b with root := some number }
  | frame :: outer => { b with frames := { frame with members := number :: frame.members } :: outer }

/-- A new node under its anchor, which must not be in use. -/
def addNode (anchor : Option String) (node : Node) (b : Builder) : Except Fault Builder :=
  let number := b.nodes.size
  match anchor with
  | none => .ok { b with nodes := b.nodes.push node }
  | some name =>
      if b.anchors.any (·.1 == name) then .error .malformed
      else .ok { b with nodes := b.nodes.push node, anchors := (name, number) :: b.anchors }

def depthLimit : Nat := 487

def openCollection (anchor : Option String) (node : Node) (b : Builder) : Except Fault Builder := do
  let number := b.nodes.size
  let b ← b.addNode anchor node
  if depthLimit ≤ b.frames.length then .error .tooDeep
  else return { b with frames := ⟨number, []⟩ :: b.frames }

/-- The innermost open collection filled with its members. -/
def closeCollection (b : Builder) : Builder :=
  match b.frames with
  | [] => b
  | frame :: outer =>
      let members := frame.members.reverse
      let filled (n : Node) : Node :=
        match n.content with
        | .sequence _ => { n with content := .sequence members }
        | .mapping _ => { n with content := .mapping (inPairs members) }
        | .scalar _ => n
      place frame.number { b with nodes := b.nodes.modify frame.number filled, frames := outer }

def tagOf (given : Option String) (usual : Tag) : Tag :=
  match given with
  | some name => .ofName name
  | none => usual

def add (b : Builder) : Event → Except Fault Builder
  | .alias name =>
      match b.anchors.lookup name with
      | some number => .ok (b.place number)
      | none => .error .malformed
  | .scalar anchor tag isOpen text => do
      let number := b.nodes.size
      let usual := if isOpen then .ofText text.shown.toList else .text
      let b ← b.addNode anchor ⟨tagOf tag usual, .scalar text⟩
      return b.place number
  | .sequenceStart anchor tag => b.openCollection anchor ⟨tagOf tag .sequence, .sequence []⟩
  | .mappingStart anchor tag => b.openCollection anchor ⟨tagOf tag .mapping, .mapping []⟩
  | .sequenceEnd | .mappingEnd => .ok b.closeCollection
  | .documentStart | .documentEnd | .streamEnd => .ok b

end Builder

/-- The graph of the one document that the events are of; none where there is
no document. -/
def graphOf (list : EventList) : Except Fault (Option Graph) := do
  let b ← (list.events.takeWhile (· != .documentEnd)).foldlM Builder.add Builder.start
  let rest := list.events.dropWhile (· != .documentEnd)
  match list.events.head?, rest[1]?, b.root with
  | some .streamEnd, _, _ => return none
  | _, some .streamEnd, some root => return some ⟨b.nodes, root⟩
  | _, some _, _ => .error .malformed
  | _, none, _ => .error (list.fault.getD .malformed)

end AlertRelay.Yaml
