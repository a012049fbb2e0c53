import AlertRelay.Value.Basic
import AlertRelay.Yaml.Node
import AlertRelay.Yaml.Scalar

/-!
# The value of a document

The nodes of a graph become values.  A container is placed first and filled
later, in the order in which containers were placed, so a container may hold
itself; the order decides which of two faults is met first.

At the end every container that leads to no cycle is put in its place, and the
others go into the table of shared containers.
-/

namespace AlertRelay.Yaml

/-- A scalar value, or a container by the number of its node. -/
inductive Item where
  | scalar (v : Value)
  | container (number : Nat)
  deriving Repr, Inhabited

inductive Filling where
  | list (items : List Item)
  | pairs (entries : List (Item × Item))
  | set (members : List Value)
  | mapping (entries : List (Value × Item))
  deriving Repr, Inhabited

structure Construction where
  nodes : Array Node
  /-- the nodes that have a value so far -/
  placed : Array (Option Item)
  /-- the containers still to be filled, in order -/
  waiting : List Nat
  /-- the containers that are filled, last first -/
  filled : List (Nat × Filling)
  deriving Repr

/-! ## Merging mappings -/

def nodeAt (nodes : Array Node) (n : Nat) : Node := nodes[n]?.getD default

def entriesAt? (nodes : Array Node) (n : Nat) : Option (List (Nat × Nat)) :=
  match (nodeAt nodes n).content with
  | .mapping entries => some entries
  | _ => none

def setEntries (n : Nat) (entries : List (Nat × Nat)) (nodes : Array Node) : Array Node :=
  nodes.modify n fun node => { node with content := .mapping entries }

/-- The entries before the first one with a merge key, its value, and the
entries behind it. -/
def splitMerge (nodes : Array Node) :
    List (Nat × Nat) → Option (List (Nat × Nat) × Nat × List (Nat × Nat))
  | [] => none
  | (key, value) :: rest =>
      if (nodeAt nodes key).tag = .merge then some ([], value, rest)
      else
        (splitMerge nodes rest).map fun (before, v, after) => ((key, value) :: before, v, after)

/-- The keys that stand for a default, made ordinary texts. -/
def settleDefaults (entries : List (Nat × Nat)) (nodes : Array Node) : Array Node :=
  entries.foldl (fun nodes (key, _) =>
    nodes.modify key fun node => if node.tag = .default then { node with tag := .text } else node)
    nodes

mutual

/-- A mapping with the entries of its merge keys put before its own.  `merged`
are the entries found so far.  Each step takes one merge key away. -/
def flattenFrom : Nat → Nat → List (Nat × Nat) → Array Node → Except Fault (Array Node)
  | 0, _, _, _ => .error .malformed
  | steps + 1, n, merged, nodes =>
      match entriesAt? nodes n with
      | none => .error .malformed
      | some entries =>
          match splitMerge nodes entries with
          | none => .ok (setEntries n (merged ++ entries) (settleDefaults entries nodes))
          | some (before, value, after) => do
              let nodes := settleDefaults before (setEntries n (before ++ after) nodes)
              match (nodeAt nodes value).content with
              | .mapping _ =>
                  let nodes ← flattenFrom steps value [] nodes
                  let more := (entriesAt? nodes value).getD []
                  flattenFrom steps n (merged ++ more) nodes
              | .sequence items =>
                  let (nodes, more) ← flattenAll steps items nodes
                  flattenFrom steps n (merged ++ more) nodes
              | .scalar _ => .error .malformed

/-- The mappings of a list flattened, and their entries, those of the last
mapping first. -/
def flattenAll : Nat → List Nat → Array Node → Except Fault (Array Node × List (Nat × Nat))
  | 0, _, _ => .error .malformed
  | _ + 1, [], nodes => .ok (nodes, [])
  | steps + 1, n :: rest, nodes => do
      let nodes ← flattenFrom steps n [] nodes
      let own := (entriesAt? nodes n).getD []
      let (nodes, more) ← flattenAll steps rest nodes
      return (nodes, more ++ own)

end

/-- All members of all collections, with one more for each. -/
def totalSize (nodes : Array Node) : Nat :=
  nodes.foldl (fun total node =>
    total + 1 +
      match node.content with
      | .scalar _ => 0
      | .sequence items => items.length
      | .mapping entries => entries.length) 0

def flatten (n : Nat) (nodes : Array Node) : Except Fault (Array Node) :=
  let size := totalSize nodes
  flattenFrom (size * size + 2) n [] nodes

/-! ## Scalars -/

/-- The text of a node that is wanted as a scalar; a mapping with a default
gives the text of the default. -/
def scalarText (nodes : Array Node) : Nat → Nat → Except Fault Text.Spelled
  | 0, _ => .error .malformed
  | steps + 1, n =>
      match (nodeAt nodes n).content with
      | .scalar text => .ok text
      | .sequence _ => .error .malformed
      | .mapping entries =>
          match entries.find? fun (key, _) => (nodeAt nodes key).tag = .default with
          | some (_, value) => scalarText nodes steps value
          | none => .error .malformed

def scalarAt (nodes : Array Node) (n : Nat) : Except Fault Value := do
  let node := nodeAt nodes n
  let text ← scalarText nodes (nodes.size + 1) n
  match node.tag, node.content with
  | .timestamp, .mapping _ => .error .notScalar
  | tag, _ => valueOf n tag text

/-! ## Filling containers -/

namespace Construction

/-- The value of a node; a container that is met for the first time waits to be
filled. -/
def place (n : Nat) (c : Construction) : Except Fault (Item × Construction) :=
  match c.placed[n]? with
  | some (some item) => .ok (item, c)
  | _ =>
      match (nodeAt c.nodes n).tag with
      | .sequence | .mapping | .set | .pairs =>
          let item := Item.container n
          .ok (item, { c with
            placed := c.placed.setIfInBounds n (some item), waiting := c.waiting ++ [n] })
      | .merge | .default | .unknown => .error .malformed
      | _ => do
          let item := Item.scalar (← scalarAt c.nodes n)
          return (item, { c with placed := c.placed.setIfInBounds n (some item) })

def placeItems : List Nat → Construction → Except Fault (List Item × Construction)
  | [], c => .ok ([], c)
  | n :: rest, c => do
      let (item, c) ← c.place n
      let (items, c) ← placeItems rest c
      return (item :: items, c)

/-- Entries in order; keys must not be containers, and a later value of a key
replaces an earlier one. -/
def placeEntries (entries : List (Value × Item)) :
    List (Nat × Nat) → Construction → Except Fault (List (Value × Item) × Construction)
  | [], c => .ok (entries, c)
  | (key, value) :: rest, c => do
      match ← c.place key with
      | (.container _, _) => .error .malformed
      | (.scalar k, c) =>
          let (item, c) ← c.place value
          placeEntries (Value.setEntry k item entries) rest c

/-- Pairs, each written as a mapping of one entry. -/
def placePairs : List Nat → Construction → Except Fault (List (Item × Item) × Construction)
  | [], c => .ok ([], c)
  | n :: rest, c =>
      match entriesAt? c.nodes n with
      | some [(key, value)] => do
          let (k, c) ← c.place key
          let (v, c) ← c.place value
          let (pairs, c) ← placePairs rest c
          return ((k, v) :: pairs, c)
      | _ => .error .malformed

/-- The entries of a mapping, its merge keys resolved. -/
def placeMapping (n : Nat) (c : Construction) :
    Except Fault (List (Value × Item) × Construction) := do
  let nodes ← flatten n c.nodes
  placeEntries [] ((entriesAt? nodes n).getD []) { c with nodes := nodes }

def filling (n : Nat) (c : Construction) : Except Fault (Filling × Construction) := do
  let node := nodeAt c.nodes n
  match node.tag, node.content with
  | .sequence, .sequence items => do
      let (items, c) ← placeItems items c
      return (.list items, c)
  | .pairs, .sequence items => do
      let (pairs, c) ← placePairs items c
      return (.pairs pairs, c)
  | .mapping, .mapping _ => do
      let (entries, c) ← placeMapping n c
      return (.mapping entries, c)
  | .set, .mapping _ => do
      let (entries, c) ← placeMapping n c
      return (.set (entries.map (·.1)), c)
  | _, _ => .error .malformed

/-- All waiting containers filled, and those that come to wait meanwhile. -/
def fillAll : Nat → Construction → Except Fault Construction
  | 0, c => .ok c
  | steps + 1, c =>
      match c.waiting with
      | [] => .ok c
      | n :: rest => do
          let (filling, c) ← filling n { c with waiting := rest }
          fillAll steps { c with filled := (n, filling) :: c.filled }

end Construction

/-! ## The tree -/

/-- The value of an item, if it is a scalar or a known container. -/
def Item.value? (known : List (Nat × Value)) : Item → Option Value
  | scalar v => some v
  | container n => known.lookup n

/-- The value of an item; a container that is not known is referred to. -/
def Item.value (known : List (Nat × Value)) : Item → Value
  | scalar v => v
  | container n => (known.lookup n).getD (.shared n)

def Filling.items : Filling → List Item
  | list items => items
  | pairs entries => entries.flatMap fun (k, v) => [k, v]
  | set _ => []
  | mapping entries => entries.map (·.2)

def Filling.value (known : List (Nat × Value)) : Filling → Value
  | list items => .list (items.map (·.value known))
  | pairs entries => .list (entries.map fun (k, v) => .pair (k.value known) (v.value known))
  | set members => .set members
  | mapping entries => .mapping (entries.map fun (k, v) => (k, v.value known))

/-- One more round: a container becomes known when all that it holds is. -/
def knownAfter (filled : List (Nat × Filling)) (known : List (Nat × Value)) :
    List (Nat × Value) :=
  filled.foldl (fun known (n, f) =>
    if (known.lookup n).isNone && f.items.all fun i => (i.value? known).isSome then
      (n, f.value known) :: known
    else known) known

/-- The containers that lead to no cycle.  A round that finds none is the
last. -/
def knownFrom (filled : List (Nat × Filling)) : Nat → List (Nat × Value) → List (Nat × Value)
  | 0, known => known
  | rounds + 1, known =>
      let more := knownAfter filled known
      if more.length = known.length then known else knownFrom filled rounds more

def documentOf (root : Item) (filled : List (Nat × Filling)) : Document :=
  let known := knownFrom filled (filled.length + 1) []
  let cyclic := filled.filter fun (n, _) => (known.lookup n).isNone
  ⟨root.value known, cyclic.map fun (n, f) => (n, f.value known)⟩

def construct (g : Graph) : Except Fault Document := do
  let (root, c) ← Construction.place g.root
    { nodes := g.nodes, placed := Array.replicate g.nodes.size none, waiting := [], filled := [] }
  let c ← c.fillAll (g.nodes.size + 1)
  return documentOf root c.filled

/-- The document that a text holds; an empty text stands for null. -/
def read (s : List Char) : Except Fault Document := do
  match ← graphOf (eventsOf (tokensOf s)) with
  | none => return ⟨.null, []⟩
  | some g => construct g

end AlertRelay.Yaml
