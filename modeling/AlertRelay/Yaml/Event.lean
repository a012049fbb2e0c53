import AlertRelay.Yaml.Token.Stream

/-!
# Events

The structure of a document, one event for each scalar and for each end of a
collection.  Events are read from tokens by a machine with a stack of goals:
the top goal looks at the next token at most, gives events and is replaced by
the goals that are left of it.

An event is listed before a fault exactly if no token behind the fault was
needed to see it.
-/

namespace AlertRelay.Yaml

inductive Event where
  | documentStart
  | documentEnd
  | streamEnd
  | alias (name : String)
  /-- `tag` is empty where the tag follows from the text (if `isOpen`) or from
  the kind of the node -/
  | scalar (anchor tag : Option String) (isOpen : Bool) (text : Text.Spelled)
  | sequenceStart (anchor tag : Option String)
  | sequenceEnd
  | mappingStart (anchor tag : Option String)
  | mappingEnd
  deriving DecidableEq, Repr

inductive Place where
  | block
  /-- in a block mapping, where the entries of a sequence need no indentation -/
  | member
  | flow
  deriving DecidableEq, Repr

inductive Goal where
  | firstDocument
  | document
  | documentContent
  | documentEnd
  | node (place : Place)
  | blockEntry
  | looseEntry
  | blockKey
  | blockValue
  | flowEntry (isFirst : Bool)
  /-- a mapping of one pair in a sequence -/
  | pairKey
  | pairValue
  | pairEnd
  | flowKey (isFirst : Bool)
  | flowValue
  | missingValue
  deriving DecidableEq, Repr

structure Configuration where
  tokens : TokenList
  goals : List Goal
  /-- the stems that the handles of tags stand for -/
  handles : List (String × String)
  deriving DecidableEq, Repr

namespace Configuration

def next (c : Configuration) : Except Fault Token :=
  match c.tokens.tokens with
  | t :: _ => .ok t
  | [] => .error (c.tokens.fault.getD .malformed)

def advance (c : Configuration) : Configuration :=
  { c with tokens := { c.tokens with tokens := c.tokens.tokens.drop 1 } }

/-- New goals to be reached first. -/
def aim (goals : List Goal) (c : Configuration) : Configuration :=
  { c with goals := goals ++ c.goals }

def empty : Event := .scalar none none true ""

/-! ## Documents -/

def defaultHandles : List (String × String) := [("!", "!"), ("!!", "tag:yaml.org,2002:")]

/-- The directives before a document; each handle and the version may be given
once. -/
def readDirectives (hasVersion : Bool) (handles : List (String × String)) :
    List Token → Except Fault (List (String × String) × List Token)
  | .directive (.version major) :: rest =>
      if hasVersion || major != 1 then .error .malformed else readDirectives true handles rest
  | .directive (.tagHandle handle stem) :: rest =>
      if handles.any (·.1 == handle) then .error .malformed
      else readDirectives hasVersion (handles ++ [(handle, stem)]) rest
  | .directive .other :: rest => readDirectives hasVersion handles rest
  | tokens => .ok (handles, tokens)

def startDocument (c : Configuration) : Except Fault (List Event × Configuration) := do
  let (handles, tokens) ← readDirectives false [] c.tokens.tokens
  let c := { c with tokens.tokens := tokens, handles := handles ++ defaultHandles }
  match ← c.next with
  | .documentStart => return ([.documentStart], c.advance.aim [.documentContent, .documentEnd])
  | _ => .error .malformed

/-! ## Nodes -/

/-- The anchor and the tag before a node, in either order. -/
def readProperties (c : Configuration) :
    Except Fault (Option String × Option (Option String × String) × Configuration) := do
  match ← c.next with
  | .anchor name =>
      let c := c.advance
      match ← c.next with
      | .tag handle suffix => return (some name, some (handle, suffix), c.advance)
      | _ => return (some name, none, c)
  | .tag handle suffix =>
      let c := c.advance
      match ← c.next with
      | .anchor name => return (some name, some (handle, suffix), c.advance)
      | _ => return (none, some (handle, suffix), c)
  | _ => return (none, none, c)

/-- The whole tag, with the stem of its handle. -/
def fullTag (handles : List (String × String)) : Option String × String → Except Fault String
  | (none, suffix) => .ok suffix
  | (some handle, suffix) =>
      match handles.lookup handle with
      | some stem => .ok (stem ++ suffix)
      | none => .error .malformed

/-- The tag of a node if it is more than a lone `!`. -/
def definite (tag : Option String) : Option String := tag.filter (· != "!")

/-- A node whose properties have been read. -/
def readContent (place : Place) (anchor tag : Option String) (c : Configuration) :
    Except Fault (List Event × Configuration) := do
  let given := definite tag
  match ← c.next with
  | .blockEntry =>
      if place = .member then return ([.sequenceStart anchor given], c.aim [.looseEntry])
      else if anchor.isSome || tag.isSome then
        return ([.scalar anchor given given.isNone ""], c)
      else .error .malformed
  | .scalar isPlain text =>
      let isOpen := (isPlain && tag.isNone) || tag == some "!"
      return ([.scalar anchor given isOpen text], c.advance)
  | .flowSequenceStart =>
      return ([.sequenceStart anchor given], c.advance.aim [.flowEntry true])
  | .flowMappingStart => return ([.mappingStart anchor given], c.advance.aim [.flowKey true])
  | t =>
      if t == .blockSequenceStart && place != .flow then
        return ([.sequenceStart anchor given], c.advance.aim [.blockEntry])
      else if t == .blockMappingStart && place != .flow then
        return ([.mappingStart anchor given], c.advance.aim [.blockKey])
      else if anchor.isSome || tag.isSome then
        return ([.scalar anchor given given.isNone ""], c)
      else .error .malformed

def readNode (place : Place) (c : Configuration) : Except Fault (List Event × Configuration) := do
  match ← c.next with
  | .alias name => return ([.alias name], c.advance)
  | _ =>
      let (anchor, written, c) ← c.readProperties
      let tag ← written.mapM (fullTag c.handles)
      c.readContent place anchor tag

/-- A node and then another goal, or an empty scalar if a token follows that
ends the node before it begins. -/
def readNodeUnless (ends : Token → Bool) (place : Place) (after : Goal) (c : Configuration) :
    Except Fault (List Event × Configuration) := do
  if ends (← c.next) then return ([empty], c.aim [after])
  else return ([], c.aim [.node place, after])

/-! ## Steps -/

def isBlockBound (t : Token) : Bool := t == .key || t == .value || t == .blockEnd

/-- The work of one goal that has been taken from the stack. -/
def step (c : Configuration) : Goal → Except Fault (List Event × Configuration)
  | .firstDocument => do
      match ← c.next with
      | .streamEnd | .documentStart | .directive _ => return ([], c.aim [.document])
      | _ =>
          let c := { c with handles := defaultHandles }
          return ([.documentStart], c.aim [.node .block, .documentEnd])
  | .document => do
      match ← c.next with
      | .documentEnd => return ([], c.advance.aim [.document])
      | .streamEnd => return ([.streamEnd], c.advance)
      | _ => c.startDocument
  | .documentContent => do
      match ← c.next with
      | .directive _ | .documentStart | .documentEnd | .streamEnd => return ([empty], c)
      | _ => c.readNode .block
  | .documentEnd => do
      let c' := if (← c.next) == .documentEnd then c.advance else c
      return ([.documentEnd], c'.aim [.document])
  | .node place => c.readNode place
  | .blockEntry => do
      match ← c.next with
      | .blockEntry =>
          c.advance.readNodeUnless (fun t => t == .blockEntry || t == .blockEnd) .block .blockEntry
      | .blockEnd => return ([.sequenceEnd], c.advance)
      | _ => .error .malformed
  | .looseEntry => do
      match ← c.next with
      | .blockEntry =>
          c.advance.readNodeUnless (fun t => t == .blockEntry || isBlockBound t) .block .looseEntry
      | _ => return ([.sequenceEnd], c)
  | .blockKey => do
      match ← c.next with
      | .key => c.advance.readNodeUnless isBlockBound .member .blockValue
      | .blockEnd => return ([.mappingEnd], c.advance)
      | _ => .error .malformed
  | .blockValue => do
      match ← c.next with
      | .value => c.advance.readNodeUnless isBlockBound .member .blockKey
      | _ => return ([empty], c.aim [.blockKey])
  | .flowEntry isFirst => do
      let t ← c.next
      if t == .flowSequenceEnd then return ([.sequenceEnd], c.advance)
      else if !isFirst && t != .flowEntry then .error .malformed
      else
        let c := if isFirst then c else c.advance
        match ← c.next with
        | .key => return ([.mappingStart none none], c.advance.aim [.pairKey])
        | .flowSequenceEnd => return ([.sequenceEnd], c.advance)
        | _ => return ([], c.aim [.node .flow, .flowEntry false])
  | .pairKey =>
      c.readNodeUnless (fun t => t == .value || t == .flowEntry || t == .flowSequenceEnd) .flow
        .pairValue
  | .pairValue => do
      match ← c.next with
      | .value =>
          c.advance.readNodeUnless (fun t => t == .flowEntry || t == .flowSequenceEnd) .flow
            .pairEnd
      | _ => return ([empty], c.aim [.pairEnd])
  | .pairEnd => do
      let _ ← c.next
      return ([.mappingEnd], c.aim [.flowEntry false])
  | .flowKey isFirst => do
      let t ← c.next
      if t == .flowMappingEnd then return ([.mappingEnd], c.advance)
      else if !isFirst && t != .flowEntry then .error .malformed
      else
        let c := if isFirst then c else c.advance
        match ← c.next with
        | .key =>
            c.advance.readNodeUnless
              (fun t => t == .value || t == .flowEntry || t == .flowMappingEnd) .flow .flowValue
        | .flowMappingEnd => return ([.mappingEnd], c.advance)
        | _ => return ([], c.aim [.node .flow, .missingValue])
  | .flowValue => do
      match ← c.next with
      | .value =>
          c.advance.readNodeUnless (fun t => t == .flowEntry || t == .flowMappingEnd) .flow
            (.flowKey false)
      | _ => return ([empty], c.aim [.flowKey false])
  | .missingValue => do
      let _ ← c.next
      return ([empty], c.aim [.flowKey false])

end Configuration

/-- Events and, if they end before the text does, the fault that ends them. -/
structure EventList where
  events : List Event
  fault : Option Fault
  deriving DecidableEq, Repr

/-- The events from a configuration on.  A token gives rise to a few goals, and
each goal is taken from the stack once. -/
def eventsFrom : Nat → Configuration → EventList
  | 0, _ => ⟨[], some .malformed⟩
  | steps + 1, c =>
      match c.goals with
      | [] => ⟨[], none⟩
      | goal :: goals =>
          match { c with goals := goals }.step goal with
          | .error f => ⟨[], some f⟩
          | .ok (events, c) =>
              let rest := eventsFrom steps c
              { rest with events := events ++ rest.events }

def eventsOf (tokens : TokenList) : EventList :=
  eventsFrom (8 * tokens.tokens.length + 8) ⟨tokens, [.firstDocument], Configuration.defaultHandles⟩

end AlertRelay.Yaml
