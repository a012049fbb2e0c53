import AlertRelay.Yaml.Token.Property
import AlertRelay.Yaml.Token.Scalar

/-!
# The tokens of a text

Tokens are read from left to right.  Two things need care.

Indentation: outside of brackets a token further to the right than the current
block may open a block, and a token further to the left closes blocks.

Simple keys: a scalar, an alias or a bracket may turn out to be a key when a
colon follows it on the same line within 1024 characters.  A token that may
still be a key waits in a queue, so that the mark of the key, and of the block
mapping that it opens, can be put before it.

The result is the list of tokens up to the end of the text or up to the first
fault.  A token is listed before a fault exactly if it had left the queue when
the fault was met.
-/

namespace AlertRelay.Yaml

structure KeyPlace where
  number : Nat
  required : Bool
  index : Nat
  line : Nat
  column : Nat
  deriving DecidableEq, Repr

structure Scanner where
  cursor : Cursor
  /-- tokens read but not yet given out, oldest first -/
  queue : List Token
  /-- how many tokens have been given out -/
  given : Nat
  /-- columns of the open blocks, innermost first -/
  indents : List Nat
  /-- the possible key on the current level of brackets -/
  keyPlace : Option KeyPlace
  /-- the possible keys on the levels around it, innermost first -/
  outerKeys : List (Option KeyPlace)
  keyAllowed : Bool
  ended : Bool
  deriving Repr

namespace Scanner

def start (s : List Char) : Scanner :=
  { cursor := .start s, queue := [], given := 0, indents := [], keyPlace := none,
    outerKeys := [], keyAllowed := true, ended := false }

def inFlow (s : Scanner) : Bool := !s.outerKeys.isEmpty

/-- One more than the column of the current block. -/
def margin (s : Scanner) : Nat :=
  match s.indents with
  | [] => 0
  | column :: _ => column + 1

def push (t : Token) (s : Scanner) : Scanner := { s with queue := s.queue ++ [t] }

/-- A token put into the queue before the token with the given number. -/
def insert (number : Nat) (t : Token) (s : Scanner) : Scanner :=
  let n := number - s.given
  { s with queue := s.queue.take n ++ t :: s.queue.drop n }

/-! ## Simple keys -/

/-- Whether the token at a place can no longer be a key. -/
def isStale (c : Cursor) (k : KeyPlace) : Bool := k.line != c.line || 1024 < c.index - k.index

/-- The places that can still be keys; one that had to be a key must not get
lost. -/
def dropStale (s : Scanner) : Except Fault Scanner :=
  let stale (k : Option KeyPlace) : Bool := k.any (isStale s.cursor)
  let isLost (k : Option KeyPlace) : Bool := k.any fun p => isStale s.cursor p && p.required
  if (s.keyPlace :: s.outerKeys).any isLost then .error .malformed
  else
    let fresh (k : Option KeyPlace) : Option KeyPlace := if stale k then none else k
    .ok { s with keyPlace := fresh s.keyPlace, outerKeys := s.outerKeys.map fresh }

/-- The current level without a possible key. -/
def dropKey (s : Scanner) : Except Fault Scanner :=
  if s.keyPlace.any (·.required) then .error .malformed else .ok { s with keyPlace := none }

/-- The next token noted as a possible key. -/
def noteKey (s : Scanner) : Except Fault Scanner :=
  if s.keyAllowed then do
    let s ← s.dropKey
    let c := s.cursor
    let required : Bool := !s.inFlow && s.indents.head? == some c.column
    return { s with
      keyPlace := some ⟨s.given + s.queue.length, required, c.index, c.line, c.column⟩ }
  else .ok s

/-! ## Indentation -/

/-- The blocks to the right of a column closed; all of them for `none`. -/
def unwind (column : Option Nat) (s : Scanner) : Scanner :=
  if s.inFlow then s
  else
    let deeper (indent : Nat) : Bool := column.all fun c => c < indent
    let closed := s.indents.takeWhile deeper
    { s with
      indents := s.indents.drop closed.length
      queue := s.queue ++ closed.map fun _ => .blockEnd }

/-- A block opened at a column, if it is to the right of the current one. -/
def indentAt (column : Nat) (s : Scanner) : Option Scanner :=
  if s.margin ≤ column then some { s with indents := column :: s.indents } else none

/-- A block opened at the cursor by the token that marks its start. -/
def openBlock (t : Token) (s : Scanner) : Scanner :=
  match s.indentAt s.cursor.column with
  | some s => s.push t
  | none => s

/-! ## One token -/

/-- Past blanks, comments and line breaks.  After a line break outside of
brackets a key may follow. -/
def skipToToken : Nat → Scanner → Scanner
  | 0, s => s
  | steps + 1, s =>
      let inLine := s.cursor.skipSpaces.skipComment
      match inLine.lineBreak? with
      | none => { s with cursor := inLine }
      | some (_, after) =>
          skipToToken steps { s with cursor := after, keyAllowed := s.keyAllowed || !s.inFlow }

/-- Past the byte order mark at the very start. -/
def skipMark (s : Scanner) : Scanner :=
  if s.cursor.index = 0 ∧ s.cursor.peek = some '\ufeff' then
    { s with cursor := s.cursor.advance }
  else s

def readEnd (s : Scanner) : Except Fault Scanner := do
  let s ← (s.unwind none).dropKey
  return { s with keyAllowed := false, keyPlace := none, outerKeys := [], ended := true }.push
    .streamEnd

def readDirective (s : Scanner) : Except Fault Scanner := do
  let s ← (s.unwind none).dropKey
  let (d, after) ← scanDirective s.cursor
  return { s with cursor := after, keyAllowed := false }.push (.directive d)

def readDocumentMark (t : Token) (s : Scanner) : Except Fault Scanner := do
  let s ← (s.unwind none).dropKey
  return { s with cursor := s.cursor.skip 3, keyAllowed := false }.push t

def readFlowStart (t : Token) (s : Scanner) : Except Fault Scanner := do
  let s ← s.noteKey
  return { s with
    cursor := s.cursor.advance, keyPlace := none, outerKeys := s.keyPlace :: s.outerKeys,
    keyAllowed := true }.push t

def readFlowEnd (t : Token) (s : Scanner) : Except Fault Scanner := do
  let s ← s.dropKey
  return { s with
    cursor := s.cursor.advance, keyPlace := s.outerKeys.head?.join,
    outerKeys := s.outerKeys.drop 1, keyAllowed := false }.push t

def readFlowEntry (s : Scanner) : Except Fault Scanner := do
  let s ← { s with keyAllowed := true }.dropKey
  return { s with cursor := s.cursor.advance }.push .flowEntry

def readBlockEntry (s : Scanner) : Except Fault Scanner := do
  if !s.inFlow && !s.keyAllowed then .error .malformed
  else
    let s := if s.inFlow then s else s.openBlock .blockSequenceStart
    let s ← { s with keyAllowed := true }.dropKey
    return { s with cursor := s.cursor.advance }.push .blockEntry

def readKey (s : Scanner) : Except Fault Scanner := do
  if !s.inFlow && !s.keyAllowed then .error .malformed
  else
    let s := if s.inFlow then s else s.openBlock .blockMappingStart
    let s ← { s with keyAllowed := !s.inFlow }.dropKey
    return { s with cursor := s.cursor.advance }.push .key

def readValue (s : Scanner) : Except Fault Scanner := do
  match s.keyPlace with
  | some k =>
      let s := { s with keyPlace := none, keyAllowed := false }.insert k.number .key
      let s :=
        if s.inFlow then s
        else
          match s.indentAt k.column with
          | some s => s.insert k.number .blockMappingStart
          | none => s
      return { s with cursor := s.cursor.advance }.push .value
  | none =>
      if !s.inFlow && !s.keyAllowed then .error .malformed
      else
        let s := if s.inFlow then s else s.openBlock .blockMappingStart
        let s := { s with keyAllowed := !s.inFlow }
        return { s with cursor := s.cursor.advance }.push .value

/-- A token that may be a key, read by the given function. -/
def readKeyToken (read : Cursor → Except Fault (Token × Cursor)) (s : Scanner) :
    Except Fault Scanner := do
  let s ← s.noteKey
  let (t, after) ← read s.cursor
  return { s with cursor := after, keyAllowed := false }.push t

def readBlockScalar (folded : Bool) (s : Scanner) : Except Fault Scanner := do
  let s ← { s with keyAllowed := true }.dropKey
  let (t, after) ← scanBlock folded s.margin s.cursor
  return { s with cursor := after }.push t

def readPlain (s : Scanner) : Except Fault Scanner := do
  let s ← s.noteKey
  let (t, after, brokeLine) := scanPlain s.inFlow s.margin s.cursor
  return { s with cursor := after, keyAllowed := brokeLine }.push t

/-- Whether a plain scalar can begin at the cursor. -/
def atPlain (s : Scanner) (c : Char) : Bool :=
  let isMark := "-?:,[]\x7b\x7d#&*!|>\x27\x22%@\x60".toList.contains c
  (!endsWord (some c) && !isMark) ||
    (!endsWord (s.cursor.peekAt 1) && (c == '-' || (!s.inFlow && (c == '?' || c == ':'))))

/-- Reads one token, and with it the marks of the blocks that end before it or
begin at it. -/
def readToken (s : Scanner) : Except Fault Scanner := do
  let s := s.skipMark
  let s ← (skipToToken (s.cursor.rest.length + 1) s).dropStale
  let s := s.unwind (some s.cursor.column)
  let c := s.cursor
  let beforeBlank := endsWord (c.peekAt 1)
  match c.peek with
  | none => s.readEnd
  | some x =>
      if x == '%' && c.column == 0 then s.readDirective
      else if c.column == 0 && c.atTriple '-' then s.readDocumentMark .documentStart
      else if c.column == 0 && c.atTriple '.' then s.readDocumentMark .documentEnd
      else if x == '[' then s.readFlowStart .flowSequenceStart
      else if x == '\x7b' then s.readFlowStart .flowMappingStart
      else if x == ']' then s.readFlowEnd .flowSequenceEnd
      else if x == '\x7d' then s.readFlowEnd .flowMappingEnd
      else if x == ',' then s.readFlowEntry
      else if x == '-' && beforeBlank then s.readBlockEntry
      else if x == '?' && (s.inFlow || beforeBlank) then s.readKey
      else if x == ':' && (s.inFlow || beforeBlank) then s.readValue
      else if x == '*' then
        s.readKeyToken fun c => do let (name, after) ← scanName c; return (.alias name, after)
      else if x == '&' then
        s.readKeyToken fun c => do let (name, after) ← scanName c; return (.anchor name, after)
      else if x == '!' then s.readKeyToken scanTag
      else if x == '|' && !s.inFlow then s.readBlockScalar false
      else if x == '>' && !s.inFlow then s.readBlockScalar true
      else if x == '\x27' || x == '\x22' then s.readKeyToken (scanQuoted x)
      else if s.atPlain x then s.readPlain
      else .error .malformed

/-! ## All tokens -/

/-- The least number of a token that may still be a key. -/
def firstKeyNumber (s : Scanner) : Option Nat :=
  ((s.keyPlace :: s.outerKeys).filterMap fun k => k.map (·.number)).min?

/-- The tokens at the front of the queue that can be given out. -/
def release (s : Scanner) : List Token × Scanner :=
  let count :=
    match s.firstKeyNumber with
    | none => s.queue.length
    | some n => n - s.given
  (s.queue.take count, { s with queue := s.queue.drop count, given := s.given + count })

end Scanner

/-- Tokens and, if they end before the text does, the fault that ends them. -/
structure TokenList where
  tokens : List Token
  fault : Option Fault
  deriving DecidableEq, Repr

def TokenList.after (front : List Token) (rest : TokenList) : TokenList :=
  { rest with tokens := front ++ rest.tokens }

/-- The tokens from a scanner on.  Each step but the last takes a character. -/
def tokensFrom : Nat → Scanner → TokenList
  | 0, _ => ⟨[], some .malformed⟩
  | steps + 1, s =>
      match s.readToken with
      | .error f => ⟨[], some f⟩
      | .ok s =>
          if s.ended then ⟨s.queue, none⟩
          else
            match s.dropStale with
            | .error f => ⟨[], some f⟩
            | .ok s =>
                let (front, s) := s.release
                (tokensFrom steps s).after front

/-- The tokens of a text; a text with a character that may not stand in it has
none. -/
def tokensOf (s : List Char) : TokenList :=
  if s.all isReadable then tokensFrom (s.length + 1) (.start s) else ⟨[], some .malformed⟩

end AlertRelay.Yaml
