import AlertRelay.Yaml.Token.Basic

/-!
# Scalars

Scalars are written plain, between quotation marks, or as a block of indented
lines.  Line breaks inside the first two fold: a single one becomes a space,
and of several the first is dropped.

The recursions below take a number of steps, for which the length of the text
that is left always suffices.
-/

namespace AlertRelay.Yaml

open AlertRelay.Text

/-- What is left of a line break and the further breaks after it when they
fold. -/
def foldedBreak (first : Char) (more : List Char) : List Char :=
  (if first != '\n' then [first] else if more.isEmpty then [' '] else []) ++ more

/-! ## Quoted scalars -/

/-- The characters with a one-letter escape. -/
def letterEscape? : Char → Option Char
  | '0' => some '\x00'
  | 'a' => some '\x07'
  | 'b' => some '\x08'
  | 't' => some '\t'
  | '\t' => some '\t'
  | 'n' => some '\n'
  | 'v' => some '\x0b'
  | 'f' => some '\x0c'
  | 'r' => some '\r'
  | 'e' => some '\x1b'
  | ' ' => some ' '
  | '\x22' => some '\x22'
  | '\\' => some '\\'
  | '/' => some '/'
  | 'N' => some '\x85'
  | '_' => some '\xa0'
  | 'L' => some '\u2028'
  | 'P' => some '\u2029'
  | _ => none

/-- How many hexadecimal digits follow an escape letter. -/
def escapeWidth? : Char → Option Nat
  | 'x' => some 2
  | 'u' => some 4
  | 'U' => some 8
  | _ => none

/-- The point whose digits start at the cursor. -/
def escapedPoint (width : Nat) (c : Cursor) : Except Fault Point :=
  match hexNumber? (c.rest.take width) with
  | some n =>
      if c.rest.length < width then .error .malformed
      else if 0x80000000 ≤ n then .error .tooLarge
      else
        match Point.ofNat? n with
        | some p => .ok p
        | none => .error .noSuchValue
  | none => .error .malformed

/-- The line breaks at the start of lines inside quotes; blanks there do not
count, and no mark of a document may stand there. -/
def quotedBreaks : Nat → Cursor → Except Fault (List Char × Cursor)
  | 0, c => .ok ([], c)
  | steps + 1, c =>
      if c.atDocumentMark then .error .malformed
      else
        let inLine := c.skipWhile isSpaceOrTab
        match inLine.lineBreak? with
        | none => .ok ([], inLine)
        | some (b, after) => do
            let (bs, last) ← quotedBreaks steps after
            return (b :: bs, last)

/-- Blanks or folded line breaks between the words inside quotes. -/
def quotedGap (steps : Nat) (c : Cursor) : Except Fault (List Char × Cursor) :=
  let (blanks, after) := c.span isSpaceOrTab
  match after.peek, after.lineBreak? with
  | none, _ => .error .malformed
  | some _, none => .ok (blanks, after)
  | some _, some (b, nextLine) => do
      let (bs, last) ← quotedBreaks steps nextLine
      return (foldedBreak b bs, last)

/-- A word between double marks, which may hold escapes. -/
def doubleQuotedWord : Nat → Cursor → Except Fault (List Point × Cursor)
  | 0, c => .ok ([], c)
  | steps + 1, c =>
      match c.peek with
      | none => .ok ([], c)
      | some '\x22' => .ok ([], c)
      | some '\\' =>
          match c.peekAt 1 with
          | none => .error .malformed
          | some e =>
              match letterEscape? e, escapeWidth? e, c.advance.lineBreak? with
              | some x, _, _ => do
                  let (word, last) ← doubleQuotedWord steps (c.skip 2)
                  return (.char x :: word, last)
              | none, some width, _ => do
                  let x ← escapedPoint width (c.skip 2)
                  let (word, last) ← doubleQuotedWord steps (c.skip (2 + width))
                  return (x :: word, last)
              | none, none, some (_, nextLine) => do
                  let (bs, after) ← quotedBreaks steps nextLine
                  let (word, last) ← doubleQuotedWord steps after
                  return (bs.map .char ++ word, last)
              | none, none, none => .error .malformed
      | some x =>
          if endsWord (some x) then .ok ([], c)
          else do
            let (word, last) ← doubleQuotedWord steps c.advance
            return (.char x :: word, last)

/-- A word between single marks; there a mark is written twice. -/
def singleQuotedWord : Nat → Cursor → List Char × Cursor
  | 0, c => ([], c)
  | steps + 1, c =>
      match c.peek with
      | none => ([], c)
      | some x =>
          if x == '\x27' then
            if c.peekAt 1 == some '\x27' then
              let (word, last) := singleQuotedWord steps (c.skip 2)
              ('\x27' :: word, last)
            else ([], c)
          else if endsWord (some x) then ([], c)
          else
            let (word, last) := singleQuotedWord steps c.advance
            (x :: word, last)

/-- The words and gaps up to the closing mark. -/
def quotedBody (mark : Char) : Nat → Cursor → Except Fault (List Point × Cursor)
  | 0, _ => .error .malformed
  | steps + 1, c => do
      let (word, after) ←
        if mark == '\x22' then doubleQuotedWord (steps + 1) c
        else
          let (word, last) := singleQuotedWord (steps + 1) c
          .ok (word.map .char, last)
      if after.peek == some mark then return (word, after.advance)
      else
        let (gap, next) ← quotedGap (steps + 1) after
        let (more, last) ← quotedBody mark steps next
        return (word ++ gap.map .char ++ more, last)

/-- A quoted scalar from its opening mark on. -/
def scanQuoted (mark : Char) (c : Cursor) : Except Fault (Token × Cursor) := do
  let (points, after) ← quotedBody mark (c.rest.length + 1) c.advance
  return (.scalar false (⟨points⟩), after)

/-! ## Plain scalars -/

/-- The characters that end a plain scalar between brackets. -/
def isFlowStop (c : Char) : Bool := ",?[]\x7b\x7d".toList.contains c

/-- Whether a colon before the given character ends a plain scalar. -/
def colonEnds (inFlow : Bool) (after : Option Char) : Bool :=
  endsWord after || (inFlow && (after.any fun c => ",[]\x7b\x7d".toList.contains c))

/-- The longest stretch of a plain scalar without blanks. -/
def plainRun (inFlow : Bool) : List Char → List Char
  | [] => []
  | c :: rest =>
      if endsWord (some c) || (c == ':' && colonEnds inFlow rest.head?) ||
          (inFlow && isFlowStop c) then []
      else c :: plainRun inFlow rest

/-- The further line breaks between the lines of a plain scalar, or nothing if
a mark of a document comes first. -/
def plainBreaks : Nat → Cursor → Option (List Char) × Cursor
  | 0, c => (some [], c)
  | steps + 1, c =>
      let inLine := c.skipSpaces
      match inLine.lineBreak? with
      | none => (some [], inLine)
      | some (b, after) =>
          if after.atDocumentMark then (none, after)
          else
            let (bs, last) := plainBreaks steps after
            (bs.map (b :: ·), last)

/-- What stands between two stretches of a plain scalar, where it ends, and
whether a line ended in it. -/
def plainGap (steps : Nat) (c : Cursor) : List Char × Cursor × Bool :=
  let (blanks, after) := c.span (· == ' ')
  match after.lineBreak? with
  | none => (blanks, after, false)
  | some (b, nextLine) =>
      if nextLine.atDocumentMark then ([], nextLine, true)
      else
        match plainBreaks steps nextLine with
        | (none, last) => ([], last, true)
        | (some bs, last) => (foldedBreak b bs, last, true)

/-- The stretches of a plain scalar, given the gap before the next one.  Outside
of brackets its later lines are indented at least by `margin`. -/
def plainBody (inFlow : Bool) (margin : Nat) :
    Nat → List Char → Bool → Cursor → List Char × Cursor × Bool
  | 0, _, brokeLine, c => ([], c, brokeLine)
  | steps + 1, gap, brokeLine, c =>
      let run := if c.peek == some '#' then [] else plainRun inFlow c.rest
      if run.isEmpty then ([], c, brokeLine)
      else
        let (nextGap, after, broke) := plainGap (steps + 1) (c.skip run.length)
        if nextGap.isEmpty || after.peek == some '#' || (!inFlow && after.column < margin) then
          (gap ++ run, after, broke)
        else
          let (more, last, broke) := plainBody inFlow margin steps nextGap broke after
          (gap ++ run ++ more, last, broke)

/-- A plain scalar, the place after it and the blanks that follow, and whether
that is in a later line than its end. -/
def scanPlain (inFlow : Bool) (margin : Nat) (c : Cursor) : Token × Cursor × Bool :=
  let (cs, after, brokeLine) := plainBody inFlow margin (c.rest.length + 1) [] false c
  (.scalar true (.ofChars cs), after, brokeLine)

/-! ## Block scalars -/

/-- What becomes of the line breaks at the end of a block. -/
inductive Chomping where
  | strip
  | clip
  | keep
  deriving DecidableEq, Repr

def chomping? (c : Option Char) : Option Chomping :=
  if c == some '+' then some .keep else if c == some '-' then some .strip else none

/-- The indentation digit at the cursor, if there is one. -/
def indentDigit? (c : Option Char) : Option Nat :=
  (c.filter fun x => '0' ≤ x && x ≤ '9').map fun x => x.toNat - 0x30

def blockIndicators (c : Cursor) : Except Fault (Chomping × Option Nat × Cursor) :=
  let (chomping, digit, after) :=
    match chomping? c.peek, indentDigit? c.peek with
    | some ch, _ =>
        match indentDigit? c.advance.peek with
        | some d => (ch, some d, c.skip 2)
        | none => (ch, none, c.advance)
    | none, some d =>
        match chomping? c.advance.peek with
        | some ch => (ch, some d, c.skip 2)
        | none => (.clip, some d, c.advance)
    | none, none => (.clip, none, c)
  if digit == some 0 || !endsPhrase after.peek then .error .malformed
  else .ok (chomping, digit, after)

/-- The blank lines at the start of a block and the widest indentation met. -/
def blockIndentation : Nat → Nat → Cursor → List Char × Nat × Cursor
  | 0, widest, c => ([], widest, c)
  | steps + 1, widest, c =>
      let inLine := c.skipSpaces
      let widest := if inLine.index = c.index then widest else max widest inLine.column
      match inLine.lineBreak? with
      | none => ([], widest, inLine)
      | some (b, after) =>
          let (bs, widest, last) := blockIndentation steps widest after
          (b :: bs, widest, last)

/-- Past spaces, but not beyond the given column. -/
def skipIndent : Nat → Cursor → Cursor
  | 0, c => c
  | steps + 1, c => if c.peek == some ' ' then skipIndent steps c.advance else c

/-- The blank lines between or after the lines of a block. -/
def blockBreaks (indent : Nat) : Nat → Cursor → List Char × Cursor
  | 0, c => ([], c)
  | steps + 1, c =>
      let inLine := skipIndent (indent - c.column) c
      match inLine.lineBreak? with
      | none => ([], inLine)
      | some (b, after) =>
          let (bs, last) := blockBreaks indent steps after
          (b :: bs, last)

/-- The lines of a block, the break of its last line and the blank lines after
it. -/
def blockLines (folded : Bool) (indent : Nat) :
    Nat → List Char → Cursor → List Char × List Char × List Char × Cursor
  | 0, breaks, c => ([], [], breaks, c)
  | steps + 1, breaks, c =>
      if c.column ≠ indent ∨ c.peek.isNone then ([], [], breaks, c)
      else
        let startsBlank := c.peek.any isSpaceOrTab
        let (line, atBreak) := c.span (fun x => !isBreak x)
        let (ending, nextLine) :=
          match atBreak.lineBreak? with
          | some (b, after) => ([b], after)
          | none => ([], atBreak)
        let (nextBreaks, next) := blockBreaks indent (steps + 1) nextLine
        if next.column = indent ∧ next.peek.isSome then
          let joint :=
            if folded && ending == ['\n'] && !startsBlank && !next.peek.any isSpaceOrTab then
              if nextBreaks.isEmpty then [' '] else []
            else ending
          let (more, lastEnding, lastBreaks, last) := blockLines folded indent steps nextBreaks next
          (breaks ++ line ++ joint ++ more, lastEnding, lastBreaks, last)
        else (breaks ++ line, ending, nextBreaks, next)

/-- A block scalar from its indicator on; `margin` is the least indentation that
its lines can have. -/
def scanBlock (folded : Bool) (margin : Nat) (c : Cursor) : Except Fault (Token × Cursor) := do
  let (chomping, digit, afterIndicators) ← blockIndicators c.advance
  let firstLine ← restOfLine afterIndicators
  let steps := firstLine.rest.length + 1
  let least := max margin 1
  let (breaks, indent, begin_) :=
    match digit with
    | some d =>
        let indent := least + d - 1
        let (breaks, after) := blockBreaks indent steps firstLine
        (breaks, indent, after)
    | none =>
        let (breaks, widest, after) := blockIndentation steps 0 firstLine
        (breaks, max least widest, after)
  let (lines, ending, lastBreaks, last) := blockLines folded indent steps breaks begin_
  let tail :=
    match chomping with
    | .strip => []
    | .clip => ending
    | .keep => ending ++ lastBreaks
  return (.scalar false (.ofChars (lines ++ tail)), last)

end AlertRelay.Yaml
