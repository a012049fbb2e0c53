import AlertRelay.Number.Integer
import AlertRelay.Text.Utf8
import AlertRelay.Yaml.Token.Basic

/-!
# Directives, anchors, aliases and tags

A tag is a handle with a suffix, or stands in angle brackets and is complete.
In suffixes a percent sign with two hexadecimal digits is one byte of UTF-8.
-/

namespace AlertRelay.Yaml

open AlertRelay.Text

/-! ## Tag suffixes -/

def isUriChar (c : Char) : Bool :=
  isNameChar c || ";/?:@&=+$,.!~*\x27()[]%".toList.contains c

def escapedChars (bytes : List UInt8) : Except Fault (List Char) :=
  match Utf8.strict? bytes with
  | some cs => .ok cs
  | none => .error .malformed

/-- A suffix and how many characters it takes, given the escaped bytes just
before. -/
def uriFrom (pending : List UInt8) : List Char → Except Fault (List Char × Nat)
  | '%' :: a :: b :: rest =>
      match hexValue? a, hexValue? b with
      | some high, some low => do
          let (cs, n) ← uriFrom (pending ++ [UInt8.ofNat (high * 16 + low)]) rest
          return (cs, n + 3)
      | _, _ => .error .malformed
  | c :: rest => do
      if c == '%' then .error .malformed
      else
        let front ← escapedChars pending
        if isUriChar c then
          let (cs, n) ← uriFrom [] rest
          return (front ++ c :: cs, n + 1)
        else return (front, 0)
  | [] => do return (← escapedChars pending, 0)

/-- A suffix, which takes at least one character, and the place after it. -/
def scanUri (c : Cursor) : Except Fault (String × Cursor) := do
  let (cs, n) ← uriFrom [] c.rest
  if n = 0 then .error .malformed else return (String.ofList cs, c.skip n)

/-! ## Tag handles -/

/-- A handle: one exclamation mark, or two with a name between them. -/
def scanHandle (c : Cursor) : Except Fault (String × Cursor) :=
  if c.peek != some '!' then .error .malformed
  else if c.peekAt 1 == some ' ' then .ok ("!", c.advance)
  else
    let (name, after) := c.advance.span isNameChar
    if after.peek == some '!' then .ok (String.ofList ('!' :: name ++ ['!']), after.advance)
    else .error .malformed

/-! ## Directives -/

def scanVersion (c : Cursor) : Except Fault (Directive × Cursor) :=
  let isDigit (x : Char) : Bool := '0' ≤ x && x ≤ '9'
  let (major, dot) := c.span isDigit
  let (minor, after) := dot.advance.span isDigit
  if Number.maxDecimalDigits < major.length then .error .noSuchValue
  else if major.isEmpty || dot.peek != some '.' then .error .malformed
  else if Number.maxDecimalDigits < minor.length then .error .noSuchValue
  else if minor.isEmpty || !endsPhrase after.peek then .error .malformed
  else .ok (.version (major.foldl (fun n d => n * 10 + (d.toNat - 0x30)) 0), after)

def scanTagHandle (c : Cursor) : Except Fault (Directive × Cursor) := do
  let (handle, afterHandle) ← scanHandle c
  if afterHandle.peek != some ' ' then .error .malformed
  else
    let (stem, after) ← scanUri afterHandle.skipSpaces
    if endsPhrase after.peek then return (.tagHandle handle stem, after) else .error .malformed

/-- A directive from its percent sign up to the next line. -/
def scanDirective (c : Cursor) : Except Fault (Directive × Cursor) := do
  let (name, afterName) := c.advance.span isNameChar
  if name.isEmpty || !endsPhrase afterName.peek then .error .malformed
  else
    let (d, after) ←
      if String.ofList name = "YAML" then scanVersion afterName.skipSpaces
      else if String.ofList name = "TAG" then scanTagHandle afterName.skipSpaces
      else .ok (.other, afterName.skipWhile (fun x => !isBreak x))
    return (d, ← restOfLine after)

/-! ## Anchors, aliases and tags -/

/-- The name after the mark of an anchor or an alias. -/
def scanName (c : Cursor) : Except Fault (String × Cursor) :=
  let (name, after) := c.advance.span isNameChar
  let ends : Bool :=
    endsWord after.peek || (after.peek.any fun x => "?:,]\x7d%@\x60".toList.contains x)
  if name.isEmpty || !ends then .error .malformed else .ok (String.ofList name, after)

/-- Whether another exclamation mark stands in the word after the first one. -/
def hasHandle (word : List Char) : Bool :=
  (word.takeWhile fun x => !endsPhrase (some x)).contains '!'

def scanTag (c : Cursor) : Except Fault (Token × Cursor) := do
  let (token, after) ←
    if c.peekAt 1 == some '<' then do
      let (suffix, closing) ← scanUri (c.skip 2)
      if closing.peek == some '>' then .ok (Token.tag none suffix, closing.advance)
      else .error .malformed
    else if endsWord (c.peekAt 1) then .ok (Token.tag none "!", c.advance)
    else if hasHandle (c.rest.drop 1) then do
      let (handle, afterHandle) ← scanHandle c
      let (suffix, after) ← scanUri afterHandle
      .ok (Token.tag (some handle) suffix, after)
    else do
      let (suffix, after) ← scanUri c.advance
      .ok (Token.tag (some "!") suffix, after)
  if endsPhrase after.peek then return (token, after) else .error .malformed

end AlertRelay.Yaml
