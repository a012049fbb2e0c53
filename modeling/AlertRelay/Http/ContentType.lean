import AlertRelay.Charset.Known

/-!
# Content types

A content type is followed by parameters between semicolons.  A value may stand in
quotes; it may be cut into numbered parts, and a part may be percent-encoded, in which
case the value begins with the names of a character set and a language.  Of interest is
the parameter that names the character set of a body.
-/

namespace AlertRelay.Http.ContentType

open AlertRelay

/-! ## Texts -/

def isBlank (c : Char) : Bool :=
  c == ' ' || (0x09 ≤ c.toNat && c.toNat ≤ 0x0d) || (0x1c ≤ c.toNat && c.toNat ≤ 0x1f)

def trim (s : List Char) : List Char :=
  ((s.dropWhile isBlank).reverse.dropWhile isBlank).reverse

/-- A text in which a backslash before the given character is dropped. -/
def unescape (marked : Char) : List Char → List Char
  | [] => []
  | [c] => [c]
  | c :: d :: rest =>
      if c = '\\' ∧ d = marked then d :: unescape marked rest else c :: unescape marked (d :: rest)

/-- A text without the quotes or the angles around it. -/
def unquote (s : List Char) : List Char :=
  let inner := (s.drop 1).dropLast
  if s.length < 2 then s
  else if s.head? = some '\x22' ∧ s.getLast? = some '\x22' then
    unescape '\x22' (unescape '\\' inner)
  else if s.head? = some '<' ∧ s.getLast? = some '>' then inner
  else s

/-- A text with a backslash before each quote and each backslash. -/
def escape (s : List Char) : List Char :=
  s.flatMap fun c => if c = '\\' ∨ c = '\x22' then ['\\', c] else [c]

def quote (s : List Char) : List Char := '\x22' :: escape s ++ ['\x22']

def hexValue? (c : Char) : Option Nat :=
  if '0' ≤ c ∧ c ≤ '9' then some (c.toNat - 0x30)
  else if 'a' ≤ c ∧ c ≤ 'f' then some (c.toNat - 0x61 + 10)
  else if 'A' ≤ c ∧ c ≤ 'F' then some (c.toNat - 0x41 + 10)
  else none

/-- A text in which a percent sign with two digits is the character of that number. -/
def percentDecode : List Char → List Char
  | '%' :: a :: b :: rest =>
      match hexValue? a, hexValue? b with
      | some x, some y => Char.ofNat (x * 16 + y) :: percentDecode rest
      | _, _ => '%' :: percentDecode (a :: b :: rest)
  | c :: rest => c :: percentDecode rest
  | [] => []

/-! ## Parameters -/

/-- The parts between semicolons that do not stand in quotes.  A quote behind a backslash
is none. -/
def parts (inQuotes isEscaped : Bool) : List Char → List (List Char)
  | [] => [[]]
  | c :: rest =>
      if c = ';' ∧ !inQuotes then [] :: parts false false rest
      else
        match parts (if c = '\x22' ∧ !isEscaped then !inQuotes else inQuotes) (c == '\\') rest with
        | [] => [[c]]
        | part :: parts => (c :: part) :: parts

structure Parameter where
  name : List Char
  value : List Char
  deriving DecidableEq, Repr

/-- A name, and what stands behind the equals sign. -/
def parameter (part : List Char) : Parameter :=
  let name := part.takeWhile (· != '=')
  if name.length < part.length then
    ⟨trim ((trim name).map Charset.lower), trim (part.drop (name.length + 1))⟩
  else ⟨trim part, []⟩

/-! ## Parts of values -/

/-- A part of a value: its number, if it has one. -/
structure Section where
  number : Option Nat
  text : List Char
  isEncoded : Bool
  deriving DecidableEq, Repr

def isNameChar (c : Char) : Bool :=
  ('0' ≤ c && c ≤ '9') || ('a' ≤ c && c ≤ 'z') || ('A' ≤ c && c ≤ 'Z') || c == '_'

def isDigit (c : Char) : Bool := '0' ≤ c && c ≤ '9'

/-- The name in front of a star, and the digits behind it.  One more star may follow the
digits. -/
def sectionName? (name : List Char) : Option (List Char × List Char) :=
  let base := name.takeWhile isNameChar
  let digits := (name.drop (base.length + 1)).takeWhile isDigit
  let rest := name.drop (base.length + 1 + digits.length)
  if base ≠ [] ∧ name[base.length]? = some '*' ∧ (rest = [] ∨ (rest = ['*'] ∧ digits ≠ [])) then
    some (base, digits)
  else none

/-- The greatest number of digits that a number may have. -/
def digitLimit : Nat := 4300

def number (digits : List Char) : Nat := digits.foldl (fun n c => n * 10 + (c.toNat - 0x30)) 0

/-- Parameters with whole values, and those in sections by their names. -/
structure Gathered where
  whole : List Parameter
  sections : List (List Char × List Section)

def addSection (name : List Char) (s : Section) :
    List (List Char × List Section) → List (List Char × List Section)
  | [] => [(name, [s])]
  | (n, ss) :: rest =>
      if n = name then (n, ss ++ [s]) :: rest else (n, ss) :: addSection name s rest

def Gathered.add (s : Gathered) (p : Parameter) : Except Charset.Fault Gathered :=
  let value := unquote p.value
  match sectionName? p.name with
  | none => .ok { s with whole := s.whole ++ [⟨p.name, quote value⟩] }
  | some (name, digits) =>
      if digitLimit < digits.length then .error .longNumber
      else
        let number := if digits = [] then none else some (number digits)
        let part : Section := ⟨number, value, p.name.getLast? = some '*'⟩
        .ok { s with sections := addSection name part s.sections }

/-- Whether a section comes before another. -/
def Section.precedes (a b : Section) : Bool :=
  let numbers := (a.number.getD 0, b.number.getD 0)
  if numbers.1 ≠ numbers.2 then numbers.1 < numbers.2
  else if a.text ≠ b.text then a.text < b.text
  else !a.isEncoded || b.isEncoded

/-- A value: whole, or encoded with the character set that its beginning names. -/
inductive Value where
  | plain (text : List Char)
  | encoded (set : Option (List Char)) (text : List Char)
  deriving DecidableEq, Repr

/-- The value of sections in the order of their numbers. -/
def joinSections (ss : List Section) : Except Charset.Fault Value :=
  if ss.any (·.number.isSome) && ss.any (·.number.isNone) then .error .mixedParts
  else
    let ss := ss.mergeSort Section.precedes
    let text := escape (ss.flatMap fun s => if s.isEncoded then percentDecode s.text else s.text)
    let quoted := fun t => unquote ('\x22' :: t ++ ['\x22'])
    if ss.any (·.isEncoded) then
      match text.splitOn '\x27' with
      | set :: _ :: value :: more =>
          .ok (.encoded (some set) (quoted (['\x27'].intercalate (value :: more))))
      | _ => .ok (.encoded none (quoted text))
    else .ok (.plain (quoted text))

/-- The values of a header by their names.  The first part is taken as it is. -/
def values (header : List Char) : Except Charset.Fault (List (List Char × Value)) := do
  let ps := (parts false false header).map parameter
  let gathered ← (ps.drop 1).foldlM Gathered.add ⟨[], []⟩
  let joined ← gathered.sections.mapM fun (name, ss) => do return (name, ← joinSections ss)
  let whole := (ps.take 1 ++ gathered.whole).map fun p => (p.name, Value.plain (unquote p.value))
  return whole ++ joined

/-! ## The character set -/

/-- The set with a name, which must not hold a NUL. -/
def set? (name : List Char) : Except Charset.Fault (Option Charset) :=
  if name.contains '\x00' then .error .badName
  else .ok (Charset.named? (String.ofList name))

/-- The text of a value.  An encoded one that its set cannot read stays as it is. -/
def valueText : Value → Except Charset.Fault (List Char)
  | .plain text => .ok text
  | .encoded set text => do
      let name := match set with
        | some (c :: rest) => c :: rest
        | _ => "us-ascii".toList
      let set ← set? name
      if text = [] then return []
      let bytes := text.map fun c => UInt8.ofNat c.toNat
      return ((set.bind (·.strict? bytes)).elim text fun ps =>
        ps.map (·.char?.getD Text.Utf8.replacement))

/-- The character set that a content type names, if it is a known one. -/
def charset? (header : String) : Except Charset.Fault (Option Charset) := do
  let value := (← values header.toList).find? fun (name, _) =>
    name.map Charset.lower = "charset".toList
  match value with
  | none => return none
  | some (_, value) =>
      let text ← valueText value
      if text.all (·.toNat < 0x80) then set? text else return none

end AlertRelay.Http.ContentType
