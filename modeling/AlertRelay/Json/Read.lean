import AlertRelay.Json.Render

/-!
# Reading JSON texts

A text is read as the grammar of JSON has it: blanks may stand around every part of it, a
string may spell its points by number, and a number with a fraction or a power of ten is a
float.  A high half and a low half that follow one another in a string are joined, also where
they were two points before the string was written.
-/

namespace AlertRelay.Json

open AlertRelay.Text AlertRelay.Number

def isBlank (c : Char) : Bool := c == ' ' || c == '\t' || c == '\n' || c == '\r'

def skipBlanks (s : List Char) : List Char := s.dropWhile isBlank

/-! ## Strings -/

def hexNames : List Char := "0123456789abcdef".toList

/-- The value of a hexadecimal digit in either case. -/
def hexValue? (c : Char) : Option Nat := hexNames.idxOf? (lowerAscii c)

/-- The number with the given hexadecimal digits. -/
def hexNumber? (ds : List Char) : Option Nat :=
  ds.foldlM (fun n c => (hexValue? c).map (n * 16 + ·)) 0

/-- The characters that have an escape of one letter. -/
def letterEscapes : List (Char × Char) :=
  [('\x22', '\x22'), ('\\', '\\'), ('/', '/'), ('b', '\x08'), ('f', '\x0c'), ('n', '\n'),
    ('r', '\r'), ('t', '\t')]

/-- The points of a string up to its closing mark, and what follows. -/
def readPoints : List Char → Option (List Point × List Char)
  | [] => none
  | c :: rest =>
      if c = '\x22' then some ([], rest)
      else if c = '\\' then
        match rest with
        | 'u' :: d₁ :: d₂ :: d₃ :: d₄ :: rest => do
            let p ← (hexNumber? [d₁, d₂, d₃, d₄]).bind Point.ofNat?
            let (ps, rest) ← readPoints rest
            return (p :: ps, rest)
        | letter :: rest => do
            let c ← letterEscapes.lookup letter
            let (ps, rest) ← readPoints rest
            return (.char c :: ps, rest)
        | [] => none
      else if c.toNat < 0x20 then none
      else do
        let (ps, rest) ← readPoints rest
        return (.char c :: ps, rest)

/-- A string behind its opening mark, and what follows it. -/
def readText (s : List Char) : Option (Spelled × List Char) := do
  let (ps, rest) ← readPoints s
  return (⟨joinPoints ps⟩, rest)

/-! ## Words and numbers -/

/-- The characters of words and numbers. -/
def isWordChar (c : Char) : Bool := c.isAlphanum || c == '-' || c == '+' || c == '.'

/-- The number in front of a fraction; it has no zero in front of other digits. -/
def wholeNumber? (ds : List Char) : Option Nat :=
  if ds = [] ∨ (ds.head? = some '0' ∧ ds ≠ ['0']) then none else some (Nat.ofDigitChars 10 ds 0)

def splitMinus : List Char → Bool × List Char
  | '-' :: rest => (true, rest)
  | s => (false, s)

def number? (word : List Char) : Option Json := do
  let (negative, body) := splitMinus word
  let n ← wholeNumber? (body.takeWhile (·.isDigit))
  match body.dropWhile (·.isDigit) with
  | [] => return .int (signed negative n)
  | '.' :: fraction =>
      if (fraction.head?.any (·.isDigit)) then (unsignedNumeral? negative body).map float else none
  | _ => (unsignedNumeral? negative body).map float

/-- The value of a word. -/
def scalar? (word : List Char) : Option Json :=
  if word = "null".toList then some null
  else if word = "true".toList then some (bool true)
  else if word = "false".toList then some (bool false)
  else number? word

/-! ## Values -/

mutual

/-- A value at the start of a text, and what follows it.  Every step takes a character at
least, so the length of the text bounds their number. -/
def readValue : Nat → List Char → Option (Json × List Char)
  | 0, _ => none
  | steps + 1, s =>
      match skipBlanks s with
      | '\x22' :: rest => do
          let (t, rest) ← readText rest
          return (text t, rest)
      | '[' :: rest =>
          match skipBlanks rest with
          | ']' :: rest => some (array [], rest)
          | rest => do
              let (items, rest) ← readItems steps rest
              return (array items, rest)
      | '\x7b' :: rest =>
          match skipBlanks rest with
          | '\x7d' :: rest => some (object [], rest)
          | rest => do
              let (fields, rest) ← readFields steps rest
              return (object fields, rest)
      | s => do
          let v ← scalar? (s.takeWhile isWordChar)
          return (v, s.dropWhile isWordChar)

/-- The items of an array up to its end, of which there is one at least. -/
def readItems : Nat → List Char → Option (List Json × List Char)
  | 0, _ => none
  | steps + 1, s => do
      let (v, rest) ← readValue steps s
      match skipBlanks rest with
      | ',' :: rest => do
          let (items, rest) ← readItems steps rest
          return (v :: items, rest)
      | ']' :: rest => return ([v], rest)
      | _ => none

/-- The fields of an object up to its end, of which there is one at least. -/
def readFields : Nat → List Char → Option (List (Spelled × Json) × List Char)
  | 0, _ => none
  | steps + 1, s =>
      match skipBlanks s with
      | '\x22' :: rest => do
          let (key, rest) ← readText rest
          match skipBlanks rest with
          | ':' :: rest => do
              let (v, rest) ← readValue steps rest
              match skipBlanks rest with
              | ',' :: rest => do
                  let (fields, rest) ← readFields steps rest
                  return ((key, v) :: fields, rest)
              | '\x7d' :: rest => return ([(key, v)], rest)
              | _ => none
          | _ => none
      | _ => none

end

/-- The value that a whole text stands for. -/
def read (s : List Char) : Option Json :=
  match readValue s.length s with
  | some (v, rest) => if skipBlanks rest = [] then some v else none
  | none => none

end AlertRelay.Json
