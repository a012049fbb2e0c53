import AlertRelay.Number.Decimal
import AlertRelay.Text.Base64
import AlertRelay.Value.Basic
import AlertRelay.Yaml.Fault
import AlertRelay.Yaml.Tag

/-!
# Values of scalars

What the text of a scalar means under a tag.  A tag that is written out may
stand before a text of another form, so every reader here is looser than the
form that suggests its tag.
-/

namespace AlertRelay.Yaml

open AlertRelay.Number AlertRelay.Text AlertRelay.Calendar

/-! ## Truth values -/

def trueWords : List String := ["yes", "true", "on"]

def falseWords : List String := ["no", "false", "off"]

def boolOf (s : List Char) : Except Fault Value :=
  let word := String.ofList (s.map lowerAscii)
  if trueWords.contains word then .ok (.bool true)
  else if falseWords.contains word then .ok (.bool false)
  else .error .unknownWord

/-! ## Numbers -/

/-- The sign of a number and what follows it, underscores left out. -/
def signedPart (s : List Char) : Except Fault (Bool × List Char) :=
  match s.filter (· != '_') with
  | [] => .error .emptyNumber
  | s => .ok (splitSign s)

def integerIn (r : Radix) (s : List Char) : Except Fault Int :=
  match integer? r s with
  | some i => .ok i
  | none => .error .noSuchValue

/-- An integer without its sign; parts between colons are places in base
sixty. -/
def magnitudeOf (s : List Char) : Except Fault Int :=
  match s with
  | [] => .error .emptyNumber
  | ['0'] => .ok 0
  | '0' :: 'b' :: ds => integerIn .binary ds
  | '0' :: 'x' :: ds => integerIn .hexadecimal ds
  | '0' :: _ => integerIn .octal s
  | _ =>
      if s.contains ':' then do
        let parts ← (s.splitOn ':').mapM (integerIn .decimal)
        return parts.foldl (fun n d => n * 60 + d) 0
      else integerIn .decimal s

def intOf (s : List Char) : Except Fault Value := do
  let (negative, body) ← signedPart s
  let i ← magnitudeOf body
  return .int (if negative then -i else i)

def numeralIn (s : List Char) : Except Fault Binary64 :=
  match numeral? s with
  | some x => .ok x
  | none => .error .noSuchValue

/-- The sum of the parts times the powers of sixty, from the last part on. -/
def sumOfSixtieths (parts : List Binary64) : Binary64 :=
  (parts.foldr (fun x (total, power) =>
    (total.add (x.mul (.ofNat power)), power * 60)) (Binary64.zero false, 1)).1

/-- How many parts between colons there may be before the weight of the first is beyond
every number. -/
def sixtiethsLimit : Nat := 174

/-- A float at a place.  The word for no number is one value; a number that comes out
as none is a value of its own. -/
def floatOf (place : Nat) (s : List Char) : Except Fault Value := do
  let (negative, body) ← signedPart s
  let word := body.map lowerAscii
  if word == ".nan".toList then return .float .nan
  let x ←
    if word == ".inf".toList then .ok (.infinite false)
    else if word.contains ':' then do
      let parts ← (word.splitOn ':').mapM numeralIn
      if sixtiethsLimit < parts.length then .error .tooLarge else .ok (sumOfSixtieths parts)
    else numeralIn word
  match x with
  | .nan => return .stray place
  | x => return .float (if negative then x.neg else x)

/-! ## Bytes -/

def binaryOf (s : List Char) : Except Fault Value :=
  if s.all fun c => c.toNat < 128 then
    match base64? s with
    | some bytes => .ok (.bytes bytes)
    | none => .error .malformed
  else .error .malformed

/-! ## Dates and timestamps -/

def digitValue? (c : Char) : Option Nat :=
  if '0' ≤ c ∧ c ≤ '9' then some (c.toNat - 0x30) else none

/-- At most `count` digits from the start of a text, and what follows. -/
def spanAtMost : Nat → List Char → List Nat × List Char
  | count + 1, c :: rest =>
      match digitValue? c with
      | some d => let (ds, after) := spanAtMost count rest; (d :: ds, after)
      | none => ([], c :: rest)
  | _, s => ([], s)

/-- A number of at least `least` and at most `most` digits. -/
def digits? (least most : Nat) (s : List Char) : Option (Nat × List Char) :=
  let (ds, rest) := spanAtMost most s
  if ds.length < least then none else some (ofDigits 10 ds, rest)

def mark? (c : Char) : List Char → Option (List Char)
  | x :: rest => if x = c then some rest else none
  | [] => none

def date? (s : List Char) : Option (Date × List Char) := do
  let (year, s) ← digits? 4 4 s
  let (month, s) ← digits? 1 2 (← mark? '-' s)
  let (day, s) ← digits? 1 2 (← mark? '-' s)
  return (⟨year, month, day⟩, s)

/-- What parts a date from a time of the day. -/
def afterDate? (s : List Char) : Option (List Char) :=
  match s with
  | c :: rest =>
      if c = 'T' ∨ c = 't' then some rest
      else if c = ' ' ∨ c = '\t' then some (rest.dropWhile fun c => c == ' ' || c == '\t')
      else none
  | [] => none

/-- A fraction of a second, cut to microseconds, and what follows it. -/
def fraction (s : List Char) : Nat × List Char :=
  match s with
  | '.' :: rest =>
      let run := rest.takeWhile fun c => (digitValue? c).isSome
      let (ds, _) := spanAtMost 6 run
      (ofDigits 10 (ds ++ List.replicate (6 - ds.length) 0), rest.drop run.length)
  | _ => (0, s)

/-- The end of a timestamp; one line feed may stand there. -/
def atEnd (s : List Char) : Bool := s == [] || s == ['\n']

/-- The minutes of an offset behind its hours, if there are any. -/
def offsetMinutes? (s : List Char) : Option Nat :=
  match s with
  | ':' :: rest => do
      let (minutes, rest) ← digits? 2 2 rest
      if atEnd rest then some minutes else none
  | _ => if atEnd s then some 0 else none

/-- The offset at the end of a timestamp: none, the letter for universal time,
or signed hours and minutes. -/
def offset? (s : List Char) : Option (Option Int) :=
  match s.dropWhile fun c => c == ' ' || c == '\t' with
  | 'Z' :: rest => if atEnd rest then some (some 0) else none
  | c :: rest =>
      if c = '-' ∨ c = '+' then do
        let (hours, rest) ← digits? 1 2 rest
        let minutes ← offsetMinutes? rest
        return some (signed (c = '-') (hours * 60 + minutes))
      else if atEnd s then some none
      else none
  | [] => if atEnd s then some none else none

def timestamp? (d : Date) (s : List Char) : Option Timestamp := do
  let s ← afterDate? s
  let (hour, s) ← digits? 1 2 s
  let (minute, s) ← digits? 2 2 (← mark? ':' s)
  let (second, s) ← digits? 2 2 (← mark? ':' s)
  let (microsecond, s) := fraction s
  let offset ← offset? s
  return ⟨d, hour, minute, second, microsecond, offset⟩

def timestampOf (s : List Char) : Except Fault Value :=
  match date? s with
  | none => .error .notTimestamp
  | some (d, rest) =>
      if atEnd rest then
        if d.isValid then .ok (.date d) else .error .noSuchValue
      else
        match timestamp? d rest with
        | none => .error .notTimestamp
        | some t => if t.isValid then .ok (.timestamp t) else .error .noSuchValue

/-! ## By tag -/

/-- The value of the text of a scalar under a tag, given the number of its node. -/
def valueOf (place : Nat) (tag : Tag) (text : Spelled) : Except Fault Value :=
  let s := text.shown.toList
  match tag with
  | .null => .ok .null
  | .bool => boolOf s
  | .int => intOf s
  | .float => floatOf place s
  | .binary => binaryOf s
  | .timestamp => timestampOf s
  | .text => .ok (.text text)
  | .sequence | .mapping | .set | .pairs | .merge | .default | .unknown => .error .malformed

end AlertRelay.Yaml
