import AlertRelay.Http.Name.Case
import AlertRelay.Http.Name.Composed
import AlertRelay.Http.Name.Direction
import AlertRelay.Text.Punycode

/-!
# Labels of names

A host name beyond ASCII is a sequence of labels between dots.  Each label is
held to the rules for its letters, marks, hyphens and direction, and one that is
not in ASCII is sent encoded.
-/

namespace AlertRelay.Http.Name

open AlertRelay.Text

/-! ## Rules -/

/-- No hyphen at either end, and no two at the third place. -/
def hyphensFit (label : List Char) : Bool :=
  label.head? != some '-' && label.getLast? != some '-' && (label.drop 2).take 2 != ['-', '-']

/-- Whether letters join past the character. -/
def isTransparent (c : Char) : Bool :=
  (isNonspacing c && c.toNat != 0x1171e) || c.toNat == 0x1e94b

/-- A joiner stands after a mark that takes the vowel; one that parts letters
also between two that would join, marks aside. -/
def joinerFits (before after : List Char) (c : Char) : Bool :=
  nextIs isVowelKiller before ||
    (c == '\u200c' && nextIs joinsNextRuns.has (before.dropWhile isTransparent) &&
      nextIs joinsLastRuns.has (after.dropWhile isTransparent))

/-- Whether a character may stand in a label between what is before it, the
nearest first, and what is after it. -/
def fitsBetween (label before after : List Char) (c : Char) : Bool :=
  isLetter c ||
    if c == '\u00b7' then nextIs (· == 'l') before && nextIs (· == 'l') after
    else if c == '\u0375' then nextIs greekRuns.has after
    else if c == '\u05f3' || c == '\u05f4' then nextIs hebrewRuns.has before
    else if c == '\u30fb' then label.any kanaAndHanRuns.has
    else if c == '\u200c' || c == '\u200d' then joinerFits before after c
    else if isIndicDigit c then !label.any isPersianDigit
    else if isPersianDigit c then !label.any isIndicDigit
    else false

def allFit (label : List Char) : List Char → List Char → Bool
  | _, [] => true
  | before, c :: after => fitsBetween label before after c && allFit label (c :: before) after

def isLabel (label : List Char) : Bool :=
  !label.isEmpty && isComposed label && hyphensFit label && !nextIs isMark label &&
    allFit label [] label && directionFits label

/-! ## Names -/

/-- What marks a label that is encoded. -/
def encodedMark : List Char := ['x', 'n', '-', '-']

def char? (n : Nat) : Option Char := if n.isValidChar then some (Char.ofNat n) else none

/-- A label in ASCII; an encoded one has to be the encoding of a label. -/
def isAsciiLabel (label : List Char) : Bool :=
  if encodedMark.isPrefixOf label then
    let digits := label.drop encodedMark.length
    !digits.isEmpty && digits.getLast? != some '-' &&
      match (Punycode.decode? digits).bind (·.mapM char?) with
      | none => false
      | some decoded => isLabel decoded && Punycode.encode decoded == digits
  else isLabel label

/-- A label as it is sent: at most 63 characters of ASCII. -/
def asciiLabel? (label : List Char) : Option (List Char) :=
  let isAscii := label.all fun c => c.toNat < 0x80
  let sent := if isAscii then label else encodedMark ++ Punycode.encode label
  if (if isAscii then isAsciiLabel label else isLabel label) && sent.length ≤ 63 then some sent
  else none

def isDot (c : Char) : Bool := ['.', '\u3002', '\uff0e', '\uff61'].contains c

/-- A name as it is sent.  A dot at the end stays; without it there are at most
253 characters. -/
def asciiName? (name : List Char) : Option (List Char) :=
  let parts := (lowerName name).splitOnP isDot
  let endsOpen := parts.getLast? == some []
  let parts := if endsOpen then parts.dropLast else parts
  match parts.mapM asciiLabel? with
  | none => none
  | some sent =>
      let text := ['.'].intercalate sent
      if text.length ≤ 253 then some (if endsOpen then text ++ ['.'] else text) else none

end AlertRelay.Http.Name
