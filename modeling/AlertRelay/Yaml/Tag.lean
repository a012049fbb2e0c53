import AlertRelay.Text.Pattern

/-!
# Tags

The tag of a node says what its value is.  A scalar without a tag of its own
gets one by its form; the forms are tried by the first character and in a fixed
order.
-/

namespace AlertRelay.Yaml

open AlertRelay.Text AlertRelay.Text.Pattern

inductive Tag where
  | null
  | bool
  | int
  | float
  | binary
  | timestamp
  | text
  | sequence
  | mapping
  | set
  /-- a list of pairs, ordered or not -/
  | pairs
  /-- the key whose value is merged into the mapping around it -/
  | merge
  /-- the key whose value stands for the mapping around it -/
  | default
  /-- any other tag, also that of the lone marks of nodes -/
  | unknown
  deriving DecidableEq, Repr, Inhabited

namespace Tag

/-- What the names of the known tags begin with. -/
def stem : String := "tag:yaml.org,2002:"

def names : List (String × Tag) :=
  [("null", null), ("bool", bool), ("int", int), ("float", float), ("binary", binary),
    ("timestamp", timestamp), ("str", text), ("seq", sequence), ("map", mapping), ("set", set),
    ("omap", pairs), ("pairs", pairs), ("merge", merge), ("value", default)]

def ofName (name : String) : Tag :=
  match names.find? fun (short, _) => stem ++ short == name with
  | some (_, tag) => tag
  | none => unknown

/-! ## Forms of scalars -/

def sign : Pattern := optional (oneOf "-+")

def digit : Pattern := oneOf "0123456789"

def hexDigit : Pattern := oneOf "0123456789abcdefABCDEF_"

/-- A digit that may be an underscore. -/
def looseDigit : Pattern := oneOf "0123456789_"

def oneOrTwoDigits : Pattern := inOrder [digit, optional digit]

def boolForm : Pattern :=
  anyText ["yes", "Yes", "YES", "no", "No", "NO", "true", "True", "TRUE", "false", "False",
    "FALSE", "on", "On", "ON", "off", "Off", "OFF"]

/-- Further places of a number in base sixty. -/
def sixtieths : Pattern := oneOrMore (inOrder [char ':', optional (oneOf "012345"), digit])

def powerOfTen : Pattern := optional (inOrder [oneOf "eE", oneOf "-+", oneOrMore digit])

def floatForm : Pattern :=
  anyOf [
    inOrder [sign, digit, many looseDigit, char '.', many looseDigit, powerOfTen],
    inOrder [char '.', digit, many looseDigit, powerOfTen],
    inOrder [sign, digit, many looseDigit, sixtieths, char '.', many looseDigit],
    inOrder [sign, char '.', anyText ["inf", "Inf", "INF"]],
    inOrder [char '.', anyText ["nan", "NaN", "NAN"]]]

def intForm : Pattern :=
  anyOf [
    inOrder [sign, exactly "0b", oneOrMore (oneOf "01_")],
    inOrder [sign, char '0', oneOrMore (oneOf "01234567_")],
    inOrder [sign, either (char '0') (inOrder [oneOf "123456789", many looseDigit])],
    inOrder [sign, exactly "0x", oneOrMore hexDigit],
    inOrder [sign, oneOf "123456789", many looseDigit, sixtieths]]

def nullForm : Pattern := anyText ["~", "null", "Null", "NULL", ""]

def dateForm : Pattern :=
  inOrder [digit, digit, digit, digit, char '-', digit, digit, char '-', digit, digit]

/-- The distance to universal time behind a time of the day. -/
def zoneForm : Pattern :=
  either (char 'Z') (inOrder [oneOf "-+", oneOrTwoDigits, optional (inOrder [char ':', digit, digit])])

def timeForm : Pattern :=
  inOrder [digit, digit, digit, digit, char '-', oneOrTwoDigits, char '-', oneOrTwoDigits,
    either (oneOf "Tt") (oneOrMore (oneOf " \t")), oneOrTwoDigits, char ':', digit, digit,
    char ':', digit, digit, optional (inOrder [char '.', many digit]),
    optional (inOrder [many (oneOf " \t"), zoneForm])]

def timestampForm : Pattern := either dateForm timeForm

/-- A form, and the characters with which it begins. -/
structure Rule where
  tag : Tag
  starts : String
  form : Pattern

def rules : List Rule :=
  [⟨bool, "yYnNtTfFoO", boolForm⟩, ⟨float, "-+0123456789.", floatForm⟩,
    ⟨int, "-+0123456789", intForm⟩, ⟨merge, "<", exactly "<<"⟩, ⟨null, "~nN", nullForm⟩,
    ⟨timestamp, "0123456789", timestampForm⟩, ⟨default, "=", char '='⟩,
    ⟨unknown, "!&*", oneOf "!&*"⟩]

def ofText (s : List Char) : Tag :=
  match s with
  | [] => null
  | first :: _ =>
      match rules.find? fun r => r.starts.toList.contains first && r.form.acceptsLine s with
      | some r => r.tag
      | none => text

end Tag

end AlertRelay.Yaml
