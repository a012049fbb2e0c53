import AlertRelay.Json.Render
import AlertRelay.Log.Basic
import AlertRelay.Value.Text

/-!
# Log lines

There are two forms of a log.  In the JSON form an event is one JSON object on
one line.  In the console form it is a line for the eye: level and name in
columns, then the other fields as `key=value`, sorted by their keys.
-/

namespace AlertRelay.Log

open AlertRelay.Text

inductive Form where
  | json
  | console
  deriving DecidableEq, Repr, Inhabited

def jsonLine (stamp : String) (raised : Option Raised) (e : Event) : String :=
  String.ofList (Json.render Json.spaced (.object (e.entry stamp raised)) ++ ['\n'])

/-! ## Console lines -/

def padded (width : Nat) (s : Spelled) : Spelled :=
  s ++ .ofChars (List.replicate (width - s.points.length) ' ')

/-- The points that keep a text from being shown bare. -/
def needsQuotes (p : Point) : Bool :=
  p == .char ' ' || p == .char '\t' || p == .char '=' || p == .char '\r' || p == .char '\n' ||
    p == .char doubleMark || p == .char singleMark

/-- A text as it is, or between marks if it could be mistaken for more than one
value. -/
def shownText (s : Spelled) : Spelled := if s.points.any needsQuotes then quoted s else s

/-- The literal of a value that is no text. -/
def literal (v : Json) : Spelled := ((Value.ofJson v).literal? {}).getD ""

def shown : Json → Spelled
  | .text s => shownText s
  | v => literal v

/-- The value of a field in a column of its own. -/
def bare : Json → Spelled
  | .text s => s
  | v => literal v

/-- The columns in front, each with the form of its value.  A field without a name
comes first. -/
def columns : List (Spelled × (Json → Spelled)) :=
  [("", fun v => "=" ++ shown v),
    ("timestamp", bare),
    ("level", fun v => "[" ++ padded 9 (bare v) ++ "]"),
    ("event", fun v => padded 30 (bare v)),
    ("logger", fun v => "[" ++ bare v ++ "]"),
    ("logger_name", fun v => "[" ++ bare v ++ "]")]

def stackField : Spelled := "stack"

def belowLine : List Spelled := [stackField, raisedField]

def isColumn (key : Spelled) : Bool := columns.any (·.1 == key)

/-- A field put in its place among fields sorted by key. -/
def insertSorted (field : Spelled × Json) : List (Spelled × Json) → List (Spelled × Json)
  | [] => [field]
  | f :: rest =>
      if field.1 < f.1 then field :: f :: rest else f :: insertSorted field rest

def sorted (fields : List (Spelled × Json)) : List (Spelled × Json) :=
  fields.foldr insertSorted []

/-- The pieces of a console line, from left to right. -/
def pieces (told : List (Spelled × Json)) : List Spelled :=
  columns.filterMap (fun (key, form) => (told.lookup key).map form) ++
    (sorted (told.filter fun (key, _) => !isColumn key && !belowLine.contains key)).map
      fun (key, v) => key ++ "=" ++ shown v

def trimSpaces (s : Spelled) : Spelled :=
  ⟨(s.points.reverse.dropWhile (· == .char ' ')).reverse⟩

def textOf? (told : List (Spelled × Json)) (key : Spelled) : Option Spelled :=
  match told.lookup key with
  | some (.text s) => some s
  | _ => none

/-- The rule between a stack and what was raised there. -/
def rule : String := "\n\n" ++ String.ofList (List.replicate 79 '=') ++ "\n"

/-- What is written below a line: a stack, and what was raised.  The rule is also
written for a trace that is asked for and not there. -/
def below (asked : Bool) : Option Spelled → Option Spelled → Spelled
  | none, none => ""
  | none, some raised => "\n" ++ raised
  | some stack, none => "\n" ++ stack ++ (if asked then rule else "")
  | some stack, some raised => "\n" ++ stack ++ rule ++ "\n" ++ raised

/-- What is told below a line of what was raised: its trace if that is asked for, and else
what the event says. -/
def raisedText? (stamp : String) (raised : Option Raised) (e : Event) : Option Spelled :=
  match e.traced? raised with
  | some r => some r.trace
  | none => textOf? (e.told stamp) raisedField

def consoleLine (stamp : String) (raised : Option Raised) (e : Event) : Spelled :=
  trimSpaces (.join " " ((pieces (e.told stamp)).filter (· != ""))) ++
    below e.asksTrace (textOf? (e.told stamp) stackField) (raisedText? stamp raised e) ++ "\n"

def line : Form → String → Option Raised → Event → Spelled
  | .json => fun stamp raised e => jsonLine stamp raised e
  | .console => consoleLine

def render (form : Form) (threshold : Nat) (stamp : String) (events : List Event) : Spelled :=
  .join "" ((reaching threshold events).map (line form stamp none))

end AlertRelay.Log
