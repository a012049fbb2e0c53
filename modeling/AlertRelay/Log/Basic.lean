import AlertRelay.Value.Basic

/-!
# Log events

An event has a level, a name, the component that it comes from and further
fields.  A log is set to a threshold; events below it are dropped.
-/

namespace AlertRelay.Log

open AlertRelay.Text

inductive Level where
  | debug
  | info
  | warning
  | error
  | critical
  deriving DecidableEq, Repr, Inhabited

namespace Level

def name : Level → String
  | debug => "debug"
  | info => "info"
  | warning => "warning"
  | error => "error"
  | critical => "critical"

def severity : Level → Nat
  | debug => 10
  | info => 20
  | warning => 30
  | error => 40
  | critical => 50

end Level

structure Event where
  component : Spelled
  level : Level
  name : Spelled
  fields : List (Spelled × Json) := []
  deriving Repr, Inhabited

/-! ## Thresholds -/

/-- The thresholds that have a name, in capitals. -/
def namedThresholds : List (Spelled × Nat) :=
  [("CRITICAL", 50), ("FATAL", 50), ("ERROR", 40), ("WARN", 30), ("WARNING", 30), ("INFO", 20),
    ("DEBUG", 10), ("NOTSET", 0)]

/-- The capital of a letter, for all letters whose capital is one of ASCII: the
dotless and the long letter have one too. -/
def capital : Point → Point
  | .char c =>
      if 'a' ≤ c ∧ c ≤ 'z' then .char (Char.ofNat (c.toNat - 32))
      else if c = '\u0131' then .char 'I'
      else if c = '\u017f' then .char 'S'
      else .char c
  | p => p

/-- The threshold with the given name in any case; that of `info` for a name
that is not known. -/
def thresholdNamed (name : Spelled) : Nat :=
  (namedThresholds.lookup ⟨name.points.map capital⟩).getD Level.info.severity

def reaching (threshold : Nat) (events : List Event) : List Event :=
  events.filter fun e => threshold ≤ e.level.severity

/-! ## Entries -/

/-- What was raised and is being handled where an event is logged: its record, and the
lines that tell it. -/
structure Raised where
  record : Json
  trace : Spelled
  deriving Repr, Inhabited

/-- The field that asks for the trace of what was raised. -/
def traceField : Spelled := "exc_info"

/-- The fields that ask for a trace.  They are never written themselves. -/
def traceFields : List Spelled := [traceField, "stack_info"]

/-- The field for what was raised. -/
def raisedField : Spelled := "exception"

/-- What an event tells of itself: its name, its level and its time. -/
def Event.heading (stamp : String) (e : Event) : List (Spelled × Json) :=
  [("event", .text e.name), ("level", .text e.level.name), ("ts", .text stamp)]

/-- What is told about an event: component, further fields, name, level and
time, in this order; a field that is given twice keeps its place and takes the
later value. -/
def Event.told (stamp : String) (e : Event) : List (Spelled × Json) :=
  Json.setFields [("component", .text e.component)]
    (e.fields.filter (fun (key, _) => !traceFields.contains key) ++ e.heading stamp)

/-- Whether the trace of what was raised is asked for. -/
def Event.asksTrace (e : Event) : Bool :=
  match (Json.setFields [] e.fields).lookup traceField with
  | none => false
  | some v => !(Value.ofJson v).isBlank

/-- What is being handled, if its trace is asked for. -/
def Event.traced? (raised : Option Raised) (e : Event) : Option Raised :=
  if e.asksTrace then raised else none

/-- What is written about an event: all that is told of it, and the record of what is
being handled if its trace is asked for. -/
def Event.entry (stamp : String) (raised : Option Raised) (e : Event) : List (Spelled × Json) :=
  match e.traced? raised with
  | none => e.told stamp
  | some r => Json.setField raisedField r.record (e.told stamp)

end AlertRelay.Log
