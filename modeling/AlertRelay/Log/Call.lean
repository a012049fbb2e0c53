import AlertRelay.Log.Line

/-!
# Calls

A call of the log binds some fields to a logger and gives others with the event.
Some names are taken: a logger has a component, a receiver and an event of its own,
and some bound names stand for its parts.  The parts cannot be set by a call; they
are left as they are by a null, and where a part is looked at for truth alone, by any
blank value.
-/

namespace AlertRelay.Log

open AlertRelay.Text

inductive CallFault where
  /-- the name of the field is taken -/
  | nameTaken (key : Spelled)
  /-- an integer in the field is too long to be written -/
  | unwritable (key : Spelled)
  /-- the field is written below the line, but is no text -/
  | notText (key : Spelled)
  deriving DecidableEq, Repr, Inhabited

/-- The methods of a logger.  Some have the level of another. -/
inductive Method where
  | debug
  | info
  | warning
  | warn
  | error
  | critical
  /-- reports what was just raised -/
  | exception
  deriving DecidableEq, Repr, Inhabited

def Method.level : Method → Level
  | debug => .debug
  | info => .info
  | warning | warn => .warning
  | error | exception => .error
  | critical => .critical

structure Call where
  component : Spelled
  method : Method
  name : Spelled
  bound : List (Spelled × Json) := []
  given : List (Spelled × Json) := []
  /-- what is being handled where the call is made -/
  raised : Option Raised := none
  deriving Repr, Inhabited

namespace Call

/-! ## Names -/

/-- The names that a logger has for its own; they cannot be bound. -/
def loggerNames : List Spelled := ["component", "logger", "logger_factory_args"]

/-- The parts of a logger that a blank value leaves as they are. -/
def blankParts : List Spelled := ["wrapper_class", "context_class"]

/-- The part of a logger that takes no part in what is written. -/
def idlePart : Spelled := "cache_logger_on_first_use"

/-- The part of a logger that writes events. -/
def writingPart : Spelled := "processors"

def parts : List Spelled := writingPart :: idlePart :: blankParts

/-- The names that a call has for its own; they cannot be given, whether the event is
written or not. -/
def callNames : List Spelled := ["self", "event"]

/-- The name under which the level of an event is passed on; it cannot be given with an
event that is written. -/
def levelName : Spelled := "method_name"

def isBlank (v : Json) : Bool := (Value.ofJson v).isBlank

/-- Whether a logger may be given a name that was bound. -/
def canBind (key : Spelled) (v : Json) : Bool :=
  !loggerNames.contains key && (!blankParts.contains key || isBlank v)

/-- Whether a logger with a name bound can write. -/
def canWriteWith (key : Spelled) (v : Json) : Bool :=
  match v with
  | .null => true
  | _ => key != writingPart

/-- Nothing, or the fault of the first field that fails a test. -/
def require (ok : Spelled → Json → Bool) (fields : List (Spelled × Json)) : Except CallFault Unit :=
  match fields.find? fun (key, v) => !ok key v with
  | none => .ok ()
  | some (key, _) => .error (.nameTaken key)

/-! ## Events -/

/-- The event of a call, or nothing if it does not reach the threshold. -/
def event? (threshold : Nat) (c : Call) : Except CallFault (Option Event) := do
  let bound := Json.setFields [] c.bound
  let traced := if c.method = .exception then [(traceField, .bool true)] else []
  require canBind bound
  require (fun key _ => !callNames.contains key) c.given
  if threshold ≤ c.method.level.severity then
    require (fun key _ => key != levelName) c.given
    require canWriteWith bound
    return some {
      component := c.component
      level := c.method.level
      name := c.name
      fields := bound.filter (fun (key, _) => !parts.contains key) ++ traced ++ c.given }
  else return none

/-- Whether a field is written as a value, as all but what is below a line are. -/
def isShown (form : Form) (key : Spelled) : Bool := form == .json || !belowLine.contains key

def checkWritable (form : Form) (entry : List (Spelled × Json)) : Except CallFault Unit :=
  match entry.find? fun (key, v) => isShown form key && !v.isWritable with
  | none => .ok ()
  | some (key, _) => .error (.unwritable key)

/-- Whether a field can be written below the line. -/
def isBelowText : Json → Bool
  | .null | .text _ => true
  | _ => false

/-- In the console form, what is written below the line has to be text.  Of what was raised
the trace is written instead, if there is one. -/
def checkBelow (form : Form) (raised : Option Raised) (e : Event) : Except CallFault Unit :=
  match form with
  | .json => .ok ()
  | .console =>
      match (Json.setFields [] e.fields).find? fun (key, v) =>
          belowLine.contains key && !isBelowText v &&
            !(key == raisedField && (e.traced? raised).isSome) with
      | none => .ok ()
      | some (key, _) => .error (.notText key)

/-- What a call writes. -/
def render (form : Form) (threshold : Nat) (stamp : String) (c : Call) :
    Except CallFault Spelled := do
  match ← c.event? threshold with
  | none => return ""
  | some e =>
      checkWritable form (e.entry stamp c.raised)
      checkBelow form c.raised e
      return line form stamp c.raised e

end Call

end AlertRelay.Log
