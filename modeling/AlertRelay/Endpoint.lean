import AlertRelay.Alert

/-!
# Endpoints and checks

What is watched, and what a check of it found.
-/

namespace AlertRelay

open AlertRelay.Text

structure Endpoint where
  name : Spelled
  group : Spelled := ""
  url : Spelled := ""
  deriving DecidableEq, Repr, Inhabited

/-- The name of an endpoint behind the name of its group, if it has one. -/
def Endpoint.displayName (e : Endpoint) : Spelled :=
  if e.group = "" then e.name else e.group ++ "/" ++ e.name

structure ConditionResult where
  condition : Spelled
  success : Bool
  deriving DecidableEq, Repr, Inhabited

structure CheckResult where
  success : Bool := true
  conditions : List ConditionResult := []
  errors : List Spelled := []
  deriving DecidableEq, Repr, Inhabited

/-- An endpoint's change of state, as it is reported. -/
structure Notification where
  endpoint : Endpoint
  alert : Alert := {}
  result : CheckResult := {}
  resolved : Bool := false
  deriving DecidableEq, Repr, Inhabited

/-- A notification whose alert is filled from a default. -/
def Notification.withDefaults (n : Notification) (default : Option Alert) : Notification :=
  { n with alert := n.alert.withDefaults default }

namespace ConditionResult

/-- The two parts of a text around its last colon. -/
def splitLastColon : List Point → Option (List Point × List Point)
  | [] => none
  | p :: rest =>
      match splitLastColon rest with
      | some (before, after) => some (p :: before, after)
      | none => if p = .char ':' then some ([], rest) else none

/-- A condition that is not empty, a colon, and the word for its outcome. -/
def parse? (s : Spelled) : Option ConditionResult :=
  match splitLastColon s.points with
  | none => none
  | some (condition, outcome) =>
      if condition = [] then none
      else if outcome = Spelled.points "ok" then some ⟨⟨condition⟩, true⟩
      else if outcome = Spelled.points "fail" then some ⟨⟨condition⟩, false⟩
      else none

end ConditionResult

end AlertRelay
