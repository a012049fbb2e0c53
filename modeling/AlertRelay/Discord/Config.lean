import AlertRelay.Alert
import AlertRelay.Text.Point

/-!
# Where notifications go

Each notification is sent to a webhook: to that of its endpoint's group if the
group has one, and to the default webhook otherwise.  The default webhook may be
a reference to a variable of the environment.
-/

namespace AlertRelay.Discord

open AlertRelay.Text

structure Override where
  group : Spelled
  webhookUrl : Spelled
  deriving DecidableEq, Repr, Inhabited

structure Config where
  webhookUrl : Spelled
  overrides : List Override := []
  title : Spelled := ""
  defaultAlert : Option Alert := none
  deriving DecidableEq, Repr, Inhabited

namespace Config

/-- Whether every override has a group of its own and a webhook, given the
groups seen so far. -/
def overridesValid (seen : List Spelled) : List Override → Bool
  | [] => true
  | o :: rest =>
      if o.group = "" ∨ o.group ∈ seen ∨ o.webhookUrl = "" then false
      else overridesValid (o.group :: seen) rest

def isValid (c : Config) : Bool := overridesValid [] c.overrides && c.webhookUrl != ""

/-- The webhook of a group that has one; the first override counts. -/
def overrideFor? (c : Config) (group : Spelled) : Option Spelled :=
  (c.overrides.find? fun o => o.group = group).map (·.webhookUrl)

end Config

end AlertRelay.Discord
