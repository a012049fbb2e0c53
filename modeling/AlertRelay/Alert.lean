import AlertRelay.Text.Point

/-!
# Alerts

When an endpoint's state is worth a notification.  A field that is not set may
be filled from a default alert; the getters answer with the built-in default
for what is still not set.  `setDefaults` lets what is set in the alert win
over what is set in the default.
-/

namespace AlertRelay

open AlertRelay.Text

/-- The channel that carries notifications. -/
inductive Channel where
  | discord
  deriving DecidableEq, Repr, Inhabited

def Channel.name : Channel → String
  | .discord => "discord"

structure Alert where
  channel : Channel := .discord
  enabled : Option Bool := none
  failureThreshold : Option Int := none
  successThreshold : Option Int := none
  description : Option Spelled := none
  sendOnResolved : Option Bool := none
  /-- whether the alert has gone off; never taken from a default -/
  triggered : Bool := false
  deriving DecidableEq, Repr, Inhabited

namespace Alert

def defaultFailureThreshold : Int := 3

def defaultSuccessThreshold : Int := 2

/-- The alert with its unset fields taken from another one. -/
def setDefaults (a d : Alert) : Alert :=
  { a with
    enabled := a.enabled <|> d.enabled
    failureThreshold := a.failureThreshold <|> d.failureThreshold
    successThreshold := a.successThreshold <|> d.successThreshold
    description := a.description <|> d.description
    sendOnResolved := a.sendOnResolved <|> d.sendOnResolved }

/-- The alert with its unset fields taken from a default, if there is one. -/
def withDefaults (a : Alert) : Option Alert → Alert
  | none => a
  | some d => a.setDefaults d

/-! ## Getters -/

def isEnabled (a : Alert) : Bool := a.enabled.getD true

def isSendingOnResolved (a : Alert) : Bool := a.sendOnResolved.getD false

def failuresNeeded (a : Alert) : Int := a.failureThreshold.getD defaultFailureThreshold

def successesNeeded (a : Alert) : Int := a.successThreshold.getD defaultSuccessThreshold

def descriptionText (a : Alert) : Spelled := a.description.getD ""

/-- The length of the row of results that leads to a notification. -/
def threshold (a : Alert) (resolved : Bool) : Int :=
  if resolved then a.successesNeeded else a.failuresNeeded

end Alert

end AlertRelay
