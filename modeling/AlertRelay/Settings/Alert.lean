import AlertRelay.Alert
import AlertRelay.Settings.Fault
import AlertRelay.Value.Text

/-!
# The settings of an alert

An alert is written as a mapping.  A key that is missing or null leaves its
field unset; every other value has to be of the right kind, except that a
description may be any value and is taken by its display text.
-/

namespace AlertRelay.Settings

open AlertRelay.Text

/-- The value of a key that is there and not null. -/
def given? (key : String) (entries : List (Value × Value)) : Option Value :=
  match Value.lookup key entries with
  | none | some .null => none
  | some v => some v

/-- The truth value of a key. -/
def bool? (cx : Value.Context) (entries : List (Value × Value)) (key : String) :
    Except LoadFault (Option Bool) :=
  match given? key entries with
  | none => .ok none
  | some (.bool b) => .ok (some b)
  | some v => refuse cx v (.notBoolean key)

/-- The integer of a key; a truth value is none. -/
def int? (cx : Value.Context) (entries : List (Value × Value)) (key : String) :
    Except LoadFault (Option Int) :=
  match given? key entries with
  | none => .ok none
  | some (.int i) => .ok (some i)
  | some v => refuse cx v (.notInteger key)

/-- The description among the settings of an alert. -/
def description? (cx : Value.Context) (entries : List (Value × Value)) :
    Except LoadFault (Option Spelled) :=
  match given? "description" entries with
  | none => .ok none
  | some v => do return some (← displayOf cx v)

def alertOf (cx : Value.Context) (v : Value) : Except LoadFault Alert :=
  match v.entries? cx.table with
  | none => refuse cx v .alertNotMapping
  | some entries => do
      let enabled ← bool? cx entries "enabled"
      let failureThreshold ← int? cx entries "failure-threshold"
      let successThreshold ← int? cx entries "success-threshold"
      let description ← description? cx entries
      let sendOnResolved ← bool? cx entries "send-on-resolved"
      return {
        enabled, failureThreshold, successThreshold, description, sendOnResolved }

end AlertRelay.Settings
