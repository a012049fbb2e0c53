import AlertRelay.Alert

/-!
# Alerts and their defaults

What is set in an alert wins over what is set in its default, and only what is set in neither is
built in.  Filling an alert from one default after another is the same as filling it once, from
the first default that was itself filled from the second.
-/

namespace AlertRelay.Alert

/-! ## One field -/

/-- The getter of a field prefers an alert's own value to that of the default, and either of them
to the one that is built in. -/
structure PrefersOwn (field : Alert → Option α) (getter : Alert → α) : Prop where
  own {a d : Alert} (h : (field a).isSome = true) : getter (a.withDefaults d) = getter a
  default {a d : Alert} (h : field a = none) : getter (a.withDefaults d) = getter d
  notBuiltIn {a d : Alert} {x : α} (h : (field a <|> field d) = some x) :
    getter (a.withDefaults d) = x

variable {field : Alert → Option α}

/-- Filling sets a field to the first value of the alert and its default; with that its getter
falls back on what is built in only behind both. -/
theorem prefersOwn (hfilled : ∀ a d, field (a.setDefaults d) = (field a <|> field d))
    (builtIn : α) : PrefersOwn field fun a => (field a).getD builtIn where
  own {a d} h := by
    obtain ⟨x, hx⟩ := Option.isSome_iff_exists.mp h
    simp [withDefaults, hfilled, hx]
  default {a d} h := by
    simp [withDefaults, hfilled, h]
  notBuiltIn {a d x} h := by
    simp [withDefaults, hfilled, h]

/-! ## All fields -/

variable (a d e : Alert)

theorem setDefaults_assoc :
    (a.setDefaults d).setDefaults e = a.setDefaults (d.setDefaults e) := by
  simp [setDefaults, Option.or_assoc]

theorem setDefaults_setDefaults : (a.setDefaults d).setDefaults d = a.setDefaults d := by
  simp [setDefaults, Option.or_assoc]

/-- Alerts are filled by defaults as by the elements of a monoid, whose product prefers the left
one; what the channel is and whether the alert has gone off is never filled. -/
theorem withDefaults_isAction :
    (a.withDefaults d).withDefaults e = a.withDefaults (some (d.withDefaults e)) ∧
      a.withDefaults none = a ∧
      (a.withDefaults d).withDefaults d = a.withDefaults d ∧
      ((a.withDefaults d).channel = a.channel ∧ (a.withDefaults d).triggered = a.triggered) ∧
      PrefersOwn (·.enabled) isEnabled ∧
      PrefersOwn (·.failureThreshold) failuresNeeded ∧
      PrefersOwn (·.successThreshold) successesNeeded ∧
      PrefersOwn (·.description) descriptionText ∧
      PrefersOwn (·.sendOnResolved) isSendingOnResolved := by
  refine ⟨setDefaults_assoc a d e, rfl, setDefaults_setDefaults a d, ⟨rfl, rfl⟩, ?_⟩
  refine ⟨?_, ?_, ?_, ?_, ?_⟩
  · exact prefersOwn (fun _ _ => rfl) true
  · exact prefersOwn (fun _ _ => rfl) defaultFailureThreshold
  · exact prefersOwn (fun _ _ => rfl) defaultSuccessThreshold
  · exact prefersOwn (fun _ _ => rfl) (Text.Spelled.whole "")
  · exact prefersOwn (fun _ _ => rfl) false

end AlertRelay.Alert
