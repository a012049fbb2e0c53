import AlertRelay.Command.Run
import AlertRelay.Proofs.Text.Spelled

/-!
# What a payload says

The payload of a notification is written out from the alert as it was set, from its default
and from what was checked.
-/

namespace AlertRelay.Discord

open AlertRelay.Number AlertRelay.Text

/-! ## Values that are set -/

/-- What is set in an alert, or else in its default, or else built in. -/
def chosen (own default : Option α) (builtIn : α) : α :=
  match own, default with
  | some x, _ => x
  | none, some y => y
  | none, none => builtIn

def chosenThreshold (a : Alert) (d : Option Alert) (resolved : Bool) : Int :=
  match resolved with
  | true => chosen a.successThreshold (d.bind (·.successThreshold)) 2
  | false => chosen a.failureThreshold (d.bind (·.failureThreshold)) 3

def chosenDescription (a : Alert) (d : Option Alert) : Spelled :=
  chosen a.description (d.bind (·.description)) ""

theorem getD_withDefaults (own : Option α) (d : Option Alert) (field : Alert → Option α)
    (builtIn : α) :
    (d.elim own fun d => own <|> field d).getD builtIn =
      chosen own (d.bind field) builtIn := by
  cases own with
  | some x => cases d <;> rfl
  | none =>
      cases d with
      | none => rfl
      | some d => cases h : field d <;> simp [chosen, h]

theorem threshold_withDefaults (a : Alert) (d : Option Alert) (resolved : Bool) :
    (a.withDefaults d).threshold resolved = chosenThreshold a d resolved := by
  cases resolved with
  | true =>
      rw [chosenThreshold, ← getD_withDefaults]
      cases d <;> rfl
  | false =>
      rw [chosenThreshold, ← getD_withDefaults]
      cases d <;> rfl

theorem descriptionText_withDefaults (a : Alert) (d : Option Alert) :
    (a.withDefaults d).descriptionText = chosenDescription a d := by
  rw [chosenDescription, ← getD_withDefaults]
  cases d <;> rfl

/-! ## Conditions -/

/-- The lines of the conditions, one for each. -/
def listing (rs : List ConditionResult) : Spelled :=
  .join "" (rs.map fun r =>
    (match r.success with
      | true => ":white_check_mark:"
      | false => ":x:") ++ " - \x60" ++ r.condition ++ "\x60\n")

theorem conditionLines_eq_listing (rs : List ConditionResult) :
    conditionLines rs = listing rs := by
  induction rs with
  | nil => rfl
  | cons r rs ih =>
      have hline : conditionLines (r :: rs) = conditionLine r ++ conditionLines rs := rfl
      have hlisting : listing (r :: rs) = listing [r] ++ listing rs := by
        rw [listing, ← List.singleton_append, List.map_append, Spelled.join_empty_append]
        rfl
      rw [hline, ih, hlisting]
      obtain ⟨condition, success⟩ := r
      cases success <;> rfl

theorem listing_eq_empty_iff (rs : List ConditionResult) : listing rs = "" ↔ rs = [] := by
  constructor
  · intro h
    cases rs with
    | nil => rfl
    | cons r rs =>
        rw [← conditionLines_eq_listing, Spelled.eq_empty_iff] at h
        have hline : conditionLines (r :: rs) = conditionLine r ++ conditionLines rs := rfl
        simp [hline, conditionLine] at h
  · rintro rfl
    rfl

/-! ## Messages -/

def messageText (name : Spelled) (count : String) : Bool → Spelled
  | true =>
      "An alert for **" ++ name ++ "** has been resolved after passing successfully " ++
        count ++ " time(s) in a row"
  | false =>
      "An alert for **" ++ name ++ "** has been triggered due to having failed " ++
        count ++ " time(s) in a row"

theorem headline_eq_messageText (n : Notification) :
    headline n =
      messageText n.endpoint.displayName (integerText (n.alert.threshold n.resolved))
        n.resolved := by
  have hresolved : "** has been resolved after passing successfully " =
      "** has been " ++ "resolved after passing successfully " := by
    decide
  have htriggered : "** has been triggered due to having failed " =
      "** has been " ++ "triggered due to having failed " := by
    decide
  unfold headline messageText
  cases n.resolved with
  | true => rw [if_pos rfl, hresolved, Spelled.whole_append, ← Spelled.append_assoc]
  | false =>
      rw [if_neg Bool.false_ne_true, htriggered, Spelled.whole_append, ← Spelled.append_assoc]

/-! ## Payloads -/

/-- The fields of an embed: one that lists the conditions, if there are any. -/
def listingFields : List ConditionResult → List (Spelled × Json)
  | [] => []
  | r :: rs =>
      [("fields", .array [.object [("name", .text "Condition results"),
        ("value", .text (listing (r :: rs))), ("inline", .bool false)]])]

theorem conditionFields_eq_listingFields (rs : List ConditionResult) :
    conditionFields rs = listingFields rs := by
  unfold conditionFields
  rw [conditionLines_eq_listing]
  cases rs <;> rfl

/-- A payload is written out from what is set in the alert or in its default, unless the
threshold is too long; the conditions are listed if there are any, which is if their text is not
empty. -/
theorem payload?_withDefaults (p : Provider) (e : Endpoint) (a : Alert) (d : Option Alert)
    (r : CheckResult) (resolved : Bool) :
    p.payload? ⟨e, a.withDefaults d, r, resolved⟩ =
        (if isWritable (chosenThreshold a d resolved) then
          some (.object [("content", .text ""), ("embeds", .array [.object (
            ("title", .text (if p.config.title = "" then ":helmet_with_white_cross: Gatus"
              else p.config.title)) ::
            ("description", .text (
              messageText e.displayName (integerText (chosenThreshold a d resolved)) resolved ++
                (if chosenDescription a d = "" then ""
                else ":\n> " ++ chosenDescription a d : Spelled))) ::
            ("color", .int (if resolved then 3066993 else 15158332)) ::
              listingFields r.conditions)])])
        else none) ∧
      (listing r.conditions = "" ↔ r.conditions = []) := by
  refine ⟨?_, listing_eq_empty_iff r.conditions⟩
  unfold Provider.payload? Discord.payload? payload embed quotation
  rw [headline_eq_messageText]
  simp only [threshold_withDefaults, descriptionText_withDefaults,
    conditionFields_eq_listingFields]
  rfl

theorem ending_sendThrough_of_unwritable {around : Command.Surroundings}
    {log : List Log.Event → String} {p : Provider} {n : Notification}
    (hheld : Command.heldBack? n = none)
    (hroute : (p.route around.env n.endpoint.group).1.isOk = true) (h : p.payload? n = none) :
    (Command.sendThrough around log p n).ending = .crash (.send .unwritable) := by
  unfold Command.sendThrough Provider.send Provider.deliver
  cases hurl : (p.route around.env n.endpoint.group).1 with
  | error f => simp [hurl, Except.isOk, Except.toBool] at hroute
  | ok url =>
      simp only [hheld, hurl, h]
      rfl

/-- A threshold of 4301 digits has no payload, and a test of the channel gives up on it. -/
theorem payload?_longThreshold :
    let p := Provider.ofConfig { webhookUrl := "http://h/" } .owned
    let a : Alert := { failureThreshold := some (Nat.pow 10 4300) }
    let n : Notification := ⟨{ name := "api" }, a.withDefaults none, {}, false⟩
    p.payload? n = none ∧
      ∀ around log,
        (Command.sendThrough around log p n).ending = .crash (.send .unwritable) := by
  intro p a n
  have hlong : isWritable (n.alert.threshold n.resolved) = false := by decide +kernel
  have hnone : p.payload? n = none := by
    unfold Provider.payload? Discord.payload?
    rw [hlong]
    rfl
  exact ⟨hnone, fun around log => ending_sendThrough_of_unwritable rfl rfl hnone⟩

end AlertRelay.Discord
