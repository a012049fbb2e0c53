import AlertRelay.Proofs.Command.SendTest
import AlertRelay.Proofs.Discord.Disclosure
import AlertRelay.Proofs.Log.Console

/-!
# What a test of the channel logs

Every event of a test is one line of the log.  No text can change that, whether it is the
name of the endpoint, the name of a variable or what is told about a failure: lines that are
alike are lines of the same event with the same texts.
-/

namespace AlertRelay.Command

open AlertRelay.Discord AlertRelay.Log AlertRelay.Text

variable {s : Surroundings} {args : List Spelled} {config : Option Spelled} {name group : Spelled}
  {resolved : Bool} {conditions : List Spelled} {settings : Settings} {p : Provider}
  {n : Notification} {e e' : Event}

/-! ## Events in order -/

/-- What is logged while a notification is sent, or held back. -/
def sendingEvents (s : Surroundings) (p : Provider) (n : Notification) : List Event :=
  match heldBack? n with
  | some _ => []
  | none =>
      let (result, _, effects) := p.send s.env n s.answer
      eventsOf effects ++ (testEnding n result).2

def testEvents (s : Surroundings) (settings : Settings) (name group : Spelled) (resolved : Bool)
    (conditions : List Spelled) : List Event :=
  match buildProvider settings.discord .owned with
  | .error _ => []
  | .ok (none, events) => events
  | .ok (some p, events) =>
      match parseConditions conditions with
      | .error _ => events
      | .ok results =>
          events ++ sendingEvents s p
            (testNotification name group resolved p.config.defaultAlert results)

/-- What a test reports besides its log. -/
def testReport (s : Surroundings) (settings : Settings) (name group : Spelled) (resolved : Bool)
    (conditions : List Spelled) : Report :=
  match buildProvider settings.discord .owned with
  | .error f => failure f.message
  | .ok (none, _) => failure "no alert provider configured"
  | .ok (some p, _) =>
      match parseConditions conditions with
      | .error m => misuseReport .sendTest m
      | .ok results =>
          sendThrough s (fun _ => "") p
            (testNotification name group resolved p.config.defaultAlert results)

/-- What a send logs: the lookup of the webhook, and then how the exchange ended. -/
theorem eventsOf_send (p : Provider) (env : Environment) (n : Notification)
    (answer : Http.Answer) :
    eventsOf (p.send env n answer).2.2 =
      (p.route env n.endpoint.group).2.2 ++
        match (p.route env n.endpoint.group).1, p.payload? n with
        | .ok url, some body => (Provider.exchange n answer url body).2.2
        | _, _ => [] := by
  simp only [Provider.send, eventsOf_append, eventsOf_log, List.append_cancel_left_eq]
  cases (p.route env n.endpoint.group).1 with
  | error f => rfl
  | ok url =>
      cases hbody : p.payload? n with
      | none =>
          rw [Provider.deliver_of_no_payload hbody]
          rfl
      | some body =>
          rw [Provider.deliver_of_payload hbody]
          simp

theorem mem_sendingEvents_of_exchange {url : Spelled} {body : Json} (hheld : heldBack? n = none)
    (hroute : (p.route s.env n.endpoint.group).1 = .ok url) (hbody : p.payload? n = some body)
    (he : e ∈ (Provider.exchange n s.answer url body).2.2) : e ∈ sendingEvents s p n := by
  simp only [sendingEvents, hheld, eventsOf_send, hroute, hbody]
  exact List.mem_append_left _ (List.mem_append_right _ he)

theorem Report.after_after (log more : String) (r : Report) :
    (r.after more).after log = r.after (log ++ more) := by
  simp only [Report.after, String.append_assoc]

theorem Report.after_empty (r : Report) : r.after "" = r := by
  simp only [Report.after, String.empty_append]

theorem logText_append (events more : List Event) :
    logText s settings (events ++ more) = logText s settings events ++ logText s settings more := by
  simp only [logText, render_append, Spelled.escaped_append]

theorem sendThrough_eq_after (p : Provider) (n : Notification) :
    sendThrough s (logText s settings) p n =
      (sendThrough s (fun _ => "") p n).after (logText s settings (sendingEvents s p n)) := by
  simp only [sendThrough, sendingEvents]
  cases heldBack? n with
  | some message => exact (Report.after_empty _).symm
  | none => simp [Report.after]

/-- The log of a test is that of its events, and it stands in front of everything else. -/
theorem sendTest_eq_after (hload : s.load config = .ok settings) :
    sendTest s config name group resolved conditions =
      (testReport s settings name group resolved conditions).after
        (logText s settings (testEvents s settings name group resolved conditions)) := by
  simp only [sendTest, hload, testReport, testEvents]
  cases buildProvider settings.discord .owned with
  | error f => exact (Report.after_empty _).symm
  | ok built =>
      obtain ⟨_ | p, events⟩ := built
      · rfl
      · dsimp only
        cases parseConditions conditions with
        | error m => rfl
        | ok results =>
            dsimp only
            rw [logText_append, ← Report.after_after, ← sendThrough_eq_after]

/-! ## The kinds of events -/

inductive IsTestEvent : Event → Prop
  | providerAbsent : IsTestEvent ⟨buildComponent, .info, "no_alert_provider_configured", []⟩
  | providerEnabled (overrides : Int) (hasDefault : Bool) :
      IsTestEvent ⟨buildComponent, .info, "alert_provider_enabled",
        [("provider", .text Provider.name), ("overrides", .int overrides),
          ("default_alert", .bool hasDefault)]⟩
  | secretResolved (variableName : Spelled) :
      IsTestEvent ⟨Provider.component, .debug, "secret_ref_resolved",
        [("env_var", .text variableName)]⟩
  | secretMissing (variableName : Spelled) :
      IsTestEvent ⟨Provider.component, .warning, "secret_ref_env_var_missing",
        [("env_var", .text variableName)]⟩
  | sent (n : Notification) (status : Int) :
      IsTestEvent ⟨Provider.component, .info, "discord_notification_sent",
        Provider.outcomeFields n status⟩
  | refused (n : Notification) (status : Int) :
      IsTestEvent ⟨Provider.component, .warning, "discord_non_success_response",
        Provider.outcomeFields n status⟩
  | rejected (status : Int) :
      IsTestEvent ⟨component, .error, "test_alert_rejected", [("status_code", .int status)]⟩
  | undelivered (message : Spelled) :
      IsTestEvent ⟨component, .error, "test_alert_transport_error", [("error", .text message)]⟩

theorem isTestEvent_of_mem_lookupEvents {raw : Spelled} {env : Environment}
    (he : e ∈ Secret.lookupEvents Provider.component raw env) : IsTestEvent e := by
  simp only [Secret.lookupEvents] at he
  split at he
  · simp at he
  · split at he
    · obtain rfl := List.mem_singleton.mp he
      exact .secretResolved _
    · obtain rfl := List.mem_singleton.mp he
      exact .secretMissing _

theorem isTestEvent_of_mem_route {env : Environment}
    (he : e ∈ (p.route env group).2.2) : IsTestEvent e := by
  simp only [Provider.route] at he
  split at he
  · simp at he
  · simp only [Provider.resolveDefault, Secret.resolve] at he
    split at he
    · simp at he
    · exact isTestEvent_of_mem_lookupEvents he

theorem isTestEvent_of_mem_outcome {answer : Http.Answer}
    (he : e ∈ (Provider.outcome n answer).2) : IsTestEvent e := by
  cases answer with
  | fault f => simp [Provider.outcome] at he
  | reply r =>
      simp only [Provider.outcome] at he
      split at he
      · obtain rfl := List.mem_singleton.mp he
        exact .sent n r.status
      · obtain rfl := List.mem_singleton.mp he
        exact .refused n r.status

theorem isTestEvent_of_mem_testEnding {result : Except SendFault Unit}
    (he : e ∈ (testEnding n result).2) : IsTestEvent e := by
  cases result with
  | ok u => simp [testEnding] at he
  | error f =>
      cases f with
      | rejected status body =>
          obtain rfl := List.mem_singleton.mp he
          exact .rejected status
      | unreadable fault => simp [testEnding] at he
      | unencodable => simp [testEnding] at he
      | unwritable => simp [testEnding] at he
      | undelivered fault =>
          simp only [testEnding] at he
          split at he
          · obtain rfl := List.mem_singleton.mp he
            exact .undelivered fault.message
          · simp at he

theorem isTestEvent_of_mem_exchange {answer : Http.Answer} {url : Spelled} {body : Json}
    (he : e ∈ (Provider.exchange n answer url body).2.2) : IsTestEvent e := by
  simp only [Provider.exchange] at he
  split at he
  · exact isTestEvent_of_mem_outcome he
  · split at he <;> simp at he

theorem isTestEvent_of_mem_send {env : Environment} {answer : Http.Answer}
    (he : e ∈ eventsOf (p.send env n answer).2.2) : IsTestEvent e := by
  rw [eventsOf_send, List.mem_append] at he
  rcases he with hroute | hdelivery
  · exact isTestEvent_of_mem_route hroute
  · split at hdelivery
    · exact isTestEvent_of_mem_exchange hdelivery
    · simp at hdelivery

theorem isTestEvent_of_mem_sendingEvents (he : e ∈ sendingEvents s p n) : IsTestEvent e := by
  simp only [sendingEvents] at he
  split at he
  · simp at he
  · rcases List.mem_append.mp he with hsend | hend
    · exact isTestEvent_of_mem_send hsend
    · exact isTestEvent_of_mem_testEnding hend

theorem isTestEvent_of_mem_build {found : Option Config} {provider : Option Provider}
    {events : List Event} (hbuild : buildProvider found .owned = .ok (provider, events))
    (he : e ∈ events) : IsTestEvent e := by
  cases found with
  | none =>
      obtain ⟨-, rfl⟩ : _ ∧ _ = events := by simpa [buildProvider] using hbuild
      obtain rfl := List.mem_singleton.mp he
      exact .providerAbsent
  | some c =>
      simp only [buildProvider] at hbuild
      split at hbuild
      · obtain ⟨-, rfl⟩ : _ ∧ _ = events := by simpa using hbuild
        obtain rfl := List.mem_singleton.mp he
        exact .providerEnabled _ _
      · cases hbuild

theorem isTestEvent_of_mem_testEvents
    (he : e ∈ testEvents s settings name group resolved conditions) : IsTestEvent e := by
  simp only [testEvents] at he
  split at he
  · simp at he
  · rename_i hbuild
    exact isTestEvent_of_mem_build hbuild he
  · rename_i p events hbuild
    split at he
    · exact isTestEvent_of_mem_build hbuild he
    · rcases List.mem_append.mp he with hbuilt | hsending
      · exact isTestEvent_of_mem_build hbuild hbuilt
      · exact isTestEvent_of_mem_sendingEvents hsending

/-! ## Fields -/

def textKeys : List Spelled := ["provider", "env_var", "endpoint", "error"]

/-- The keys of numbers and truth values. -/
def measureKeys : List Spelled := ["overrides", "default_alert", "status_code", "resolved"]

/-- Whether a field is a text under a key of texts, or a measure under one of measures. -/
def HasKind : Spelled × Json → Prop
  | (key, .text _) => key ∈ textKeys
  | (key, .int _) | (key, .bool _) => key ∈ measureKeys
  | _ => False

theorem HasKind.isScalar {f : Spelled × Json} (h : HasKind f) : IsScalar f.2 := by
  obtain ⟨key, v⟩ := f
  cases v with
  | text _ | bool _ | int _ => trivial
  | null | float _ | array _ | object _ => exact h.elim

theorem HasKind.mem_keys {f : Spelled × Json} (h : HasKind f) :
    f.1 ∈ textKeys ++ measureKeys := by
  obtain ⟨key, v⟩ := f
  cases v with
  | text _ => exact List.mem_append_left _ h
  | bool _ | int _ => exact List.mem_append_right _ h
  | null | float _ | array _ | object _ => exact h.elim

theorem HasKind.isText_iff {f : Spelled × Json} (h : HasKind f) :
    (∃ text, f.2 = .text text) ↔ f.1 ∈ textKeys := by
  have hdisjoint : ∀ key ∈ measureKeys, key ∉ textKeys := by decide
  obtain ⟨key, v⟩ := f
  cases v with
  | text text => exact ⟨fun _ => h, fun _ => ⟨text, rfl⟩⟩
  | bool _ | int _ => simpa using hdisjoint key h
  | null | float _ | array _ | object _ => exact h.elim

theorem IsTestEvent.hasKind (h : IsTestEvent e) : ∀ f ∈ e.fields, HasKind f := by
  cases h <;> simp [HasKind, Provider.outcomeFields, textKeys, measureKeys]

theorem IsTestEvent.distinct (h : IsTestEvent e) : (e.fields.map Prod.fst).Nodup := by
  cases h <;> simp [Provider.outcomeFields]

theorem IsTestEvent.name_plain (h : IsTestEvent e) :
    .char ' ' ∉ e.name.points ∧ .char '\n' ∉ e.name.points := by
  cases h <;> simp

theorem IsTestEvent.isFlat (h : IsTestEvent e) : e.IsFlat := by
  have hplain : ∀ key ∈ textKeys ++ measureKeys,
      .char '=' ∉ key.points ∧ .char '\n' ∉ key.points := by decide
  have hfree : ∀ key ∈ textKeys ++ measureKeys, key ∉ takenKeys := by decide
  refine ⟨h.name_plain, h.distinct, fun key htaken hkey => ?_, fun f hf => ?_⟩
  · obtain ⟨f, hf, rfl⟩ := List.mem_map.mp hkey
    exact hfree f.1 (h.hasKind f hf).mem_keys htaken
  · exact ⟨hplain f.1 (h.hasKind f hf).mem_keys, (h.hasKind f hf).isScalar⟩

theorem IsTestEvent.hasTextsAt (h : IsTestEvent e) : e.HasTextsAt textKeys :=
  fun f hf => (h.hasKind f hf).isText_iff

/-! ## The log of a test -/

def acceptedEvent (displayName : Spelled) : Event :=
  ⟨Provider.component, .info, "discord_notification_sent",
    Provider.outcomeFields (testNotification displayName "" false none []) 204⟩

end AlertRelay.Command
