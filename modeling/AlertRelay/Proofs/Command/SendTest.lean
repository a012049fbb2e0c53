import AlertRelay.Proofs.Conditions
import AlertRelay.Proofs.Discord.Delivery
import AlertRelay.Proofs.Settings.Loading

/-!
# How a test of the channel runs

A test is made in a fixed order: the settings are loaded, the provider is built,
the conditions are read, the alert decides whether anything is to be sent, and
only then is the other side asked.  The first of these that fails ends the run.
-/

namespace AlertRelay.Command

open AlertRelay.Text AlertRelay.Discord

variable {s : Surroundings} {args : List Spelled} {config : Option Spelled} {name group : Spelled}
  {resolved : Bool} {conditions : List Spelled} {settings : Settings} {c : Config}

/-- What a run did to the world outside, the log apart. -/
def Report.contacts (r : Report) : List Effect := Discord.contacts r.effects

/-! ## Up to the provider -/

/-- A run that no shell asks, and whose arguments ask for a test. -/
structure AsksForTest (s : Surroundings) (args : List Spelled) (config : Option Spelled)
    (name group : Spelled) (resolved : Bool) (conditions : List Spelled) : Prop where
  noQuestion : Settings.assigned? s.env completionVariable = none
  arguments : readArguments s.files args = .ok (.sendTest config name group resolved conditions)

theorem run_of_asksForTest (h : AsksForTest s args config name group resolved conditions) :
    run s args = sendTest s config name group resolved conditions := by
  simp only [run, h.noQuestion, runArguments, h.arguments, perform]

theorem sendTest_of_no_discord (name group : Spelled) (resolved : Bool)
    (conditions : List Spelled) (hload : s.load config = .ok settings)
    (hnone : settings.discord = none) :
    ∃ log, sendTest s config name group resolved conditions =
      (failure "no alert provider configured").after log := by
  simp only [sendTest, hload, hnone, buildProvider]
  exact ⟨_, rfl⟩

theorem sendTest_of_discord (name group : Spelled) (resolved : Bool)
    (conditions : List Spelled) (hload : s.load config = .ok settings)
    (hc : settings.discord = some c) :
    ∃ log, sendTest s config name group resolved conditions =
      Report.after log
        (match parseConditions conditions with
         | .error m => misuseReport .sendTest m
         | .ok results =>
             sendThrough s (logText s settings) (.ofConfig c .owned)
               (testNotification name group resolved c.defaultAlert results)) := by
  have hvalid := Settings.load_isValid hload hc
  simp only [sendTest, hload, hc, buildProvider, hvalid, if_true]
  exact ⟨_, rfl⟩

/-! ## From the provider on -/

theorem heldBack?_eq_none_iff (n : Notification) :
    heldBack? n = none ↔
      n.alert.isEnabled = true ∧ (n.resolved = true → n.alert.isSendingOnResolved = true) := by
  cases henabled : n.alert.isEnabled <;> cases hresolved : n.resolved <;>
    cases hsending : n.alert.isSendingOnResolved <;> simp [heldBack?, henabled, hresolved, hsending]

theorem sendThrough_of_heldBack {log : List Log.Event → String} {p : Provider} {n : Notification}
    (h : heldBack? n ≠ none) :
    (sendThrough s log p n).ending = .exit 0 ∧ (sendThrough s log p n).contacts = [] := by
  obtain ⟨message, hmessage⟩ := Option.ne_none_iff_exists'.mp h
  simp only [sendThrough, hmessage]
  exact ⟨rfl, rfl⟩

theorem sendThrough_of_tried (log : List Log.Event → String) {p : Provider} {n : Notification}
    (hheld : heldBack? n = none) :
    ∃ text, sendThrough s log p n =
      { (testEnding n (p.send s.env n s.answer).1).1.after text with
        effects := (p.send s.env n s.answer).2.2 } := by
  simp only [sendThrough, hheld]
  exact ⟨_, rfl⟩

def sentLine (n : Notification) : Spelled :=
  "test alert sent for " ++ n.endpoint.displayName ++ "\n"

theorem testEnding_succeeds_iff (n : Notification) (result : Except SendFault Unit) :
    (testEnding n result).1.ending = .exit 0 ∧
        (testEnding n result).1.stdout = plain (sentLine n).shown ↔
      result = .ok () := by
  cases result with
  | ok u => exact ⟨fun _ => rfl, fun _ => ⟨rfl, rfl⟩⟩
  | error f =>
      refine ⟨fun h => absurd h.1 ?_, by simp⟩
      cases f with
      | rejected status body => simp [testEnding, failure]
      | unreadable fault => simp [testEnding]
      | unencodable => simp [testEnding]
      | unwritable => simp [testEnding]
      | undelivered fault =>
          simp only [testEnding]
          split <;> simp [failure]

/-! ## The whole run -/

theorem sendTest_of_malformed (hload : s.load config = .ok settings)
    (hc : settings.discord = some c) (hmalformed : ∃ text ∈ conditions, ¬IsCondition text) :
    (sendTest s config name group resolved conditions).ending = .exit 2 ∧
      (sendTest s config name group resolved conditions).contacts = [] := by
  obtain ⟨log, hrun⟩ := sendTest_of_discord name group resolved conditions hload hc
  obtain ⟨text, -, hparse⟩ := parseConditions_of_malformed hmalformed
  rw [hrun, hparse]
  exact ⟨rfl, rfl⟩

theorem sendTest_of_conditions (name group : Spelled) (resolved : Bool)
    {results : List ConditionResult}
    (hload : s.load config = .ok settings) (hc : settings.discord = some c)
    (hresults : ∀ r ∈ results, r.condition ≠ "") :
    ∃ log, sendTest s config name group resolved (results.map ConditionResult.text) =
      (sendThrough s (logText s settings) (.ofConfig c .owned)
        (testNotification name group resolved c.defaultAlert results)).after log := by
  obtain ⟨log, hrun⟩ := sendTest_of_discord name group resolved
    (results.map ConditionResult.text) hload hc
  refine ⟨log, ?_⟩
  rw [hrun, parseConditions_map_text hresults]

/-- A notification that is tried opens one client, asks the other side at most once,
and succeeds just when it is accepted there. -/
theorem sendThrough_of_route {log : List Log.Event → String} {n : Notification} {url : Spelled}
    (hheld : heldBack? n = none)
    (hwritable : Number.isWritable (n.alert.threshold n.resolved) = true)
    (hroute : c.webhookFor s.env n.endpoint.group = .ok url) :
    let report := sendThrough s log (.ofConfig c .owned) n
    ∃ requests : List Http.Request,
      report.contacts = .openClient 10 :: requests.map .request ++ [.closeClient] ∧
      requests.length ≤ 1 ∧
      (∀ r ∈ requests, ∃ u target, url = .whole u ∧ Http.destination u = .ok target ∧
        r = Http.postRequest target (payload c.title n)) ∧
      (report.ending = .exit 0 ∧ report.stdout = plain (sentLine n).shown ↔
        requests ≠ [] ∧ ∃ reply, s.answer = .reply reply ∧ reply.status < 400) := by
  intro report
  have hbody : (Provider.ofConfig c .owned).payload? n = some (payload c.title n) :=
    Provider.payload?_eq_some_iff.mpr ⟨hwritable, rfl⟩
  have hroute' : ((Provider.ofConfig c .owned).route s.env n.endpoint.group).1 = .ok url := by
    rw [Provider.route_ofConfig, hroute]
  obtain ⟨text, hreport⟩ := sendThrough_of_tried (s := s) (p := .ofConfig c .owned) log hheld
  have hcontacts := (Provider.ofConfig c .owned).contacts_send n s.answer s.env
  obtain ⟨hlength, hrequests⟩ := Provider.exchange_requests s.answer hbody url
  refine ⟨(Provider.exchange n s.answer url (payload c.title n)).1, ?_, hlength, hrequests, ?_⟩
  · rw [hroute', hbody] at hcontacts
    simp only [report, hreport, Report.contacts, hcontacts]
    rfl
  · rw [← Provider.exchange_eq_ok_iff s.answer hbody,
      ← Provider.send_of_route _ n s.answer s.env hroute' hbody, ← testEnding_succeeds_iff n]
    simp only [report, hreport]
    rfl

/-- How a test runs, from the settings to the last answer. -/
theorem run_sendTest (hasks : AsksForTest s args config name group resolved conditions)
    (hload : s.load config = .ok settings) :
    let report := run s args
    (settings.discord = none → report.ending = .exit 1 ∧ report.contacts = []) ∧
    ∀ c, settings.discord = some c →
      ((∃ text ∈ conditions, ¬IsCondition text) →
        report.ending = .exit 2 ∧ report.contacts = []) ∧
      ∀ results : List ConditionResult, (∀ r ∈ results, r.condition ≠ "") →
        conditions = results.map ConditionResult.text →
        let a := testAlert.withDefaults c.defaultAlert
        let n := testNotification name group resolved c.defaultAlert results
        (a.isEnabled = false ∨ resolved = true ∧ a.isSendingOnResolved = false →
          report.ending = .exit 0 ∧ report.contacts = []) ∧
        (a.isEnabled = true → (resolved = true → a.isSendingOnResolved = true) →
          Number.isWritable (a.threshold resolved) = true →
          ∀ url, c.webhookFor s.env group = .ok url →
            ∃ requests : List Http.Request,
              report.contacts = .openClient 10 :: requests.map .request ++ [.closeClient] ∧
              requests.length ≤ 1 ∧
              (∀ r ∈ requests, ∃ u target, url = .whole u ∧ Http.destination u = .ok target ∧
                r = Http.postRequest target (payload c.title n)) ∧
              (report.ending = .exit 0 ∧ report.stdout = plain (sentLine n).shown ↔
                requests ≠ [] ∧ ∃ reply, s.answer = .reply reply ∧ reply.status < 400)) := by
  intro report
  have hreport : report = sendTest s config name group resolved conditions :=
    run_of_asksForTest hasks
  rw [hreport]
  refine ⟨fun hnone => ?_, fun c hc => ⟨sendTest_of_malformed hload hc, ?_⟩⟩
  · obtain ⟨log, hrun⟩ := sendTest_of_no_discord name group resolved conditions hload hnone
    rw [hrun]
    exact ⟨rfl, rfl⟩
  · rintro results hresults rfl a n
    obtain ⟨log, hrun⟩ := sendTest_of_conditions name group resolved hload hc hresults
    have hheld := heldBack?_eq_none_iff n
    rw [hrun]
    refine ⟨fun hback => ?_, fun henabled hsending hwritable url hroute => ?_⟩
    · have hne : heldBack? n ≠ none := by
        rw [ne_eq, hheld]
        rintro ⟨henabled, hsending⟩
        rcases hback with hoff | ⟨hresolved, hoff⟩
        · exact absurd (henabled.symm.trans hoff) (by simp)
        · exact absurd ((hsending hresolved).symm.trans hoff) (by simp)
      exact sendThrough_of_heldBack hne
    · exact sendThrough_of_route (hheld.mpr ⟨henabled, hsending⟩) hwritable hroute

/-! ## Runs that are seen through -/

def acceptingSurroundings : Surroundings where
  env := Environment.ofList [("HEALTHCORD_DISCORD_WEBHOOK_URL", "http://h/")]
  files := fun _ => .error .notFound
  answer := .reply ⟨204, none, []⟩
  stamp := ""

def acceptingSettings : Settings where
  discord := some { webhookUrl := "http://h/" }

def acceptedArguments : List Spelled :=
  ["send-test", "--name", "api", "--group=core", "--condition", "[STATUS] == 200:ok"]

theorem run_sendTest_accepted :
    let s := acceptingSurroundings
    let n := testNotification "api" "core" false none [⟨"[STATUS] == 200", true⟩]
    let report := run s acceptedArguments
    AsksForTest s acceptedArguments none "api" "core" false ["[STATUS] == 200:ok"] ∧
      s.load none = .ok acceptingSettings ∧
      ∃ requests : List Http.Request,
        report.contacts = .openClient 10 :: requests.map .request ++ [.closeClient] ∧
        requests.length ≤ 1 ∧
        (report.ending = .exit 0 ∧ report.stdout = plain (sentLine n).shown ↔
          requests ≠ [] ∧ ∃ reply, s.answer = .reply reply ∧ reply.status < 400) := by
  intro s n report
  have hasks : AsksForTest s acceptedArguments none "api" "core" false ["[STATUS] == 200:ok"] :=
    ⟨by decide +kernel, by decide +kernel⟩
  have hload : s.load none = .ok acceptingSettings := by decide +kernel
  obtain ⟨-, hdiscord⟩ := run_sendTest hasks hload
  obtain ⟨-, hconditions⟩ := hdiscord { webhookUrl := "http://h/" } rfl
  obtain ⟨-, htried⟩ := hconditions [⟨"[STATUS] == 200", true⟩] (by decide) (by decide)
  obtain ⟨requests, hcontacts, hlength, -, hends⟩ :=
    htried rfl (by simp) (by decide +kernel) "http://h/" rfl
  exact ⟨hasks, hload, requests, hcontacts, hlength, hends⟩

/-- Surroundings with a webhook that refers to a variable named by half a pair. -/
def halfPairSurroundings : Surroundings where
  env := Environment.empty
  files := fun _ => .ok (.file
    ("alerting: \x7bdiscord: \x7bwebhook-url: \"$\\ud800\"\x7d\x7d".toList.flatMap
      String.utf8EncodeChar))
  answer := .reply ⟨204, none, []⟩
  stamp := ""

/-- A name that holds a command to a terminal is not written as it is, and a webhook
that refers to no variable is never posted to. -/
theorem run_sendTest_not_as_written :
    let s := acceptingSurroundings
    let colored := run s ["send-test", "--name", "\x1b[31mapi"]
    let lost := run halfPairSurroundings ["send-test", "--name", "api", "--config", "c.yaml"]
    AsksForTest s ["send-test", "--name", "\x1b[31mapi"] none "\x1b[31mapi" "" false [] ∧
      s.load none = .ok acceptingSettings ∧
      colored.contacts.length = 3 ∧ colored.ending = .exit 0 ∧
      colored.stdout = "test alert sent for api\n" ∧
      colored.stdout ≠ (sentLine (testNotification "\x1b[31mapi" "" false none [])).shown ∧
      (halfPairSurroundings.load (some "c.yaml")).isOk = true ∧
      lost.contacts.length = 0 ∧ lost.ending = .crash (.send .unencodable) := by
  refine ⟨⟨?_, ?_⟩, ?_, ?_, ?_, ?_, ?_, ?_, ?_, ?_⟩ <;> decide +kernel

end AlertRelay.Command
