import AlertRelay.Proofs.Command.SendTest

/-!
# How a test of the channel fails

A test that fails says why and ends with a code of its own, as long as the
failure is one of the exchange or a refusal that can be read.  A request that
cannot be formed is neither, and ends the run without a word.
-/

namespace AlertRelay.Command

open AlertRelay.Text AlertRelay.Discord

/-! ## Faults that are reported -/

/-- Whether a fault is one of those that a message is made for. -/
def IsReported (f : SendFault) : Prop :=
  (∃ status body, f = .rejected status body) ∨ f.isOfExchange = true

/-- What is taken of the network: the faults it raises are those of an exchange. -/
def RaisesOfExchange (answer : Http.Answer) : Prop :=
  ∀ f, answer = .fault f → f.kind.isOfExchange = true

/-- Whether a refusal says why in a text. -/
def RefusesReadably (answer : Http.Answer) : Prop :=
  ∀ reply, answer = .reply reply → 400 ≤ reply.status → ∃ body, reply.text = .ok body

theorem testEnding_exits_iff (n : Notification) (result : Except SendFault Unit) :
    (∃ code, (testEnding n result).1.ending = .exit code) ↔
      ∀ f, result = .error f → IsReported f := by
  cases result with
  | ok u => exact ⟨fun _ f hf => by simp at hf, fun _ => ⟨0, rfl⟩⟩
  | error f =>
      simp only [Except.error.injEq, forall_eq']
      cases f with
      | rejected status body => exact ⟨fun _ => .inl ⟨status, body, rfl⟩, fun _ => ⟨1, rfl⟩⟩
      | unreadable fault => simp [testEnding, IsReported, SendFault.isOfExchange]
      | unencodable => simp [testEnding, IsReported, SendFault.isOfExchange]
      | unwritable => simp [testEnding, IsReported, SendFault.isOfExchange]
      | undelivered fault =>
          cases hkind : fault.kind.isOfExchange <;>
            simp [testEnding, IsReported, SendFault.isOfExchange, hkind, failure]

def IsFailureMessage (f : SendFault) (message : Spelled) : Prop :=
  (∃ status body, f = .rejected status body ∧
    message = "call to provider alert returned status code " ++ Number.integerText status ++
      ": " ++ body) ∨
  ∃ g, f = .undelivered g ∧ message = "could not deliver test alert: " ++ g.message

theorem testEnding_of_error {n : Notification} {f : SendFault} {code : Nat}
    (h : (testEnding n (.error f)).1.ending = .exit code) :
    code = 1 ∧ ∃ message, IsFailureMessage f message ∧
      (testEnding n (.error f)).1.stderr = errorLine message := by
  cases f with
  | rejected status body =>
      obtain rfl : 1 = code := by simpa [testEnding, failure] using h
      exact ⟨rfl, _, .inl ⟨status, body, rfl, rfl⟩, rfl⟩
  | unreadable fault => simp [testEnding] at h
  | unencodable => simp [testEnding] at h
  | unwritable => simp [testEnding] at h
  | undelivered fault =>
      cases hkind : fault.kind.isOfExchange with
      | false => simp [testEnding, hkind] at h
      | true =>
          obtain rfl : 1 = code := by simpa [testEnding, hkind, failure] using h
          exact ⟨rfl, _, .inr ⟨fault, rfl, rfl⟩, by simp [testEnding, hkind, failure]⟩

/-! ## Results of sending -/

variable {s : Surroundings} {c : Config} {p : Provider} {n : Notification} {answer : Http.Answer}

theorem outcome_isReported_iff (hnetwork : RaisesOfExchange answer) :
    (∀ f, (Provider.outcome n answer).1 = .error f → IsReported f) ↔ RefusesReadably answer := by
  cases answer with
  | fault f =>
      refine ⟨fun _ reply h => by simp at h, fun _ g hg => .inr ?_⟩
      obtain rfl : SendFault.undelivered f = g := by simpa [Provider.outcome] using hg
      exact hnetwork f rfl
  | reply r =>
      by_cases haccepted : r.status < 400
      · have hnotRefused : ¬400 ≤ r.status := by omega
        simp [Provider.outcome, Http.Reply.isAccepted, haccepted, RefusesReadably, hnotRefused]
      · have hrefused : 400 ≤ r.status := by omega
        cases htext : r.text <;>
          simp [Provider.outcome, Http.Reply.isAccepted, haccepted, RefusesReadably, hrefused,
            Provider.refusal, htext, IsReported, SendFault.isOfExchange]

/-- Whether every fault of posting to a webhook is reported. -/
def PostsReportably (p : Provider) (n : Notification) (answer : Http.Answer) (url : Spelled) :
    Prop :=
  p.CanForm n url ∧ ∀ u target, url = .whole u → Http.destination u = .ok target →
    RefusesReadably answer

theorem exchange_isReported_iff {body : Json} (hbody : p.payload? n = some body)
    (hnetwork : RaisesOfExchange answer) (url : Spelled) :
    (∀ f, (Provider.exchange n answer url body).2.1 = .error f → IsReported f) ↔
      PostsReportably p n answer url := by
  rcases Provider.exchange_cases hbody answer url with
    ⟨u, target, rfl, hform, htarget, h⟩ | ⟨u, f, rfl, hform, hnone, hkind, h⟩ |
      ⟨hform, f, hunanswered, hother, h⟩
  · rw [h, outcome_isReported_iff hnetwork]
    refine ⟨fun hread => ⟨hform, fun _ _ _ _ => hread⟩, fun hposts => ?_⟩
    exact hposts.2 u target rfl htarget
  · refine ⟨fun _ => ⟨hform, fun u' target hu htarget => ?_⟩, fun _ g hg => .inr ?_⟩
    · obtain rfl := Spelled.whole_inj.mp hu
      simp [hnone] at htarget
    · obtain rfl : SendFault.undelivered f = g := by simpa [h] using hg
      simp [SendFault.isOfExchange, hkind, Http.FaultKind.isOfExchange]
  · refine ⟨fun hall => ?_, fun hposts => absurd hposts.1 hform⟩
    rcases hall f (by rw [h]) with ⟨status, body, rfl⟩ | hexchange
    · simp [SendFault.isUnanswered] at hunanswered
    · simp [hother] at hexchange

/-- Every fault of sending is reported exactly when the webhook is known, the payload can
be written and posting it there is reported. -/
theorem send_isReported_iff (env : Environment) (hnetwork : RaisesOfExchange answer) :
    (∀ f, (p.send env n answer).1 = .error f → IsReported f) ↔
      ∃ url, (p.route env n.endpoint.group).1 = .ok url ∧
        Number.isWritable (n.alert.threshold n.resolved) = true ∧
        PostsReportably p n answer url := by
  cases hroute : (p.route env n.endpoint.group).1 with
  | error f =>
      obtain rfl := p.route_eq_error env hroute
      rw [p.send_of_no_route n answer env hroute]
      simp [IsReported, SendFault.isOfExchange]
  | ok url =>
      cases hbody : p.payload? n with
      | none =>
          have hlong := Provider.payload?_eq_none_iff.mp hbody
          rw [p.send_of_no_payload n answer env hroute hbody]
          simp [IsReported, SendFault.isOfExchange, hlong]
      | some body =>
          have hwritable := (Provider.payload?_eq_some_iff.mp hbody).1
          rw [p.send_of_route n answer env hroute hbody, exchange_isReported_iff hbody hnetwork]
          simp [hwritable]

/-! ## Endings -/

variable {log : List Log.Event → String}

theorem sendThrough_exits_iff (log : List Log.Event → String) (hheld : heldBack? n = none)
    (hnetwork : RaisesOfExchange s.answer) :
    (∃ code, (sendThrough s log p n).ending = .exit code) ↔
      ∃ url, (p.route s.env n.endpoint.group).1 = .ok url ∧
        Number.isWritable (n.alert.threshold n.resolved) = true ∧
        PostsReportably p n s.answer url := by
  obtain ⟨text, hreport⟩ := sendThrough_of_tried (s := s) (p := p) log hheld
  have hending : (sendThrough s log p n).ending =
      (testEnding n (p.send s.env n s.answer).1).1.ending := by
    rw [hreport]
    rfl
  rw [hending, testEnding_exits_iff, send_isReported_iff s.env hnetwork]

theorem sendThrough_ending {code : Nat} (hheld : heldBack? n = none)
    (hcode : (sendThrough s log p n).ending = .exit code) :
    code = 0 ∧ (p.send s.env n s.answer).1 = .ok () ∨
      code = 1 ∧ ∃ f message text, (p.send s.env n s.answer).1 = .error f ∧
        IsFailureMessage f message ∧
        (sendThrough s log p n).stderr = text ++ errorLine message := by
  obtain ⟨text, hreport⟩ := sendThrough_of_tried (s := s) (p := p) log hheld
  rw [hreport] at hcode ⊢
  cases hsend : (p.send s.env n s.answer).1 with
  | ok u =>
      rw [hsend] at hcode
      obtain rfl : 0 = code := by simpa [testEnding, success, Report.after] using hcode
      exact .inl ⟨rfl, rfl⟩
  | error f =>
      rw [hsend] at hcode
      obtain ⟨rfl, message, hmessage, hstderr⟩ := testEnding_of_error hcode
      refine .inr ⟨rfl, f, message, text, rfl, hmessage, ?_⟩
      simp only [Report.after, hstderr]

/-- Sending without a reply fails within the exchange, and a test ends with a code and
a message, exactly when the webhook is known, the payload can be written, a request with
it can be formed and a refusal can be read. -/
theorem failures_reported_iff (hnetwork : RaisesOfExchange s.answer) :
    (∀ (p : Provider) (env : Environment) (n : Notification),
      (∀ f, (p.send env n s.answer).1 = .error f → f.isUnanswered = true →
          f.isOfExchange = true) ↔
        ∃ url, (p.route env n.endpoint.group).1 = .ok url ∧
          Number.isWritable (n.alert.threshold n.resolved) = true ∧ p.CanForm n url) ∧
    ∀ (args : List Spelled) (config : Option Spelled) (name group : Spelled) (resolved : Bool)
      (results : List ConditionResult) (settings : Settings) (c : Config),
      AsksForTest s args config name group resolved (results.map ConditionResult.text) →
      (∀ r ∈ results, r.condition ≠ "") →
      s.load config = .ok settings → settings.discord = some c →
      let p := Provider.ofConfig c .owned
      let n := testNotification name group resolved c.defaultAlert results
      heldBack? n = none →
      ((∃ code, (run s args).ending = .exit code) ↔
        ∃ url, c.webhookFor s.env group = .ok url ∧
          Number.isWritable (n.alert.threshold resolved) = true ∧
          PostsReportably p n s.answer url) ∧
      ∀ code, (run s args).ending = .exit code →
        code = 0 ∧ (p.send s.env n s.answer).1 = .ok () ∨
          code = 1 ∧ ∃ f message text, (p.send s.env n s.answer).1 = .error f ∧
            IsFailureMessage f message ∧ (run s args).stderr = text ++ errorLine message := by
  refine ⟨fun p env n => p.send_unanswered_iff n s.answer env hnetwork, ?_⟩
  intro args config name group resolved results settings c hasks hresults hload hc p n hheld
  obtain ⟨text, hrun⟩ := sendTest_of_conditions name group resolved hload hc hresults
  rw [run_of_asksForTest hasks, hrun]
  constructor
  · have hexits := sendThrough_exits_iff (logText s settings) (p := p) hheld hnetwork
    rw [Provider.route_ofConfig] at hexits
    exact hexits
  · intro code hcode
    rcases sendThrough_ending hheld hcode with
      hsent | ⟨hone, f, message, more, hf, hmessage, hstderr⟩
    · exact .inl hsent
    · refine .inr ⟨hone, f, message, text ++ more, hf, hmessage, ?_⟩
      change text ++ (sendThrough s (logText s settings) p n).stderr = _
      rw [hstderr]
      exact String.append_assoc.symm

def badPortSurroundings : Surroundings where
  env := Environment.ofList [("HEALTHCORD_DISCORD_WEBHOOK_URL", "http://h:x/")]
  files := fun _ => .error .notFound
  answer := .reply ⟨204, none, []⟩
  stamp := ""

/-- A webhook with letters for a port ends the run without a word. -/
theorem run_badPort :
    let run := run badPortSurroundings ["send-test", "--name", "api"]
    AsksForTest badPortSurroundings ["send-test", "--name", "api"] none "api" "" false [] ∧
      (badPortSurroundings.load none).isOk = true ∧
      run.ending = .crash (.send (.undelivered ⟨.invalidUrl, "Invalid port: 'x'"⟩)) ∧
      Http.FaultKind.isOfExchange .invalidUrl = false := by
  refine ⟨⟨?_, ?_⟩, ?_, ?_, ?_⟩ <;> decide +kernel

def unreachableSurroundings : Surroundings :=
  { acceptingSurroundings with answer := .fault ⟨.connect, "refused"⟩ }

theorem failures_reported_unreachable :
    let s := unreachableSurroundings
    let n := testNotification "api" "" false none []
    let run := run s ["send-test", "--name", "api"]
    RaisesOfExchange s.answer ∧ Number.isWritable (n.alert.threshold false) = true ∧
      AsksForTest s ["send-test", "--name", "api"] none "api" "" false [] ∧
      s.load none = .ok acceptingSettings ∧ heldBack? n = none ∧
      run.ending = .exit 1 ∧
      ∃ f message text, IsFailureMessage f message ∧
        run.stderr = text ++ errorLine message := by
  intro s n run
  have hnetwork : RaisesOfExchange s.answer := by
    rintro f hf
    obtain rfl := Http.Answer.fault.inj hf
    rfl
  have hasks : AsksForTest s ["send-test", "--name", "api"] none "api" "" false [] :=
    ⟨by decide +kernel, by decide +kernel⟩
  have hload : s.load none = .ok acceptingSettings := by decide +kernel
  have hheld : heldBack? n = none := by decide +kernel
  have hone : run.ending = .exit 1 := by decide +kernel
  obtain ⟨-, hruns⟩ := failures_reported_iff hnetwork
  obtain ⟨-, hends⟩ := hruns _ _ _ _ _ [] _ { webhookUrl := "http://h/" } hasks (by simp) hload rfl
    hheld
  rcases hends 1 hone with ⟨hzero, -⟩ | ⟨-, f, message, text, -, hmessage, hstderr⟩
  · simp at hzero
  · exact ⟨hnetwork, by decide +kernel, hasks, hload, hheld, hone, f, message, text, hmessage,
      hstderr⟩

end AlertRelay.Command
