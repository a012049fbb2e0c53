import AlertRelay.Proofs.Discord.Change
import AlertRelay.Proofs.Discord.Disclosure

/-!
# What a run is accounted for

Clients, requests, endings and lines of the log stay in step over a run.  A send opens a
client if its provider has none, closes it again and hands over one request, unless the URL is
refused; what it logs and how it ends follow from the reply that is heard.  Which clients are
posted through shows in nothing else.
-/

namespace AlertRelay.Discord

open AlertRelay.Http AlertRelay.Number AlertRelay.Text

/-! ## Effects -/

/-- How many clients are open after some effects, unless one is closed that is not open. -/
def openAfter : Nat → List Effect → Option Nat
  | k, [] => some k
  | k, .openClient _ :: rest => openAfter (k + 1) rest
  | 0, .closeClient :: _ => none
  | k + 1, .closeClient :: rest => openAfter k rest
  | k, .log _ :: rest | k, .request _ :: rest => openAfter k rest

/-- The clients that are opened, by their timeouts. -/
def openedBy (effects : List Effect) : List Nat :=
  effects.filterMap fun
    | .openClient timeout => some timeout
    | _ => none

def requestsOf (effects : List Effect) : List Request :=
  effects.filterMap fun
    | .request r => some r
    | _ => none

def sentName : String := "discord_notification_sent"

def refusedName : String := "discord_non_success_response"

/-- Whether an event tells how an exchange ended. -/
def isVerdict (e : Log.Event) : Bool := e.name = sentName || e.name = refusedName

def Outcome.verdicts (o : Outcome) : List Log.Event := (Command.eventsOf o.effects).filter isVerdict

def Action.isSend : Action → Bool
  | .send _ _ _ => true
  | .route _ | .build _ | .isValid | .config | .defaultAlert => false

def Step.isSend : Step → Bool
  | .act _ a => a.isSend
  | .make _ _ _ | .build _ _ _ | .assign _ _ => false

theorem Step.exists_send {x : Step} (hx : x.isSend = true) :
    ∃ id n answer mergeDefaults, x = .act id (.send n answer mergeDefaults) := by
  cases x with
  | act id a => cases a <;> simp_all [isSend, Action.isSend]
  | make id c client => simp [isSend] at hx
  | build id c client => simp [isSend] at hx
  | assign name value => simp [isSend] at hx

theorem openAfter_append (k : Nat) (xs ys : List Effect) :
    openAfter k (xs ++ ys) = (openAfter k xs).bind (openAfter · ys) := by
  induction xs generalizing k with
  | nil => rfl
  | cons x xs ih =>
      cases x with
      | log event => exact ih k
      | openClient timeout => exact ih (k + 1)
      | request r => exact ih k
      | closeClient =>
          cases k with
          | zero => rfl
          | succ k => exact ih k

@[simp] theorem openAfter_log (k : Nat) (events : List Log.Event) :
    openAfter k (events.map .log) = some k := by
  induction events with
  | nil => rfl
  | cons event events ih => exact ih

@[simp] theorem openAfter_exchangeEffects (k : Nat) (client : ClientMode)
    (requests : List Request) :
    openAfter k (Provider.exchangeEffects client requests) = some k := by
  have hrequests (k : Nat) : openAfter k (requests.map .request) = some k := by
    induction requests with
    | nil => rfl
    | cons r requests ih => exact ih
  cases client with
  | shared => exact hrequests k
  | owned =>
      simp only [Provider.exchangeEffects, List.cons_append, openAfter, openAfter_append, hrequests]
      rfl

@[simp] theorem openedBy_append (xs ys : List Effect) :
    openedBy (xs ++ ys) = openedBy xs ++ openedBy ys :=
  List.filterMap_append

@[simp] theorem openedBy_log (events : List Log.Event) : openedBy (events.map .log) = [] := by
  simp [openedBy, List.filterMap_map]

@[simp] theorem requestsOf_append (xs ys : List Effect) :
    requestsOf (xs ++ ys) = requestsOf xs ++ requestsOf ys :=
  List.filterMap_append

@[simp] theorem requestsOf_log (events : List Log.Event) : requestsOf (events.map .log) = [] := by
  simp [requestsOf, List.filterMap_map]

/-- The clients that a way of posting opens for one notification. -/
def ClientMode.opens : ClientMode → List Nat
  | .shared => []
  | .owned => [Provider.timeoutSeconds]

@[simp] theorem openedBy_exchangeEffects (client : ClientMode) (requests : List Request) :
    openedBy (Provider.exchangeEffects client requests) = client.opens := by
  cases client <;>
    simp [Provider.exchangeEffects, openedBy, ClientMode.opens, List.filterMap_map]

@[simp] theorem requestsOf_exchangeEffects (client : ClientMode) (requests : List Request) :
    requestsOf (Provider.exchangeEffects client requests) = requests := by
  cases client <;>
    simp [Provider.exchangeEffects, requestsOf, List.filterMap_map]

/-! ## One send -/

/-- The reply that is heard when a URL is posted to, if the network answers with one. -/
def heard (url : String) (answer : Answer) : Option Http.Reply :=
  match destination url, answer with
  | .ok _, .reply r => some r
  | .ok _, .fault _ | .error _, _ => none

theorem heard_of_refused {url : String} {f : Http.Fault} (h : destination url = .error f)
    (answer : Answer) : heard url answer = none := by
  simp only [heard, h]

theorem heard_eq_some_iff {url target : String} (h : destination url = .ok target)
    {answer : Answer} {r : Http.Reply} : heard url answer = some r ↔ answer = .reply r := by
  cases answer <;> simp [heard, h]

/-- What is logged about a reply with a status. -/
def verdict (n : Notification) (status : Int) : Log.Event :=
  if status < 400 then
    ⟨Provider.component, .info, sentName, Provider.outcomeFields n status⟩
  else ⟨Provider.component, .warning, refusedName, Provider.outcomeFields n status⟩

/-- The account of a send to a URL: what is handed over, how it ends and what is logged. -/
structure IsAccounted (body : Json) (n : Notification) (answer : Answer) (url : String)
    (o : Outcome) : Prop where
  accepted : ∀ target, destination url = .ok target →
    requestsOf o.effects = [postRequest target body]
  refused : ∀ f, destination url = .error f → requestsOf o.effects = []
  sent_iff : o.reply = .sent ↔ ∃ r, heard url answer = some r ∧ r.status < 400
  rejected_iff : ∀ status (text : Spelled), o.reply = .failed (.rejected status text) ↔
    ∃ r, heard url answer = some r ∧ r.status = status ∧ 400 ≤ status ∧ r.text = .ok text
  undelivered_iff : ∀ f, o.reply = .failed (.undelivered f) ↔
    destination url = .error f ∨ (∃ target, destination url = .ok target) ∧ answer = .fault f
  verdicts : o.verdicts = (heard url answer).toList.map fun r => verdict n r.status

/-- The account of a send whose webhook or payload holds halves of pairs, so that no request can
be made. -/
structure IsUnasked (o : Outcome) : Prop where
  requests : requestsOf o.effects = []
  unanswered : ∃ f : SendFault, o.reply = .failed f ∧ f.isUnanswered = true
  verdicts : o.verdicts = []

/-- The account of a send that comes to an end before there is anything to post. -/
structure IsGivenUp (f : SendFault) (o : Outcome) : Prop where
  reply : o.reply = .failed f
  contacts : contacts o.effects = []
  verdicts : o.verdicts = []

/-- What a send comes to, given the webhook that it is routed to. -/
structure Provider.Accounts (p : Provider) (n : Notification) (answer : Answer)
    (webhook : Except SendFault Spelled) (o : Outcome) : Prop where
  unrouted : ∀ f, webhook = .error f → IsGivenUp f o
  unwritable : ∀ url, webhook = .ok url →
    isWritable (n.alert.threshold n.resolved) = false → IsGivenUp .unwritable o
  opened : ∀ url, webhook = .ok url →
    isWritable (n.alert.threshold n.resolved) = true → openedBy o.effects = p.client.opens
  whole : ∀ url, webhook = .ok (.whole url) →
    isWritable (n.alert.threshold n.resolved) = true → SaysWhole p.config.title n →
      IsAccounted (payload p.config.title n) n answer url o
  broken : ∀ url, webhook = .ok url →
    isWritable (n.alert.threshold n.resolved) = true →
      ¬(url.isWhole = true ∧ SaysWhole p.config.title n) → IsUnasked o

namespace Provider

variable (p : Provider) (n : Notification) (answer : Answer)

theorem isVerdict_of_mem_route {env : Environment} {group : Spelled} {e : Log.Event}
    (he : e ∈ (p.route env group).2.2) : isVerdict e = false := by
  rcases name_of_mem_route he with hname | hname <;>
    simp [isVerdict, hname, sentName, refusedName]

/-- The notification that is sent when the alert of another is filled first. -/
def filled (mergeDefaults : Bool) : Notification :=
  if mergeDefaults then n.withDefaults p.config.defaultAlert else n

theorem act_send (env : Environment) (mergeDefaults : Bool) :
    (p.act env (.send n answer mergeDefaults)).1 =
      (ofConfig p.config p.client).delivered (p.filled n mergeDefaults) answer
        (p.route env n.endpoint.group).1 (p.route env n.endpoint.group).2.2 := by
  rw [act_eq_actAt]
  exact actAt_send _ n answer _ _ mergeDefaults

theorem openAfter_send (env : Environment) (mergeDefaults : Bool) (k : Nat) :
    openAfter k (p.act env (.send n answer mergeDefaults)).1.effects = some k := by
  simp only [act_send, delivered, openAfter_append, openAfter_log, Option.bind_some]
  cases (p.route env n.endpoint.group).1 with
  | error f => rfl
  | ok url =>
      simp only [deliver]
      split
      · rfl
      · simp [openAfter_append]

theorem effects_act (env : Environment) {a : Action} (ha : a.isSend = false) :
    ∃ events : List Log.Event, (p.act env a).1.effects = events.map .log := by
  cases a with
  | route group =>
      refine ⟨(p.route env group).2.2, ?_⟩
      rw [act_eq_actAt]
      simp only [Action.group?, actAt]
      split <;> rfl
  | send n answer mergeDefaults => simp [Action.isSend] at ha
  | build n =>
      refine ⟨[], ?_⟩
      simp only [act]
      split <;> rfl
  | isValid => exact ⟨[], rfl⟩
  | config => exact ⟨[], rfl⟩
  | defaultAlert => exact ⟨[], rfl⟩

theorem rejected_outcome_iff (status : Int) (text : Spelled) :
    (outcome n answer).1 = .error (.rejected status text) ↔
      ∃ r, answer = .reply r ∧ r.status = status ∧ 400 ≤ status ∧ r.text = .ok text := by
  cases answer with
  | fault f => simp [outcome]
  | reply r =>
      by_cases hstatus : r.status < 400
      · simp only [outcome, Reply.isAccepted, hstatus]
        simp
        omega
      · cases htext : r.text <;> simp [outcome, Reply.isAccepted, hstatus, refusal, htext]
        omega

theorem undelivered_outcome_iff (f : Http.Fault) :
    (outcome n answer).1 = .error (.undelivered f) ↔ answer = .fault f := by
  cases answer with
  | fault f => simp [outcome]
  | reply r =>
      by_cases hstatus : r.status < 400 <;> cases htext : r.text <;>
        simp [outcome, Reply.isAccepted, hstatus, refusal, htext]

theorem outcome_reply_snd (r : Http.Reply) :
    (outcome n (.reply r)).2 = [verdict n r.status] := by
  by_cases hstatus : r.status < 400 <;>
    simp [outcome, Reply.isAccepted, hstatus, verdict, sentName, refusedName]

theorem isVerdict_verdict (status : Int) : isVerdict (verdict n status) = true := by
  simp only [isVerdict, verdict]
  split <;> simp

theorem isVerdict_of_mem_deliver {url : Except SendFault Spelled} {e : Log.Event}
    (he : e ∈ Command.eventsOf (p.deliver n answer url).2) : isVerdict e = true := by
  rcases p.deliver_ends n answer url with ⟨-, hsilent⟩ | ⟨-, -, hlogged⟩
  · simp [hsilent] at he
  · rw [hlogged] at he
    cases answer with
    | fault f => simp [outcome] at he
    | reply r =>
        rw [outcome_reply_snd, List.mem_singleton] at he
        rw [he]
        exact isVerdict_verdict n r.status

theorem events_outcome {url target : String} (h : destination url = .ok target) :
    (outcome n answer).2 = (heard url answer).toList.map fun r => verdict n r.status := by
  cases answer with
  | fault f => simp [outcome, heard, h]
  | reply r => simp [outcome_reply_snd, heard, h]

theorem verdicts_delivered (url : Except SendFault Spelled) {lookup : List Log.Event}
    (hlookup : ∀ e ∈ lookup, isVerdict e = false) :
    (p.delivered n answer url lookup).verdicts = Command.eventsOf (p.deliver n answer url).2 := by
  have hsilent : lookup.filter isVerdict = [] := by simpa [List.filter_eq_nil_iff] using hlookup
  have htold : (Command.eventsOf (p.deliver n answer url).2).filter isVerdict =
      Command.eventsOf (p.deliver n answer url).2 := by
    rw [List.filter_eq_self]
    exact fun e he => p.isVerdict_of_mem_deliver n answer he
  simp [Outcome.verdicts, delivered, hsilent, htold]

theorem requestsOf_delivered (url : Except SendFault Spelled) (lookup : List Log.Event) :
    requestsOf (p.delivered n answer url lookup).effects =
      requestsOf (p.deliver n answer url).2 := by
  simp [delivered]

theorem isGivenUp_delivered {url : Except SendFault Spelled} {lookup : List Log.Event}
    {f : SendFault} (h : p.deliver n answer url = (.error f, []))
    (hlookup : ∀ e ∈ lookup, isVerdict e = false) :
    IsGivenUp f (p.delivered n answer url lookup) := by
  constructor
  · simp only [delivered, h]
    rfl
  · simp [delivered, h]
  · rw [p.verdicts_delivered n answer url hlookup, h]
    rfl

section Payload

variable {p : Provider} {n : Notification} {body : Json} (hbody : p.payload? n = some body)

include hbody

theorem openedBy_delivered (url : Spelled) (lookup : List Log.Event) :
    openedBy (p.delivered n answer (.ok url) lookup).effects = p.client.opens := by
  simp [delivered, deliver_of_payload hbody]

theorem isUnasked_delivered {url : Spelled} {lookup : List Log.Event}
    (hhalf : ¬(url.isWhole = true ∧ SaysWhole p.config.title n))
    (hlookup : ∀ e ∈ lookup, isVerdict e = false) :
    IsUnasked (p.delivered n answer (.ok url) lookup) := by
  obtain ⟨-, rfl⟩ := payload?_eq_some_iff.mp hbody
  have hnone : ¬∃ u, url = .whole u ∧ (payload p.config.title n).isWhole = true := by
    rintro ⟨u, hu, hwhole⟩
    exact hhalf ⟨Spelled.isWhole_iff.mpr ⟨u, hu⟩, isWhole_payload_iff.mp hwhole⟩
  obtain ⟨f, hunanswered, -, hexchange⟩ := exchange_of_not_whole n answer hnone
  have hdeliver := deliver_of_payload hbody answer url
  constructor
  · simp [requestsOf_delivered, hdeliver, hexchange]
  · refine ⟨f, ?_, hunanswered⟩
    simp only [delivered, hdeliver, hexchange]
    rfl
  · rw [p.verdicts_delivered n answer (.ok url) hlookup, hdeliver, hexchange]
    simp

theorem isAccounted_delivered {url : String} {lookup : List Log.Event}
    (hwhole : body.isWhole = true) (hlookup : ∀ e ∈ lookup, isVerdict e = false) :
    IsAccounted body n answer url (p.delivered n answer (.ok (.whole url)) lookup) := by
  have hexchange := exchange_of_whole n answer (u := url) hwhole
  have hdeliver := deliver_of_payload hbody answer (.whole url)
  have hreply : (p.delivered n answer (.ok (.whole url)) lookup).reply =
      replyOf (p.deliver n answer (.ok (.whole url))).1 := rfl
  have hrequests := p.requestsOf_delivered n answer (.ok (.whole url)) lookup
  have hverdicts := p.verdicts_delivered n answer (.ok (.whole url)) hlookup
  rw [hdeliver] at hreply hrequests hverdicts
  cases hdestination : destination url with
  -- a URL that is refused, so that no reply is heard
  | error f =>
      simp only [hdestination] at hexchange
      rw [hexchange] at hreply hrequests hverdicts
      have hnone := heard_of_refused hdestination answer
      constructor <;>
        simp [hreply, hrequests, hverdicts, hdestination, hnone, replyOf, eq_comm]
  | ok target =>
      simp only [hdestination] at hexchange
      rw [hexchange] at hreply hrequests hverdicts
      have hends (result : Except SendFault Unit) :
          replyOf (outcome n answer).1 = replyOf result ↔ (outcome n answer).1 = result :=
        replyOf_injective.eq_iff
      constructor
      · simp [hrequests, hdestination]
      · simp [hdestination]
      · rw [hreply]
        refine (hends (.ok ())).trans ?_
        simp only [outcome_eq_ok_iff, heard_eq_some_iff hdestination]
      · intro status text
        rw [hreply]
        refine (hends (.error (.rejected status text))).trans ?_
        simp only [rejected_outcome_iff, heard_eq_some_iff hdestination]
      · intro f
        rw [hreply]
        refine (hends (.error (.undelivered f))).trans ?_
        simp [undelivered_outcome_iff, hdestination]
      · rw [hverdicts, eventsOf_append, eventsOf_exchangeEffects, eventsOf_log, List.nil_append]
        exact events_outcome n answer hdestination

end Payload

theorem accounts_delivered (url : Except SendFault Spelled) {lookup : List Log.Event}
    (hlookup : ∀ e ∈ lookup, isVerdict e = false) :
    p.Accounts n answer url (p.delivered n answer url lookup) where
  unrouted f hurl := by
    subst hurl
    exact p.isGivenUp_delivered n answer rfl hlookup
  unwritable url hurl hlong := by
    subst hurl
    have hbody : p.payload? n = none := payload?_eq_none_iff.mpr hlong
    exact p.isGivenUp_delivered n answer (deliver_of_no_payload hbody answer url) hlookup
  opened url hurl hwritable := by
    subst hurl
    exact openedBy_delivered answer (payload?_eq_some_iff.mpr ⟨hwritable, rfl⟩) url lookup
  whole url hurl hwritable hsays := by
    subst hurl
    have hbody : p.payload? n = some (payload p.config.title n) :=
      payload?_eq_some_iff.mpr ⟨hwritable, rfl⟩
    exact isAccounted_delivered answer hbody (isWhole_payload_iff.mpr hsays) hlookup
  broken url hurl hwritable hhalf := by
    subst hurl
    have hbody : p.payload? n = some (payload p.config.title n) :=
      payload?_eq_some_iff.mpr ⟨hwritable, rfl⟩
    exact isUnasked_delivered answer hbody hhalf hlookup

theorem accounts_act (env : Environment) (mergeDefaults : Bool) :
    p.Accounts (p.filled n mergeDefaults) answer (p.route env n.endpoint.group).1
      (p.act env (.send n answer mergeDefaults)).1 := by
  have hlookup (e) (he : e ∈ (p.route env n.endpoint.group).2.2) := p.isVerdict_of_mem_route he
  rw [act_send]
  -- a provider accounts for what one of its configuration and client does
  exact { (ofConfig p.config p.client).accounts_delivered (p.filled n mergeDefaults) answer
    (p.route env n.endpoint.group).1 hlookup with }

end Provider

/-! ## Clients of another kind -/

def Effect.isOfClient : Effect → Bool
  | .openClient _ | .closeClient => true
  | .log _ | .request _ => false

/-- An outcome without the clients that were opened and closed for it. -/
def Outcome.clientless (o : Outcome) : Outcome :=
  { o with effects := o.effects.filter fun e => !e.isOfClient }

theorem clientless_exchangeEffects (client : ClientMode) (requests : List Request) :
    (Provider.exchangeEffects client requests).filter (fun e => !e.isOfClient) =
      requests.map .request := by
  cases client <;> simp [Provider.exchangeEffects, Effect.isOfClient]

theorem clientless_log (events : List Log.Event) :
    (events.map Effect.log).filter (fun e => !e.isOfClient) = events.map .log := by
  simp [Effect.isOfClient]

/-- What is delivered without the clients does not hang on the kind of client. -/
theorem Provider.clientless_delivered (p : Provider) (n : Notification) (answer : Answer)
    (url : Except SendFault Spelled) (lookup : List Log.Event) (client : ClientMode) :
    ({ p with client := client }.delivered n answer url lookup).clientless =
      (p.delivered n answer url lookup).clientless := by
  cases url with
  | error f => rfl
  | ok url =>
      have hsame : { p with client := client }.payload? n = p.payload? n := rfl
      cases hbody : p.payload? n with
      | none =>
          simp only [delivered, deliver_of_no_payload hbody,
            deliver_of_no_payload (hsame.trans hbody)]
      | some body =>
          simp only [Outcome.clientless, delivered, deliver_of_payload hbody,
            deliver_of_payload (hsame.trans hbody), List.filter_append, clientless_log,
            clientless_exchangeEffects]

/-- The change after which every provider posts through a client that it was given. -/
def sharing : Change where
  client _ := .shared

theorem sharing_isUnseen : sharing.IsUnseen Outcome.clientless where
  webhookUrl _ := rfl
  overrideFor? _ _ := rfl
  isValid _ := rfl
  length _ := rfl
  defaultAlert _ := rfl
  group? _ := rfl
  actAt p url lookup a := by
    cases a with
    | send n answer mergeDefaults =>
        simp only [sharing, id_eq, Provider.actAt_send]
        exact p.clientless_delivered _ answer url lookup .shared
    | route group => rfl
    | build n => rfl
    | isValid => rfl
    | config => rfl
    | defaultAlert => rfl

/-! ## A run -/

namespace Session

variable (s : Session)

/-- Steps that are no sends do nothing but log. -/
theorem effects_step {x : Step} (hx : x.isSend = false) :
    ∃ events : List Log.Event, (s.step x).1.effects = events.map .log := by
  cases x with
  | make id c client => exact ⟨[], rfl⟩
  | build id c client =>
      simp only [step]
      split
      · exact ⟨[], rfl⟩
      · exact ⟨_, rfl⟩
      · exact ⟨_, rfl⟩
  | act id a =>
      simp only [step]
      split
      · exact ⟨[], rfl⟩
      · rename_i p _
        exact p.effects_act s.env hx
  | assign name value => exact ⟨[], rfl⟩

theorem openAfter_step (x : Step) (k : Nat) : openAfter k (s.step x).1.effects = some k := by
  cases hx : x.isSend with
  | false =>
      obtain ⟨events, hevents⟩ := s.effects_step hx
      rw [hevents, openAfter_log]
  | true =>
      obtain ⟨id, n, answer, mergeDefaults, rfl⟩ := x.exists_send hx
      simp only [step]
      split
      · rfl
      · rename_i p _
        exact p.openAfter_send n answer s.env mergeDefaults k

theorem openAfter_run (steps : List Step) (k : Nat) :
    openAfter k ((s.run steps).flatMap (·.effects)) = some k := by
  induction steps generalizing s with
  | nil => rfl
  | cons x steps ih =>
      simp only [run, List.flatMap_cons, openAfter_append, openAfter_step, Option.bind_some, ih]

theorem take_run (steps : List Step) (i : Nat) : (s.run steps).take i = s.run (steps.take i) := by
  induction steps generalizing s i with
  | nil => simp [run]
  | cons x steps ih =>
      cases i with
      | zero => rfl
      | succ i => simp only [run, List.take_succ_cons, ih]

/-- No client is open after any step of a run, and only sends reach out.  A send opens the client
that its provider lacks once the webhook is known, and what it hands over, how it ends and what
it logs follow from its URL and its reply.  The kind of client shows in nothing else. -/
theorem run_accounts (steps : List Step) :
    (∀ i : Nat, openAfter 0 (((s.run steps).take i).flatMap (·.effects)) = some 0) ∧
    (∀ (i : Nat) x o, steps[i]? = some x → x.isSend = false → (s.run steps)[i]? = some o →
      contacts o.effects = []) ∧
    (∀ (i : Nat) id n answer mergeDefaults p,
      steps[i]? = some (.act id (.send n answer mergeDefaults)) →
      (s.after (steps.take i)).providers.lookup id = some p →
      ∃ o, (s.run steps)[i]? = some o ∧
        p.Accounts (p.filled n mergeDefaults) answer
          (p.route (s.after (steps.take i)).env n.endpoint.group).1 o) ∧
    (∀ others : List Step, others.map sharing.step = steps.map sharing.step →
      (s.run others).map Outcome.clientless = (s.run steps).map Outcome.clientless) := by
  refine ⟨fun i => ?_, ?_, ?_, ?_⟩
  · rw [take_run]
    exact s.openAfter_run (steps.take i) 0
  · intro i x o hx hsend ho
    rw [getElem?_run hx] at ho
    obtain rfl := Option.some.inj ho
    obtain ⟨events, hevents⟩ := (s.after (steps.take i)).effects_step hsend
    rw [hevents, contacts_log]
  · intro i id n answer mergeDefaults p hx hp
    refine ⟨_, getElem?_run hx, ?_⟩
    rw [step_act hp]
    exact p.accounts_act n answer _ mergeDefaults
  · exact fun others hothers => (sharing_isUnseen.congr s hothers).2

def testedNotification : Notification where
  endpoint := { name := "api" }

/-- A provider of its own client that is refused, and then not answered. -/
def failingRun : List Step :=
  [.make "a" { webhookUrl := "http://h/" } .owned,
    .act "a" (.send testedNotification (.reply ⟨500, none, [110, 111]⟩) false),
    .act "a" (.send testedNotification (.fault ⟨.readTimeout, "late"⟩) false)]

theorem failingRun_accounts :
    let s := start Environment.empty
    let n := testedNotification
    let request := postRequest "http://h/" (Discord.payload "" n)
    isWritable (n.alert.threshold n.resolved) = true ∧ SaysWhole "" n ∧
      openAfter 0 (((s.run failingRun).take 3).flatMap (·.effects)) = some 0 ∧
      (∃ o, (s.run failingRun)[1]? = some o ∧ openedBy o.effects = [10] ∧
        requestsOf o.effects = [request] ∧ o.reply = .failed (.rejected 500 "no") ∧
        o.verdicts = [verdict n 500]) ∧
      ∃ o, (s.run failingRun)[2]? = some o ∧ openedBy o.effects = [10] ∧
        requestsOf o.effects = [request] ∧
        o.reply = .failed (.undelivered ⟨.readTimeout, "late"⟩) ∧ o.verdicts = [] := by
  intro s n request
  have hwritable : isWritable (n.alert.threshold n.resolved) = true := by decide +kernel
  have hsays : SaysWhole "" n := isWhole_payload_iff.mp (by decide +kernel)
  have hdestination : destination "http://h/" = .ok "http://h/" := by decide +kernel
  obtain ⟨hclosed, -, hsends, -⟩ := s.run_accounts failingRun
  have hfresh : (s.after (failingRun.take 1)).providers.lookup "a" =
      some (.ofConfig { webhookUrl := "http://h/" } .owned) := rfl
  have hused : (s.after (failingRun.take 2)).providers.lookup "a" =
      some ⟨{ webhookUrl := "http://h/" }, ⟨"http://h/", some "http://h/"⟩, .owned⟩ := by
    decide +kernel
  refine ⟨hwritable, hsays, hclosed 3, ?_, ?_⟩
  · obtain ⟨o, ho, haccounts⟩ := hsends 1 "a" n _ false _ rfl hfresh
    have haccount := haccounts.whole "http://h/" rfl hwritable hsays
    have hheard : heard "http://h/" (.reply ⟨500, none, [110, 111]⟩) = some _ :=
      (heard_eq_some_iff hdestination).mpr rfl
    refine ⟨o, ho, haccounts.opened _ rfl hwritable, haccount.accepted _ hdestination, ?_, ?_⟩
    · exact (haccount.rejected_iff 500 "no").mpr ⟨_, hheard, rfl, by decide, by decide +kernel⟩
    · exact haccount.verdicts.trans (by rw [hheard]; rfl)
  · obtain ⟨o, ho, haccounts⟩ := hsends 2 "a" n _ false _ rfl hused
    have haccount := haccounts.whole "http://h/" rfl hwritable hsays
    refine ⟨o, ho, haccounts.opened _ rfl hwritable, haccount.accepted _ hdestination, ?_, ?_⟩
    · exact (haccount.undelivered_iff _).mpr (.inr ⟨⟨_, hdestination⟩, rfl⟩)
    · exact haccount.verdicts.trans (by simp only [heard, hdestination]; rfl)

/-- No client is opened for a webhook that stands for nothing, nor for a threshold that is too
long to be written.  With half of a pair in any text of the payload no request is made to a
good URL, and a refusal that cannot be read is not reported with its text. -/
theorem run_not_accounted :
    let s := start Environment.empty
    let hook : Config := { webhookUrl := "http://h/" }
    let accepted := Answer.reply ⟨204, none, []⟩
    let sending (n : Notification) := Step.act "a" (.send n accepted false)
    let unread := Http.Reply.mk 500 (some "text/plain; charset=utf-32") [65, 0, 0, 0, 233, 0, 0, 0]
    let refusing := Step.act "a" (.send testedNotification (.reply unread) false)
    let titled : Config := { hook with title := ⟨[.half false 0]⟩ }
    let named : Notification := { endpoint := { name := ⟨[.half true 255]⟩ } }
    let long : Notification :=
      { testedNotification with alert := { failureThreshold := some (Nat.pow 10 4300) } }
    (s.run [.make "a" unnamedConfig .owned, sending testedNotification])[1]? =
        some ⟨.failed .unencodable, []⟩ ∧
      (s.run [.make "a" hook .owned, sending long])[1]? = some ⟨.failed .unwritable, []⟩ ∧
      destination "http://h/" = .ok "http://h/" ∧
      (s.run [.make "a" titled .shared, sending testedNotification])[1]?.map
        (requestsOf ·.effects) = some [] ∧
      (s.run [.make "a" hook .shared, sending named])[1]?.map (requestsOf ·.effects) = some [] ∧
      (s.run [.make "a" hook .shared, refusing])[1]?.map (·.reply) =
        some (.failed (.unreadable .unmarked)) := by
  intro s hook accepted sending unread refusing titled named long
  have hlong : (Provider.ofConfig hook .owned).payload? long = none :=
    Provider.payload?_eq_none_iff.mpr (by decide +kernel)
  refine ⟨rfl, ?_, by decide +kernel, by decide +kernel, by decide +kernel, ?_⟩
  · change some (Provider.act s.env (.ofConfig hook .owned) (.send long accepted false)).1 = _
    rw [Provider.act_send]
    change some ((Provider.ofConfig hook .owned).delivered long accepted (.ok "http://h/") []) = _
    simp only [Provider.delivered, Provider.deliver_of_no_payload hlong]
    rfl
  · have hexchange : (Provider.exchange testedNotification (.reply unread) "http://h/"
        (Discord.payload "" testedNotification)).2.1 = .error (.unreadable .unmarked) := by
      decide +kernel
    have hbody : (Provider.ofConfig hook .shared).payload? testedNotification =
        some (Discord.payload "" testedNotification) :=
      Provider.payload?_eq_some_iff.mpr ⟨by decide +kernel, rfl⟩
    change some (Provider.act s.env (.ofConfig hook .shared)
      (.send testedNotification (.reply unread) false)).1.reply = _
    rw [Provider.act_send]
    change some (replyOf ((Provider.ofConfig hook .shared).deliver testedNotification
      (.reply unread) (.ok "http://h/")).1) = _
    rw [Provider.deliver_of_payload hbody, hexchange]
    rfl

end Session

end AlertRelay.Discord
