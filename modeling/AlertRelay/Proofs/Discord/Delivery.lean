import AlertRelay.Proofs.Discord.Routing
import AlertRelay.Proofs.Http.Url

/-!
# What becomes of a notification

A notification is posted once, or its request cannot be formed.  A client of the
provider's own is open for just as long, and the other side is heard only if a
request was made.
-/

namespace AlertRelay.Discord

open AlertRelay.Http AlertRelay.Text

/-! ## Contacts -/

/-- Whether an effect reaches out, unlike a line of the log. -/
def Effect.isContact : Effect → Bool
  | .log _ => false
  | .openClient _ | .request _ | .closeClient => true

def contacts (effects : List Effect) : List Effect := effects.filter (·.isContact)

@[simp] theorem contacts_append (xs ys : List Effect) :
    contacts (xs ++ ys) = contacts xs ++ contacts ys :=
  List.filter_append xs ys

@[simp] theorem contacts_log (events : List Log.Event) : contacts (events.map .log) = [] := by
  simp [contacts, Effect.isContact]

@[simp] theorem contacts_exchangeEffects (client : ClientMode) (requests : List Request) :
    contacts (Provider.exchangeEffects client requests) =
      Provider.exchangeEffects client requests := by
  cases client <;> simp [Provider.exchangeEffects, contacts, Effect.isContact]

/-! ## Faults -/

namespace SendFault

def isUnanswered : SendFault → Bool
  | .rejected _ _ | .unreadable _ => false
  | .undelivered _ | .unencodable | .unwritable => true

/-- Whether a fault belongs to the exchange itself. -/
def isOfExchange : SendFault → Bool
  | .undelivered f => f.kind.isOfExchange
  | .rejected _ _ | .unreadable _ | .unencodable | .unwritable => false

end SendFault

/-! ## Texts of a payload -/

/-- Whether no text that a payload is made of holds half of a pair. -/
structure SaysWhole (title : Spelled) (n : Notification) : Prop where
  title : title.isWhole = true
  displayName : n.endpoint.displayName.isWhole = true
  description : n.alert.descriptionText.isWhole = true
  conditions : ∀ r ∈ n.result.conditions, r.condition.isWhole = true

theorem isWhole_headline (n : Notification) :
    (headline n).isWhole = n.endpoint.displayName.isWhole := by
  unfold headline
  cases n.resolved <;> simp

theorem isWhole_quotation (a : Alert) : (quotation a).isWhole = a.descriptionText.isWhole := by
  unfold quotation
  split
  · rename_i hempty
    rw [hempty]
  · simp

theorem isWhole_conditionLines (rs : List ConditionResult) :
    (conditionLines rs).isWhole = true ↔ ∀ r ∈ rs, r.condition.isWhole = true := by
  induction rs with
  | nil => simp [conditionLines]
  | cons r rs ih =>
      have hlines : conditionLines (r :: rs) = conditionLine r ++ conditionLines rs := rfl
      have hline : (conditionLine r).isWhole = r.condition.isWhole := by
        unfold conditionLine
        simp
      rw [hlines, Spelled.isWhole_append, hline, Bool.and_eq_true, ih, List.forall_mem_cons]

theorem areWholeFields_conditionFields (rs : List ConditionResult) :
    Json.areWholeFields (conditionFields rs) = true ↔ ∀ r ∈ rs, r.condition.isWhole = true := by
  unfold conditionFields
  split
  · simp_all [Json.areWholeFields]
  · rw [← isWhole_conditionLines]
    simp [Json.areWholeFields, Json.areWholeItems, Json.isWhole]

theorem isWhole_payload_iff {title : Spelled} {n : Notification} :
    (payload title n).isWhole = true ↔ SaysWhole title n := by
  have htitle :
      (if title = "" then (defaultTitle : Spelled) else title).isWhole = title.isWhole := by
    split
    · simp_all
    · rfl
  have hwhole : (payload title n).isWhole = true ↔ title.isWhole = true ∧
      (n.endpoint.displayName.isWhole = true ∧ n.alert.descriptionText.isWhole = true) ∧
      Json.areWholeFields (conditionFields n.result.conditions) = true := by
    simp [payload, embed, Json.isWhole, Json.areWholeItems, Json.areWholeFields, htitle,
      isWhole_headline, isWhole_quotation]
  rw [hwhole, areWholeFields_conditionFields]
  constructor
  · rintro ⟨htitle, ⟨hname, hdescription⟩, hconditions⟩
    exact ⟨htitle, hname, hdescription, hconditions⟩
  · intro h
    exact ⟨h.title, ⟨h.displayName, h.description⟩, h.conditions⟩

namespace Provider

variable (p : Provider) (n : Notification) (answer : Answer)

/-! ## Payloads -/

theorem payload?_eq_some_iff {p : Provider} {n : Notification} {body : Json} :
    p.payload? n = some body ↔
      Number.isWritable (n.alert.threshold n.resolved) = true ∧
        payload p.config.title n = body := by
  unfold Provider.payload? Discord.payload?
  split <;> simp_all

theorem payload?_eq_none_iff {p : Provider} {n : Notification} :
    p.payload? n = none ↔ Number.isWritable (n.alert.threshold n.resolved) = false := by
  unfold Provider.payload? Discord.payload?
  split <;> simp_all

/-! ## One exchange -/

variable {body : Json}

theorem exchange_of_whole {u : String} (hbody : body.isWhole = true) :
    exchange n answer (.whole u) body =
      match destination u with
      | .error f => ([], .error (.undelivered f), [])
      | .ok target => ([postRequest target body], outcome n answer) := by
  simp only [exchange, Spelled.whole?_whole, Option.filter_some, hbody, if_true, post]
  cases destination u <;> rfl

theorem exchange_of_not_whole {url : Spelled}
    (h : ¬∃ u, url = .whole u ∧ body.isWhole = true) :
    ∃ f : SendFault, f.isUnanswered = true ∧ f.isOfExchange = false ∧
      exchange n answer url body = ([], .error f, []) := by
  simp only [exchange]
  split
  · rename_i u hu
    obtain ⟨hwhole, hbody⟩ := Option.filter_eq_some_iff.mp hu
    exact absurd ⟨u, Spelled.whole?_eq_some_iff.mp hwhole, by simpa using hbody⟩ h
  · split
    · exact ⟨_, rfl, rfl, rfl⟩
    · exact ⟨_, rfl, rfl, rfl⟩

/-- Whether a request to a webhook can be formed. -/
def CanForm (url : Spelled) : Prop :=
  ∃ u, url = .whole u ∧ Url.Accepted u ∧ SaysWhole p.config.title n

/-- What an exchange can come to: the other side is asked, or the request is not
served, or it cannot be formed. -/
theorem exchange_cases {p : Provider} {n : Notification} (hbody : p.payload? n = some body)
    (answer : Answer) (url : Spelled) :
    (∃ u target, url = .whole u ∧ p.CanForm n url ∧ destination u = .ok target ∧
      exchange n answer url body = ([postRequest target body], outcome n answer)) ∨
    (∃ u f, url = .whole u ∧ p.CanForm n url ∧ destination u = .error f ∧
      f.kind = .unsupportedProtocol ∧
      exchange n answer url body = ([], .error (.undelivered f), [])) ∨
    (¬p.CanForm n url ∧ ∃ f : SendFault, f.isUnanswered = true ∧ f.isOfExchange = false ∧
      exchange n answer url body = ([], .error f, [])) := by
  obtain ⟨-, rfl⟩ := payload?_eq_some_iff.mp hbody
  by_cases hwhole : ∃ u, url = .whole u ∧ (payload p.config.title n).isWhole = true
  case neg =>
    refine .inr (.inr ⟨?_, exchange_of_not_whole n answer hwhole⟩)
    rintro ⟨u, hu, -, hsays⟩
    exact hwhole ⟨u, hu, isWhole_payload_iff.mpr hsays⟩
  obtain ⟨u, rfl, hsays⟩ := hwhole
  rw [exchange_of_whole n answer hsays]
  by_cases haccepted : Url.Accepted u
  · have hform : p.CanForm n (.whole u) :=
      ⟨u, rfl, haccepted, isWhole_payload_iff.mp hsays⟩
    cases hdestination : destination u with
    | ok target => exact .inl ⟨u, target, rfl, hform, hdestination, rfl⟩
    | error f =>
        have hkind := destination_of_accepted haccepted hdestination
        exact .inr (.inl ⟨u, f, rfl, hform, hdestination, hkind, rfl⟩)
  · obtain ⟨f, hf, hkind⟩ := destination_of_not_accepted haccepted
    refine .inr (.inr ⟨?_, .undelivered f, rfl, ?_, by rw [hf]⟩)
    · rintro ⟨u', hu, haccepted', -⟩
      obtain rfl := Spelled.whole_inj.mp hu
      exact haccepted haccepted'
    · simp [SendFault.isOfExchange, hkind, FaultKind.isOfExchange]

theorem outcome_eq_ok_iff :
    (outcome n answer).1 = .ok () ↔ ∃ r, answer = .reply r ∧ r.status < 400 := by
  cases answer with
  | fault f => simp [outcome]
  | reply r => by_cases haccepted : r.status < 400 <;> simp [outcome, Reply.isAccepted, haccepted]

theorem outcome_unanswered {f : SendFault} (hf : (outcome n answer).1 = .error f)
    (hunanswered : f.isUnanswered = true) : ∃ g, answer = .fault g ∧ f = .undelivered g := by
  cases answer with
  | fault g =>
      obtain rfl : SendFault.undelivered g = f := by simpa [outcome] using hf
      exact ⟨g, rfl, rfl⟩
  | reply r =>
      simp only [outcome] at hf
      split at hf
      · simp at hf
      · obtain rfl : refusal r = f := by simpa using hf
        simp only [refusal] at hunanswered
        split at hunanswered <;> simp [SendFault.isUnanswered] at hunanswered

section Exchange

variable {p : Provider} {n : Notification} (hbody : p.payload? n = some body)

include hbody

/-- An exchange succeeds when the other side is asked and accepts. -/
theorem exchange_eq_ok_iff (url : Spelled) :
    (exchange n answer url body).2.1 = .ok () ↔
      (exchange n answer url body).1 ≠ [] ∧ ∃ r, answer = .reply r ∧ r.status < 400 := by
  rcases exchange_cases hbody answer url with
    ⟨u, target, -, -, -, h⟩ | ⟨u, f, -, -, -, -, h⟩ | ⟨-, f, -, -, h⟩
  · simp [h, outcome_eq_ok_iff]
  · simp [h]
  · simp [h]

/-- The requests of an exchange: one at most, to the address of the webhook. -/
theorem exchange_requests (url : Spelled) :
    (exchange n answer url body).1.length ≤ 1 ∧
      ∀ r ∈ (exchange n answer url body).1, ∃ u target, url = .whole u ∧
        destination u = .ok target ∧ r = postRequest target body := by
  rcases exchange_cases hbody answer url with
    ⟨u, target, hu, -, hdestination, h⟩ | ⟨u, f, -, -, -, -, h⟩ | ⟨-, f, -, -, h⟩
  · simp only [h, List.length_cons, List.length_nil, Nat.zero_add, Nat.le_refl, List.mem_singleton,
      forall_eq, true_and]
    exact ⟨u, target, hu, hdestination, rfl⟩
  · simp [h]
  · simp [h]

/-- Without a reply the fault belongs to the exchange, unless the request cannot be
formed.  The network is taken to raise no other faults. -/
theorem exchange_unanswered_iff {answer : Answer}
    (hnetwork : ∀ f, answer = .fault f → f.kind.isOfExchange = true) (url : Spelled) :
    (∀ f, (exchange n answer url body).2.1 = .error f → f.isUnanswered = true →
      f.isOfExchange = true) ↔ p.CanForm n url := by
  rcases exchange_cases hbody answer url with
    ⟨u, target, -, hform, -, h⟩ | ⟨u, f, -, hform, -, hkind, h⟩ | ⟨hform, f, hunanswered, hother, h⟩
  · refine ⟨fun _ => hform, fun _ f hf hunanswered => ?_⟩
    rw [h] at hf
    obtain ⟨g, hg, rfl⟩ := outcome_unanswered n answer hf hunanswered
    exact hnetwork g hg
  · refine ⟨fun _ => hform, fun _ g hg _ => ?_⟩
    obtain rfl : SendFault.undelivered f = g := by simpa [h] using hg
    simp [SendFault.isOfExchange, hkind, FaultKind.isOfExchange]
  · refine ⟨fun hall => ?_, fun hform' => absurd hform' hform⟩
    have := hall f (by rw [h]) hunanswered
    simp [hother] at this

end Exchange

/-! ## One notification -/

theorem deliver_of_payload {p : Provider} {n : Notification} (hbody : p.payload? n = some body)
    (answer : Answer) (url : Spelled) :
    p.deliver n answer (.ok url) =
      ((exchange n answer url body).2.1,
        exchangeEffects p.client (exchange n answer url body).1 ++
          (exchange n answer url body).2.2.map .log) := by
  simp only [deliver, hbody]

theorem deliver_of_no_payload {p : Provider} {n : Notification} (hbody : p.payload? n = none)
    (answer : Answer) (url : Spelled) :
    p.deliver n answer (.ok url) = (.error .unwritable, []) := by
  simp only [deliver, hbody]

variable (env : Environment)

/-- What reaches out when a notification is sent. -/
theorem contacts_send :
    contacts (p.send env n answer).2.2 =
      match (p.route env n.endpoint.group).1, p.payload? n with
      | .ok url, some body => exchangeEffects p.client (exchange n answer url body).1
      | _, _ => [] := by
  simp only [send, contacts_append, contacts_log, List.nil_append]
  cases (p.route env n.endpoint.group).1 with
  | error f => rfl
  | ok url =>
      cases hbody : p.payload? n with
      | none =>
          rw [deliver_of_no_payload hbody]
          rfl
      | some body =>
          rw [deliver_of_payload hbody]
          simp

theorem send_of_route {url : Spelled} (h : (p.route env n.endpoint.group).1 = .ok url)
    (hbody : p.payload? n = some body) :
    (p.send env n answer).1 = (exchange n answer url body).2.1 := by
  simp only [send, h, deliver_of_payload hbody]

theorem send_of_no_route {f : SendFault} (h : (p.route env n.endpoint.group).1 = .error f) :
    (p.send env n answer).1 = .error f := by
  simp only [send, h, deliver]

theorem send_of_no_payload {url : Spelled} (h : (p.route env n.endpoint.group).1 = .ok url)
    (hbody : p.payload? n = none) : (p.send env n answer).1 = .error .unwritable := by
  simp only [send, h, deliver_of_no_payload hbody]

theorem request_mem_exchangeEffects {client : ClientMode} {requests : List Request} {r : Request} :
    Effect.request r ∈ exchangeEffects client requests ↔ r ∈ requests := by
  cases client <;> simp [exchangeEffects]

/-- The requests of sending are those of the exchange with the webhook. -/
theorem request_mem_send {r : Request} :
    Effect.request r ∈ (p.send env n answer).2.2 ↔
      ∃ url body, (p.route env n.endpoint.group).1 = .ok url ∧ p.payload? n = some body ∧
        r ∈ (exchange n answer url body).1 := by
  simp only [send, List.mem_append, List.mem_map]
  cases (p.route env n.endpoint.group).1 with
  | error f => simp [deliver]
  | ok url =>
      cases hbody : p.payload? n with
      | none => simp [deliver_of_no_payload hbody]
      | some body => simp [deliver_of_payload hbody, request_mem_exchangeEffects]

/-- The only fault of routing is that no variable can be asked for. -/
theorem route_eq_error {group : Spelled} {f : SendFault}
    (h : (p.route env group).1 = .error f) : f = .unencodable := by
  simp only [route] at h
  split at h
  · simp at h
  · simp only [resolveDefault] at h
    cases hvalue : (p.webhook.resolve component env).1 with
    | none => simpa [hvalue] using h.symm
    | some url => simp [hvalue] at h

/-- Sending fails within the exchange, if there is no reply, exactly when the
webhook is known, the payload can be written and a request can be formed. -/
theorem send_unanswered_iff (hnetwork : ∀ f, answer = .fault f → f.kind.isOfExchange = true) :
    (∀ f, (p.send env n answer).1 = .error f → f.isUnanswered = true → f.isOfExchange = true) ↔
      ∃ url, (p.route env n.endpoint.group).1 = .ok url ∧
        Number.isWritable (n.alert.threshold n.resolved) = true ∧ p.CanForm n url := by
  cases hroute : (p.route env n.endpoint.group).1 with
  | error f =>
      obtain rfl := p.route_eq_error env hroute
      rw [p.send_of_no_route n answer env hroute]
      refine ⟨fun h => ?_, fun ⟨url, h, _⟩ => by simp at h⟩
      have := h .unencodable rfl rfl
      simp [SendFault.isOfExchange] at this
  | ok url =>
      cases hbody : p.payload? n with
      | none =>
          have hlong := payload?_eq_none_iff.mp hbody
          rw [p.send_of_no_payload n answer env hroute hbody]
          refine ⟨fun h => ?_, fun ⟨_, _, hwritable, _⟩ => by simp [hlong] at hwritable⟩
          have := h .unwritable rfl rfl
          simp [SendFault.isOfExchange] at this
      | some body =>
          have hwritable := (payload?_eq_some_iff.mp hbody).1
          rw [p.send_of_route n answer env hroute hbody, exchange_unanswered_iff hbody hnetwork]
          simp [hwritable]

end Provider

end AlertRelay.Discord
