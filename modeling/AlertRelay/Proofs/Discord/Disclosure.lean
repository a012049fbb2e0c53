import Mathlib.Data.List.Forall2
import AlertRelay.Command.Run
import AlertRelay.Proofs.Discord.Delivery
import AlertRelay.Proofs.Discord.Session

/-!
# What a run discloses

Two runs of the same steps are set side by side, in environments that may differ in the
values of variables, but not in which variables there are.  What is logged and what is
answered then differs in nothing but the address that is routed to, as long as the sends
of the two runs end alike.
-/

namespace AlertRelay

/-- Environments in which the same variables are set. -/
def Environment.SameNames (env env' : Environment) : Prop :=
  ∀ name, (env name).isSome = (env' name).isSome

theorem Environment.SameNames.assign {env env' : Environment} (h : env.SameNames env')
    (name : Text.Spelled) (value : Option Text.Spelled) :
    (env.assign name value).SameNames (env'.assign name value) := by
  intro other
  cases hother : sameName other name with
  | true => simp [Environment.assign_of_sameName hother]
  | false => simpa [Environment.assign_of_not_sameName hother] using h other

theorem Secret.lookupEvents_eq {env env' : Environment} (h : env.SameNames env')
    (component : String) (raw : Text.Spelled) :
    lookupEvents component raw env = lookupEvents component raw env' := by
  simp only [lookupEvents]
  split
  · rfl
  · rw [h]

/-- Whether there is a variable to ask for does not hang on the environment. -/
theorem Secret.isSome_valueOf (raw : Text.Spelled) (env env' : Environment) :
    (valueOf raw env).isSome = (valueOf raw env').isSome := by
  have hiff : valueOf raw env = none ↔ valueOf raw env' = none :=
    valueOf_eq_none_iff.trans valueOf_eq_none_iff.symm
  cases h : valueOf raw env <;> cases h' : valueOf raw env' <;> simp_all

theorem Secret.isResolved_resolve (s : Secret) (component : String) (env : Environment) :
    (s.resolve component env).2.1.isResolved = (s.resolve component env).1.isSome ∧
      (s.resolve component env).2.1.raw = s.raw := by
  cases hs : s.value <;> simp [resolve, isResolved, hs]

namespace Discord

open AlertRelay.Http AlertRelay.Text

/-! ## What is seen -/

/-- An answer without the address that is routed to. -/
def Reply.withoutUrl : Reply → Reply
  | .url _ => .url ""
  | reply => reply

/-- What an outcome shows: the answer without an address, and the log. -/
def Outcome.disclosed (o : Outcome) : Reply × List Log.Event :=
  (o.reply.withoutUrl, Command.eventsOf o.effects)

def Outcome.hasRequest (o : Outcome) : Bool :=
  o.effects.any fun
    | .request _ => true
    | _ => false

/-- How a send ended: with a response of the other side, or else with an answer. -/
inductive SendEnd where
  | response (r : Http.Reply)
  | noResponse (reply : Reply)
  deriving Repr

/-- How a send ended, given what the network answers if it is asked. -/
def Outcome.sendEnd (o : Outcome) : Answer → SendEnd
  | .reply r => if o.hasRequest then .response r else .noResponse o.reply
  | .fault _ => .noResponse o.reply

theorem Outcome.sendEnd_of_request {o : Outcome} {r : Http.Reply} (h : o.hasRequest = true) :
    o.sendEnd (.reply r) = .response r := by
  simp only [sendEnd, h, if_true]

@[simp] theorem eventsOf_append (xs ys : List Effect) :
    Command.eventsOf (xs ++ ys) = Command.eventsOf xs ++ Command.eventsOf ys :=
  List.filterMap_append

@[simp] theorem eventsOf_log (events : List Log.Event) :
    Command.eventsOf (events.map .log) = events := by
  simp [Command.eventsOf, List.filterMap_map]

@[simp] theorem eventsOf_exchangeEffects (client : ClientMode) (requests : List Request) :
    Command.eventsOf (Provider.exchangeEffects client requests) = [] := by
  cases client <;> simp [Provider.exchangeEffects, Command.eventsOf]

/-! ## One send -/

def replyOf : Except SendFault Unit → Reply
  | .ok () => .sent
  | .error f => .failed f

theorem replyOf_injective : Function.Injective replyOf := by
  intro x y h
  rcases x with f | ⟨⟩ <;> rcases y with g | ⟨⟩ <;> simp_all [replyOf]

@[simp] theorem withoutUrl_replyOf (result : Except SendFault Unit) :
    (replyOf result).withoutUrl = replyOf result := by
  cases result <;> rfl

/-- What a send shows that ended in some way, the lookup of the webhook apart. -/
def SendEnd.shows (n : Notification) : SendEnd → Reply × List Log.Event
  | .response r => (replyOf (Provider.outcome n (.reply r)).1, (Provider.outcome n (.reply r)).2)
  | .noResponse reply => (reply.withoutUrl, [])

namespace Provider

variable (p : Provider) (n : Notification) (answer : Answer)

/-- What comes of a notification with a webhook, after what was logged on the way to it. -/
def delivered (url : Except SendFault Spelled) (lookup : List Log.Event) : Outcome :=
  ⟨replyOf (p.deliver n answer url).1, lookup.map .log ++ (p.deliver n answer url).2⟩

theorem actAt_send (url : Except SendFault Spelled) (lookup : List Log.Event)
    (mergeDefaults : Bool) :
    p.actAt url lookup (.send n answer mergeDefaults) =
      p.delivered (if mergeDefaults then n.withDefaults p.config.defaultAlert else n) answer url
        lookup := by
  simp only [actAt, delivered]
  generalize p.deliver _ answer url = delivery
  obtain ⟨result, effects⟩ := delivery
  cases result <;> rfl

/-- What is delivered without a request logs nothing; anything else ends as it is answered. -/
theorem deliver_ends (url : Except SendFault Spelled) :
    (¬(∃ r, Effect.request r ∈ (p.deliver n answer url).2) ∧
        Command.eventsOf (p.deliver n answer url).2 = []) ∨
      ((∃ r, Effect.request r ∈ (p.deliver n answer url).2) ∧
        (p.deliver n answer url).1 = (outcome n answer).1 ∧
        Command.eventsOf (p.deliver n answer url).2 = (outcome n answer).2) := by
  cases url with
  | error f => exact .inl ⟨by simp [deliver], rfl⟩
  | ok url =>
      cases hbody : p.payload? n with
      | none =>
          rw [deliver_of_no_payload hbody]
          exact .inl ⟨by simp, rfl⟩
      | some body =>
          rw [deliver_of_payload hbody]
          rcases exchange_cases hbody answer url with
            ⟨u, target, -, -, -, h⟩ | ⟨u, f, -, -, -, -, h⟩ | ⟨-, f, -, -, h⟩
          · exact .inr (by simp [h, request_mem_exchangeEffects])
          · exact .inl (by simp [h, request_mem_exchangeEffects])
          · exact .inl (by simp [h, request_mem_exchangeEffects])

theorem hasRequest_delivered (url : Except SendFault Spelled) (lookup : List Log.Event) :
    (p.delivered n answer url lookup).hasRequest = true ↔
      ∃ r, Effect.request r ∈ (p.deliver n answer url).2 := by
  simp only [Outcome.hasRequest, delivered, List.any_append, List.any_map, Bool.or_eq_true,
    List.any_eq_true]
  constructor
  · rintro (⟨e, -, he⟩ | ⟨effect, heffect, he⟩)
    · simp at he
    · cases effect with
      | request r => exact ⟨r, heffect⟩
      | log e => simp at he
      | openClient t => simp at he
      | closeClient => simp at he
  · rintro ⟨r, hr⟩
    exact .inr ⟨_, hr, rfl⟩

/-- A send shows nothing that does not follow from the lookup and from how it ended. -/
theorem disclosed_delivered (url : Except SendFault Spelled) (lookup : List Log.Event) :
    let o := p.delivered n answer url lookup
    o.disclosed =
      (((o.sendEnd answer).shows n).1, lookup ++ ((o.sendEnd answer).shows n).2) := by
  intro o
  have hrequest : o.hasRequest = true ↔ _ := p.hasRequest_delivered n answer url lookup
  have hreply : o.reply = replyOf (p.deliver n answer url).1 := rfl
  have hevents : Command.eventsOf o.effects =
      lookup ++ Command.eventsOf (p.deliver n answer url).2 := by
    simp [o, delivered]
  simp only [Outcome.disclosed, hreply, hevents, withoutUrl_replyOf]
  rcases p.deliver_ends n answer url with ⟨hunasked, hsilent⟩ | ⟨hasked, hended, hlogged⟩
  · have hend : o.sendEnd answer = .noResponse o.reply := by
      cases answer <;> simp [Outcome.sendEnd, hrequest, hunasked]
    rw [hend, hsilent]
    simp [SendEnd.shows, hreply]
  · rw [hended, hlogged]
    rw [hended] at hreply
    cases answer with
    | reply r => simp [Outcome.sendEnd_of_request (hrequest.mpr hasked), SendEnd.shows]
    | fault f => simp [Outcome.sendEnd, SendEnd.shows, hreply, outcome]

/-! ## Two providers -/

/-- Providers of one configuration that have looked up their webhook or not, both alike. -/
structure Alike (p q : Provider) : Prop where
  config : p.config = q.config
  raw : p.webhook.raw = q.webhook.raw
  isResolved : p.webhook.isResolved = q.webhook.isResolved

variable {p : Provider} {q : Provider} {env env' : Environment}

theorem Alike.refl (p : Provider) : Alike p p := ⟨rfl, rfl, rfl⟩

theorem Alike.resolve (h : Alike p q) (henv : env.SameNames env') (name : String) :
    (p.webhook.resolve name env).1.isSome = (q.webhook.resolve name env').1.isSome ∧
      (p.webhook.resolve name env).2.2 = (q.webhook.resolve name env').2.2 := by
  have hresolved := h.isResolved
  have hnamed := Secret.isSome_valueOf q.webhook.raw env env'
  cases hp : p.webhook.value <;> cases hq : q.webhook.value <;>
    simp_all [Secret.resolve, Secret.isResolved, h.raw, Secret.lookupEvents_eq henv]

/-- Routes fail alike, log alike and leave the providers alike. -/
theorem Alike.route (h : Alike p q) (henv : env.SameNames env') (group : Spelled) :
    ((∃ f, (p.route env group).1 = .error f ∧ (q.route env' group).1 = .error f) ∨
        ∃ url url', (p.route env group).1 = .ok url ∧ (q.route env' group).1 = .ok url') ∧
      Alike (p.route env group).2.1 (q.route env' group).2.1 ∧
      (p.route env group).2.2 = (q.route env' group).2.2 := by
  simp only [Provider.route, ← h.config]
  cases p.config.overrideFor? group with
  | some url => exact ⟨.inr ⟨url, url, rfl, rfl⟩, h, rfl⟩
  | none =>
      obtain ⟨hvalue, hlookup⟩ := h.resolve henv component
      obtain ⟨hp, hpraw⟩ := p.webhook.isResolved_resolve component env
      obtain ⟨hq, hqraw⟩ := q.webhook.isResolved_resolve component env'
      refine ⟨?_, ⟨h.config, hpraw.trans (h.raw.trans hqraw.symm),
        hp.trans (hvalue.trans hq.symm)⟩, hlookup⟩
      simp only [resolveDefault]
      cases hurl : (p.webhook.resolve component env).1 <;>
        cases hurl' : (q.webhook.resolve component env').1 <;> simp_all

/-- Sends that end alike show the same. -/
theorem Alike.act_send (h : Alike p q) (henv : env.SameNames env') {n : Notification}
    {answer answer' : Answer} {mergeDefaults : Bool}
    (hend : (p.act env (.send n answer mergeDefaults)).1.sendEnd answer =
      (q.act env' (.send n answer' mergeDefaults)).1.sendEnd answer') :
    (p.act env (.send n answer mergeDefaults)).1.disclosed =
        (q.act env' (.send n answer' mergeDefaults)).1.disclosed ∧
      Alike (p.act env (.send n answer mergeDefaults)).2
        (q.act env' (.send n answer' mergeDefaults)).2 := by
  obtain ⟨-, hnext, hlookup⟩ := h.route henv n.endpoint.group
  simp only [act_eq_actAt, Action.group?, actAt_send, ofConfig, ← h.config] at hend ⊢
  refine ⟨?_, hnext⟩
  rw [disclosed_delivered, disclosed_delivered, hend, hlookup]

/-- An action that is no send shows the same. -/
theorem Alike.act (h : Alike p q) (henv : env.SameNames env') {a : Action}
    (ha : ∀ n answer mergeDefaults, a ≠ .send n answer mergeDefaults) :
    (p.act env a).1.disclosed = (q.act env' a).1.disclosed ∧
      Alike (p.act env a).2 (q.act env' a).2 := by
  cases a with
  | route group =>
      obtain ⟨hurl, hnext, hlookup⟩ := h.route henv group
      simp only [act_eq_actAt, Action.group?]
      refine ⟨?_, hnext⟩
      rcases hurl with ⟨f, hp, hq⟩ | ⟨url, url', hp, hq⟩
      · simp only [hp, hq, hlookup, actAt]
      · simp only [hp, hq, hlookup, actAt]
        rfl
  | send n answer mergeDefaults => exact absurd rfl (ha n answer mergeDefaults)
  | build n =>
      have hbody : p.payload? n = q.payload? n := by
        unfold Provider.payload?
        rw [h.config]
      simp only [Provider.act, hbody]
      cases q.payload? n <;> exact ⟨rfl, h⟩
  | isValid =>
      refine ⟨?_, h⟩
      simp only [Provider.act, h.config]
  | config =>
      refine ⟨?_, h⟩
      simp only [Provider.act, h.config]
  | defaultAlert =>
      refine ⟨?_, h⟩
      simp only [Provider.act, h.config]

end Provider

/-! ## Two runs -/

/-- A step of one run and the one of the other that it is set beside, with their outcomes:
the step is the same, and a send ends alike. -/
inductive Corresponds : Step × Outcome → Step × Outcome → Prop where
  | same {x : Step} (o o' : Outcome)
      (hx : ∀ id n answer mergeDefaults, x ≠ .act id (.send n answer mergeDefaults)) :
      Corresponds (x, o) (x, o')
  | send {id : String} {n : Notification} {answer answer' : Answer} {mergeDefaults : Bool}
      {o o' : Outcome} (hend : o.sendEnd answer = o'.sendEnd answer') :
      Corresponds (.act id (.send n answer mergeDefaults), o)
        (.act id (.send n answer' mergeDefaults), o')

namespace Session

variable {s t : Session}

/-- Sessions that differ in nothing but the values behind names. -/
structure Alike (s t : Session) : Prop where
  names : s.env.SameNames t.env
  providers : ∀ id, Option.Rel Provider.Alike (s.providers.lookup id) (t.providers.lookup id)

theorem Alike.store (h : Alike s t) {p q : Provider} (hpq : p.Alike q) (id : String) :
    Alike (s.store id p) (t.store id q) := by
  refine ⟨h.names, fun name => ?_⟩
  simp only [lookup_store]
  split
  · exact .some hpq
  · exact h.providers name

theorem Alike.lookup (h : Alike s t) (id : String) :
    (s.providers.lookup id = none ∧ t.providers.lookup id = none) ∨
      ∃ p q, s.providers.lookup id = some p ∧ t.providers.lookup id = some q ∧ p.Alike q := by
  have hrel := h.providers id
  cases hp : s.providers.lookup id <;> cases hq : t.providers.lookup id <;>
    rw [hp, hq] at hrel
  case none.none => exact .inl ⟨rfl, rfl⟩
  case some.some p q => exact .inr ⟨p, q, rfl, rfl, Option.rel_some_some.mp hrel⟩
  all_goals cases hrel

/-- The steps of a run with what came of them. -/
def trace (s : Session) (steps : List Step) : List (Step × Outcome) := steps.zip (s.run steps)

theorem trace_cons (s : Session) (x : Step) (steps : List Step) :
    s.trace (x :: steps) = (x, (s.step x).1) :: (s.step x).2.trace steps := rfl

/-- One step in two sessions that are alike shows the same and leaves them alike. -/
theorem Alike.step (h : Alike s t) {x y : Step}
    (hxy : Corresponds (x, (s.step x).1) (y, (t.step y).1)) :
    (s.step x).1.disclosed = (t.step y).1.disclosed ∧ Alike (s.step x).2 (t.step y).2 := by
  generalize ho : (s.step x).1 = o at hxy
  generalize ho' : (t.step y).1 = o' at hxy
  cases hxy with
  | same _ _ hx =>
      subst ho ho'
      cases x with
      | make id config client => exact ⟨rfl, h.store (.refl _) id⟩
      | build id config client =>
          simp only [Session.step]
          split
          · exact ⟨rfl, h⟩
          · exact ⟨rfl, h⟩
          · exact ⟨rfl, h.store (.refl _) id⟩
      | act id a =>
          have ha : ∀ n answer mergeDefaults, a ≠ .send n answer mergeDefaults := by
            rintro n answer mergeDefaults rfl
            exact hx id n answer mergeDefaults rfl
          rcases h.lookup id with ⟨hp, hq⟩ | ⟨p, q, hp, hq, hpq⟩
          · simpa [Session.step, hp, hq] using h
          · obtain ⟨hshown, hnext⟩ := hpq.act h.names ha
            rw [step_act hp, step_act hq]
            exact ⟨hshown, h.store hnext id⟩
      | assign name value => exact ⟨rfl, h.names.assign name value, h.providers⟩
  | @send id n answer answer' mergeDefaults _ _ hend =>
      subst ho ho'
      rcases h.lookup id with ⟨hp, hq⟩ | ⟨p, q, hp, hq, hpq⟩
      · simpa [Session.step, hp, hq] using h
      · rw [step_act hp, step_act hq] at hend ⊢
        obtain ⟨hshown, hnext⟩ := hpq.act_send h.names hend
        exact ⟨hshown, h.store hnext id⟩

/-- A whole run shows the same in two sessions that are alike. -/
theorem Alike.run (h : Alike s t) {xs ys : List Step}
    (hxy : List.Forall₂ Corresponds (s.trace xs) (t.trace ys)) :
    (s.run xs).map Outcome.disclosed = (t.run ys).map Outcome.disclosed := by
  induction xs generalizing s t ys with
  | nil =>
      cases ys with
      | nil => rfl
      | cons y ys => cases hxy
  | cons x xs ih =>
      cases ys with
      | nil => cases hxy
      | cons y ys =>
          rw [trace_cons, trace_cons, List.forall₂_cons] at hxy
          obtain ⟨hfirst, hrest⟩ := hxy
          obtain ⟨hshown, hnext⟩ := h.step hfirst
          simp only [Session.run, List.map_cons, hshown, ih hnext hrest]

theorem start_alike {env env' : Environment} (h : env.SameNames env') :
    Alike (start env) (start env') :=
  ⟨h, fun _ => .none⟩

end Session

end Discord

end AlertRelay
