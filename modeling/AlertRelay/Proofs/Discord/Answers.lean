import AlertRelay.Proofs.Discord.Accounting

/-!
# Answers of the network

What a send is answered shows in how it ends and in the line of the log that tells so, and
nowhere else.  The webhook is found and the payload is built before the answer is heard, and
nothing of it is kept, so a failure is forgotten at once.
-/

namespace AlertRelay.Discord

open AlertRelay.Http AlertRelay.Text

/-! ## Other answers -/

def Action.answered (answer : Answer) : Action → Action
  | .send n _ mergeDefaults => .send n answer mergeDefaults
  | a => a

/-- The change after which every send is answered in the same way. -/
def answering (answer : Answer) : Change where
  action := Action.answered answer

/-- Steps whose sends are answered by what stands in their places. -/
def scripted (answers : Nat → Answer) (steps : List Step) : List Step :=
  steps.mapIdx fun i => (answering (answers i)).step

theorem session_answering (answer : Answer) (s : Session) : (answering answer).session s = s := by
  have hprovider (p : Provider) : (answering answer).provider p = p := rfl
  simp [Change.session, hprovider]

theorem answering_step (answer other : Answer) (x : Step) :
    (answering answer).step ((answering other).step x) = (answering answer).step x := by
  cases x with
  | act id a => cases a <;> rfl
  | make id c client => rfl
  | build id c client => cases c <;> rfl
  | assign name value => rfl

theorem answering_step_of_not_send (answer : Answer) {x : Step} (hx : x.isSend = false) :
    (answering answer).step x = x := by
  cases x with
  | act id a => cases a <;> first | rfl | simp [Step.isSend, Action.isSend] at hx
  | make id c client => rfl
  | build id c client => cases c <;> rfl
  | assign name value => rfl

theorem map_answering_scripted (answer : Answer) (answers : Nat → Answer) (steps : List Step) :
    (scripted answers steps).map (answering answer).step = steps.map (answering answer).step := by
  apply List.ext_getElem?
  intro i
  simp [scripted, Function.comp_def, answering_step]

/-! ## What does not depend on answers -/

def Effect.isVerdict : Effect → Bool
  | .log e => Discord.isVerdict e
  | .openClient _ | .request _ | .closeClient => false

/-- All that is done for an outcome, but for the line that tells how an exchange ended. -/
def Outcome.withoutVerdict (o : Outcome) : List Effect := o.effects.filter fun e => !e.isVerdict

/-- The webhook that a send goes to, and the payload that is built for it, if it can be
written. -/
def Session.letter? (s : Session) : Step → Option (Except SendFault Spelled × Option Json)
  | .act id (.send n _ mergeDefaults) =>
      (s.providers.lookup id).map fun p =>
        ((p.route s.env n.endpoint.group).1, p.payload? (p.filled n mergeDefaults))
  | .act _ _ | .make _ _ _ | .build _ _ _ | .assign _ _ => none

theorem letter?_answered (answer : Answer) (s : Session) (x : Step) :
    s.letter? ((answering answer).step x) = s.letter? x := by
  cases x with
  | act id a => cases a <;> rfl
  | make id c client => rfl
  | build id c client => rfl
  | assign name value => rfl

namespace Provider

variable (p : Provider) (n : Notification) (answer : Answer)

theorem exchange_requests_answered (other : Answer) (url : Spelled) (body : Json) :
    (exchange n answer url body).1 = (exchange n other url body).1 := by
  simp only [exchange]
  split
  · rename_i u _
    simp only [post]
    cases destination u <;> rfl
  · split <;> rfl

theorem withoutVerdict_delivered (url : Except SendFault Spelled) (lookup : List Log.Event) :
    (p.delivered n answer url lookup).withoutVerdict =
      (lookup.map .log).filter (fun e => !e.isVerdict) ++
        match url, p.payload? n with
        | .ok url, some body => exchangeEffects p.client (exchange n answer url body).1
        | _, _ => [] := by
  cases url with
  | error f => simp [Outcome.withoutVerdict, delivered, deliver]
  | ok url =>
      cases hbody : p.payload? n with
      | none => simp [Outcome.withoutVerdict, delivered, deliver_of_no_payload hbody]
      | some body =>
          have hexchange : (exchangeEffects p.client (exchange n answer url body).1).filter
              (fun e => !e.isVerdict) =
                exchangeEffects p.client (exchange n answer url body).1 := by
            cases p.client <;> simp [exchangeEffects, Effect.isVerdict]
          have hevents : ∀ e ∈ (exchange n answer url body).2.2, isVerdict e = true := by
            intro e he
            have hdelivered : e ∈ Command.eventsOf (p.deliver n answer (.ok url)).2 := by
              simpa [deliver_of_payload hbody] using he
            exact p.isVerdict_of_mem_deliver n answer hdelivered
          have hverdicts : ((exchange n answer url body).2.2.map Effect.log).filter
              (fun e => !e.isVerdict) = [] := by
            simp only [List.filter_eq_nil_iff, List.mem_map]
            rintro _ ⟨e, he, rfl⟩
            simp [Effect.isVerdict, hevents e he]
          simp only [Outcome.withoutVerdict, delivered, deliver_of_payload hbody,
            List.filter_append, hexchange, hverdicts, List.append_nil]

theorem withoutVerdict_delivered_answered (other : Answer) (url : Except SendFault Spelled)
    (lookup : List Log.Event) :
    (p.delivered n answer url lookup).withoutVerdict =
      (p.delivered n other url lookup).withoutVerdict := by
  rw [withoutVerdict_delivered, withoutVerdict_delivered]
  cases url with
  | error f => rfl
  | ok url => simp only [exchange_requests_answered n answer other]

end Provider

theorem answering_isUnseen (answer : Answer) :
    (answering answer).IsUnseen Outcome.withoutVerdict where
  webhookUrl _ := rfl
  overrideFor? _ _ := rfl
  isValid _ := rfl
  length _ := rfl
  defaultAlert _ := rfl
  group? a := by cases a <;> rfl
  actAt p url lookup a := by
    cases a with
    | send n other mergeDefaults =>
        change (p.actAt url lookup (.send n answer mergeDefaults)).withoutVerdict = _
        rw [Provider.actAt_send, Provider.actAt_send]
        exact p.withoutVerdict_delivered_answered _ answer other url lookup
    | route group => rfl
    | build n => rfl
    | isValid => rfl
    | config => rfl
    | defaultAlert => rfl

/-! ## Two runs -/

namespace Session

/-- Whatever the sends of a run are answered, every step leads to the same state, and the same
is done for it but for what is logged about the answer.  Steps that are no sends have the same
outcomes, and sends have the same webhooks and payloads. -/
theorem run_scripted (s : Session) (steps : List Step) (answers answers' : Nat → Answer) :
    let xs := scripted answers steps
    let ys := scripted answers' steps
    (∀ i : Nat, s.after (xs.take i) = s.after (ys.take i)) ∧
    (s.run xs).map Outcome.withoutVerdict = (s.run ys).map Outcome.withoutVerdict ∧
    (∀ (i : Nat) x, steps[i]? = some x → x.isSend = false →
      (s.run xs)[i]? = (s.run ys)[i]?) ∧
    (∀ (i : Nat) x y, xs[i]? = some x → ys[i]? = some y →
      (s.after (xs.take i)).letter? x = (s.after (ys.take i)).letter? y) := by
  intro xs ys
  -- any one answer will do, put in the place of all
  let f := answering (.fault default)
  have hunseen : f.IsUnseen Outcome.withoutVerdict := answering_isUnseen _
  have hsame : xs.map f.step = ys.map f.step :=
    (map_answering_scripted _ answers steps).trans (map_answering_scripted _ answers' steps).symm
  have hafter (i : Nat) : s.after (xs.take i) = s.after (ys.take i) := by
    have htake : (xs.take i).map f.step = (ys.take i).map f.step := by
      rw [List.map_take, hsame, ← List.map_take]
    simpa only [f, session_answering] using (hunseen.congr s htake).1
  refine ⟨hafter, (hunseen.congr s hsame).2, ?_, ?_⟩
  · intro i x hx hsend
    have hstep (answers : Nat → Answer) : (scripted answers steps)[i]? = some x := by
      simp [scripted, hx, answering_step_of_not_send _ hsend]
    rw [getElem?_run (hstep answers), getElem?_run (hstep answers'), hafter i]
  · intro i x y hx hy
    have hxy : f.step x = f.step y := by simpa [hx, hy] using congrArg (·[i]?) hsame
    rw [hafter i, ← letter?_answered (.fault default) _ x, hxy, letter?_answered]

theorem failingRun_scripted :
    let s := start Environment.empty
    let accepted := scripted (fun _ => .reply ⟨204, none, []⟩) failingRun
    let lost := scripted (fun _ => .fault ⟨.connect, "down"⟩) failingRun
    accepted ≠ lost ∧ s.after (accepted.take 2) = s.after (lost.take 2) ∧
      (s.run accepted).map Outcome.withoutVerdict = (s.run lost).map Outcome.withoutVerdict := by
  intro s accepted lost
  obtain ⟨hafter, hrun, -⟩ := s.run_scripted failingRun
    (fun _ => .reply ⟨204, none, []⟩) (fun _ => .fault ⟨.connect, "down"⟩)
  exact ⟨by decide, hafter 2, hrun⟩

end Session

end AlertRelay.Discord
