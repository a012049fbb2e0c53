import AlertRelay.Proofs.Discord.Routing
import AlertRelay.Proofs.Json.Fields

/-!
# Runs of a session

The state of a session splits into its environment, which only assignments
change, and its providers, each of which only its own actions change.  The run
of a provider is therefore settled by its configuration, by the assignments, and
by the place of the first action that needs its default webhook.
-/

namespace AlertRelay

namespace Discord

/-! ## Steps -/

namespace Step

def environment (env : Environment) : Step → Environment
  | .assign name value => env.assign name value
  | .make _ _ _ | .build _ _ _ | .act _ _ => env

/-- Whether a step may put a provider under a name. -/
def makes (id : String) : Step → Bool
  | .make other _ _ | .build other _ _ => other = id
  | .act _ _ | .assign _ _ => false

def isOf (id : String) : Step → Bool
  | .act other _ => other = id
  | .make _ _ _ | .build _ _ _ | .assign _ _ => false

/-- Whether a step needs the default webhook of a provider. -/
def needsDefault (id : String) (c : Config) : Step → Bool
  | .act other a => other = id && a.needsDefault c
  | .make _ _ _ | .build _ _ _ | .assign _ _ => false

def environmentAfter (env : Environment) (steps : List Step) : Environment :=
  steps.foldl environment env

/-- The environment in which a provider's default webhook is needed first. -/
def firstNeed? (id : String) (c : Config) (env : Environment) (steps : List Step) :
    Option Environment :=
  (steps.findIdx? (needsDefault id c)).map fun i => environmentAfter env (steps.take i)

theorem firstNeed?_cons (id : String) (c : Config) (env : Environment) (x : Step)
    (steps : List Step) :
    firstNeed? id c env (x :: steps) =
      if x.needsDefault id c then some env else firstNeed? id c (x.environment env) steps :=
  firstState?_cons environment (needsDefault id c) env x steps

theorem exists_first_need {id : String} {c : Config} (env : Environment) {steps : List Step}
    {i : Nat} {x : Step} (hx : steps[i]? = some x) (hneeds : x.needsDefault id c = true) :
    ∃ j ≤ i, steps.findIdx? (needsDefault id c) = some j ∧
      firstNeed? id c env (steps.take i) =
        if i = j then none else some (environmentAfter env (steps.take j)) :=
  exists_firstState environment env hx hneeds

end Step

/-! ## States -/

namespace Session

open AlertRelay.Text

variable {s t : Session} {id other : String} {c : Config} {client : ClientMode}

def after (s : Session) (steps : List Step) : Session := steps.foldl (fun s x => (s.step x).2) s

@[simp] theorem lookup_store (s : Session) (id name : String) (p : Provider) :
    (s.store id p).providers.lookup name = if name = id then some p else s.providers.lookup name :=
  Json.lookup_setField id name p s.providers

theorem store_eq_self {p : Provider} (h : s.providers.lookup id = some p) : s.store id p = s := by
  simp [store, Json.setField_eq_self h]

@[simp] theorem env_store (s : Session) (id : String) (p : Provider) : (s.store id p).env = s.env :=
  rfl

@[simp] theorem env_step (s : Session) (x : Step) : (s.step x).2.env = x.environment s.env := by
  cases x with
  | make id config client => rfl
  | build id config client =>
      simp only [step]
      split <;> rfl
  | act id a =>
      simp only [step]
      split <;> rfl
  | assign name value => rfl

theorem env_after (s : Session) (steps : List Step) :
    (s.after steps).env = Step.environmentAfter s.env steps := by
  induction steps generalizing s with
  | nil => rfl
  | cons x steps ih =>
      have hstep := ih (s.step x).2
      rw [env_step] at hstep
      exact hstep

theorem step_act {p : Provider} (h : s.providers.lookup id = some p) (a : Action) :
    s.step (.act id a) = ((p.act s.env a).1, s.store id (p.act s.env a).2) := by
  simp only [step, h]

/-- A step leaves a provider as it is, unless it makes it anew or is its own. -/
theorem lookup_step_of_ne {x : Step} (hmakes : x.makes id = false) (hof : x.isOf id = false) :
    (s.step x).2.providers.lookup id = s.providers.lookup id := by
  cases x with
  | make name config client =>
      have hne : id ≠ name := by simpa [Step.makes, eq_comm] using hmakes
      simp [step, hne]
  | build name config client =>
      have hne : id ≠ name := by simpa [Step.makes, eq_comm] using hmakes
      simp only [step]
      split <;> simp [hne]
  | act name a =>
      have hne : id ≠ name := by simpa [Step.isOf, eq_comm] using hof
      simp only [step]
      split <;> simp [hne]
  | assign name value => rfl

theorem lookup_step_remembering {first : Option Environment} {x : Step}
    (h : s.providers.lookup id = some (.remembering c client first))
    (hx : x.makes id = false) :
    (s.step x).2.providers.lookup id =
      some (.remembering c client
        (first <|> if x.needsDefault id c then some s.env else none)) := by
  cases hof : x.isOf id with
  | false =>
      have hneeds : x.needsDefault id c = false := by
        cases x <;> simp_all [Step.needsDefault, Step.isOf]
      rw [lookup_step_of_ne hx hof, h]
      simp [hneeds]
  | true =>
      cases x with
      | act name a =>
          have hname : name = id := by simpa [Step.isOf] using hof
          subst hname
          rw [step_act h]
          cases hneeds : a.needsDefault c with
          | false =>
              have hsame : ((Provider.remembering c client first).act s.env a).2 = _ :=
                Provider.act_snd_of_not_needsDefault (by exact hneeds)
              simp [Step.needsDefault, hneeds, hsame]
          | true =>
              obtain ⟨group, hgroup, hdefault⟩ : ∃ group, a.group? = some group ∧
                  c.overrideFor? group = none := by
                simpa [Action.needsDefault, Option.any_eq_true, Config.fallsToDefault] using hneeds
              rw [Provider.act_of_default hgroup hdefault]
              cases first <;> simp [Step.needsDefault, hneeds]
      | make name config client => simp [Step.isOf] at hof
      | build name config client => simp [Step.isOf] at hof
      | assign name value => simp [Step.isOf] at hof

theorem lookup_after_remembering (steps : List Step) {first : Option Environment}
    (h : s.providers.lookup id = some (.remembering c client first))
    (hsteps : ∀ x ∈ steps, x.makes id = false) :
    (s.after steps).providers.lookup id =
      some (.remembering c client (first <|> Step.firstNeed? id c s.env steps)) := by
  induction steps generalizing s first with
  | nil => simpa [after, Step.firstNeed?] using h
  | cons x steps ih =>
      have hstep := lookup_step_remembering h (hsteps x (by simp))
      have hrest := ih hstep fun y hy => hsteps y (by simp [hy])
      rw [env_step] at hrest
      rw [Step.firstNeed?_cons]
      change ((s.step x).2.after steps).providers.lookup id = _
      rw [hrest]
      cases first <;> by_cases hneeds : x.needsDefault id c <;> simp [hneeds]

/-! ## Outcomes -/

theorem run_append (s : Session) (before rest : List Step) :
    s.run (before ++ rest) = s.run before ++ (s.after before).run rest := by
  induction before generalizing s with
  | nil => rfl
  | cons x before ih => simp [run, ih, after]

@[simp] theorem length_run (s : Session) (steps : List Step) :
    (s.run steps).length = steps.length := by
  induction steps generalizing s with
  | nil => rfl
  | cons x steps ih => simp [run, ih]

/-- The outcome of a step is that of the state which the steps before it lead
to. -/
theorem getElem?_run {steps : List Step} {i : Nat} {x : Step} (h : steps[i]? = some x) :
    (s.run steps)[i]? = some ((s.after (steps.take i)).step x).1 :=
  getElem?_outputs step run (fun _ _ _ => rfl) h

/-- Sessions that differ in one provider at most. -/
def AgreeOff (other : String) (s t : Session) : Prop :=
  s.env = t.env ∧ ∀ id ≠ other, s.providers.lookup id = t.providers.lookup id

theorem AgreeOff.store (h : AgreeOff other s t) (id : String) (p : Provider) :
    AgreeOff other (s.store id p) (t.store id p) := by
  refine ⟨h.1, fun name hname => ?_⟩
  simp only [lookup_store]
  split
  · rfl
  · exact h.2 name hname

theorem agreeOff_step_act (s : Session) (other : String) (a : Action) :
    AgreeOff other (s.step (.act other a)).2 s := by
  refine ⟨by simp [Step.environment], fun id hid => ?_⟩
  exact lookup_step_of_ne rfl (by simpa [Step.isOf] using Ne.symm hid)

/-- Steps of other providers have the same outcome and keep the difference in
one provider. -/
theorem AgreeOff.step (h : AgreeOff other s t) (x : Step) :
    (x.isOf other = false → (s.step x).1 = (t.step x).1) ∧
      AgreeOff other (s.step x).2 (t.step x).2 := by
  cases x with
  | make id config client => exact ⟨fun _ => rfl, h.store id _⟩
  | build id config client =>
      simp only [Session.step]
      split
      · exact ⟨fun _ => rfl, h⟩
      · exact ⟨fun _ => rfl, h⟩
      · exact ⟨fun _ => rfl, h.store id _⟩
  | act id a =>
      by_cases hid : id = other
      · subst hid
        have hs := agreeOff_step_act s id a
        have ht := agreeOff_step_act t id a
        refine ⟨by simp [Step.isOf], hs.1.trans (h.1.trans ht.1.symm), fun name hname => ?_⟩
        rw [hs.2 name hname, ht.2 name hname, h.2 name hname]
      · cases hp : s.providers.lookup id with
        | none =>
            have hp' : t.providers.lookup id = none := by rw [← h.2 id hid, hp]
            simpa [Session.step, hp, hp'] using h
        | some p =>
            have hp' : t.providers.lookup id = some p := by rw [← h.2 id hid, hp]
            rw [step_act hp, step_act hp', h.1]
            exact ⟨fun _ => rfl, h.store id _⟩
  | assign name value => exact ⟨fun _ => rfl, by simp [Session.step, h.1], h.2⟩

theorem AgreeOff.run (h : AgreeOff other s t) {steps : List Step} {i : Nat} {x : Step}
    (hx : steps[i]? = some x) (hof : x.isOf other = false) :
    (s.run steps)[i]? = (t.run steps)[i]? := by
  induction steps generalizing s t i with
  | nil => simp at hx
  | cons y steps ih =>
      cases i with
      | zero =>
          have hy : y = x := by simpa using hx
          subst hy
          simp [Session.run, (h.step y).1 hof]
      | succ i =>
          have hrest : steps[i]? = some x := by simpa using hx
          simpa [Session.run] using ih (h.step y).2 hrest

/-! ## Leaving a step out -/

theorem eraseIdx_run (s : Session) (before after : List Step) (x : Step) :
    (s.run (before ++ x :: after)).eraseIdx before.length =
      s.run before ++ (((s.after before).step x).2).run after := by
  rw [run_append, List.eraseIdx_append_of_length_le (by simp)]
  simp [run]

theorem eraseIdx_run_of_step_eq {before after : List Step} {x : Step}
    (h : ((s.after before).step x).2 = s.after before) :
    (s.run (before ++ x :: after)).eraseIdx before.length = s.run (before ++ after) := by
  rw [eraseIdx_run, h, run_append]

theorem getElem?_eraseIdx_run {before after : List Step} {a : Action} {i : Nat} {x : Step}
    (hx : (before ++ after)[i]? = some x) (hof : x.isOf other = false) :
    ((s.run (before ++ .act other a :: after)).eraseIdx before.length)[i]? =
      (s.run (before ++ after))[i]? := by
  rw [eraseIdx_run, run_append]
  by_cases hi : i < before.length
  · simp [List.getElem?_append_left, hi]
  · have hafter : after[i - before.length]? = some x := by
      rwa [List.getElem?_append_right (by omega)] at hx
    rw [List.getElem?_append_right (by simp; omega), List.getElem?_append_right (by simp; omega)]
    simpa using (agreeOff_step_act (s.after before) other a).run hafter hof

/-! ## The run of one provider -/

theorem lookup_make (s : Session) (id : String) (c : Config) (client : ClientMode) :
    (s.step (.make id c client)).2.providers.lookup id =
      some (.remembering c client none) := by
  simp [step, Provider.remembering_none]

/-- An action of a provider in a run, given what the provider remembers when its
turn comes. -/
theorem getElem?_run_act {first : Option Environment} {steps : List Step} {i : Nat} {a : Action}
    (h : s.providers.lookup id = some (.remembering c client first))
    (hsteps : ∀ x ∈ steps, x.makes id = false) (ha : steps[i]? = some (.act id a)) :
    (s.run steps)[i]? =
      some ((Provider.remembering c client
        (first <|> Step.firstNeed? id c s.env (steps.take i))).act
          (Step.environmentAfter s.env (steps.take i)) a).1 := by
  have hbefore := lookup_after_remembering (steps.take i) h
    fun x hx => hsteps x (List.mem_of_mem_take hx)
  rw [getElem?_run ha, step_act hbefore, env_after]

/-- The default webhook of a provider is settled by the first action that needs
it, and by nothing else in the run. -/
theorem run_settles_default (s : Session) (id : String) (c : Config) (client : ClientMode)
    (steps : List Step) (hsteps : ∀ x ∈ steps, x.makes id = false) :
    let opened := (s.step (.make id c client)).2
    let fresh := Provider.ofConfig c client
    let environmentBefore (i : Nat) := Step.environmentAfter s.env (steps.take i)
    (∀ (i : Nat) (a : Action) group before o rest, steps[i]? = some (.act id a) →
      a.group? = some group → c.overrides = before ++ o :: rest → o.group = group →
      (∀ q ∈ before, q.group ≠ group) →
      (opened.run steps)[i]? = some (fresh.actAt (.ok o.webhookUrl) [] a)) ∧
    (∀ (i : Nat) (a : Action) group, steps[i]? = some (.act id a) → a.group? = some group →
      (∀ o ∈ c.overrides, o.group ≠ group) →
      ∃ j ≤ i, steps.findIdx? (Step.needsDefault id c) = some j ∧
        (opened.run steps)[i]? = some (fresh.actAt (c.defaultWebhook (environmentBefore j))
          (if i = j then c.lookupEvents (environmentBefore j) else []) a)) ∧
    (∀ (i : Nat), steps[i]? = some (.act id .config) →
      (opened.run steps)[i]? = some ⟨.config c, []⟩) ∧
    (∀ before a rest, steps = before ++ Step.act id a :: rest → a.needsDefault c = false →
      (opened.run steps).eraseIdx before.length = opened.run (before ++ rest)) ∧
    (∀ before other a rest, steps = before ++ Step.act other a :: rest →
      ∀ (i : Nat) x, (before ++ rest)[i]? = some x → x.isOf other = false →
        ((opened.run steps).eraseIdx before.length)[i]? = (opened.run (before ++ rest))[i]?) := by
  intro opened fresh environmentBefore
  have hopened : opened.providers.lookup id = some (.remembering c client none) :=
    lookup_make s id c client
  have hact {i : Nat} {a : Action} (ha : steps[i]? = some (.act id a)) :=
    getElem?_run_act hopened hsteps ha
  refine ⟨?_, ?_, ?_, ?_, ?_⟩
  · intro i a group before o rest ha hgroup hc ho hbefore
    have hurl := Config.overrideFor?_eq_some hc ho hbefore
    rw [hact ha, Provider.act_of_override hgroup hurl]
  · intro i a group ha hgroup ho
    have hnone := Config.overrideFor?_eq_none ho
    have hneeds : Step.needsDefault id c (.act id a) = true := by
      simp [Step.needsDefault, Action.needsDefault, hgroup, Config.fallsToDefault, hnone]
    obtain ⟨j, hle, hj, hfirst⟩ := Step.exists_first_need opened.env ha hneeds
    refine ⟨j, hle, hj, ?_⟩
    rw [hact ha, Provider.act_of_default hgroup hnone, hfirst]
    by_cases hij : i = j
    · subst hij
      simp [environmentBefore, opened, Step.environment, fresh]
    · simp [hij, environmentBefore, opened, Step.environment, fresh]
  · intro i ha
    rw [hact ha]
    rfl
  · intro before a rest hrun ha
    subst hrun
    apply eraseIdx_run_of_step_eq
    have hbefore := lookup_after_remembering before hopened
      fun x hx => hsteps x (by simp [hx])
    rw [step_act hbefore, Provider.act_snd_of_not_needsDefault (by exact ha)]
    exact store_eq_self hbefore
  · intro before other a rest hrun i x hx hof
    subst hrun
    exact getElem?_eraseIdx_run hx hof

def referringConfig : Config where
  webhookUrl := "$HOOK"
  overrides := [⟨"core", "$CORE"⟩]

def changingRun : List Step :=
  [.act "a" (.route "core"), .act "a" (.route ""), .act "b" .isValid,
    .assign "HOOK" (some "https://h/2"),
    .act "a" (.send { endpoint := { name := "api" } } (.reply ⟨204, none, []⟩) false)]

theorem changingRun_settles_default :
    let s := Session.start (Environment.ofList [("HOOK", "https://h/1")])
    let opened := (s.step (.make "a" referringConfig .owned)).2
    let fresh := Provider.ofConfig referringConfig .owned
    (∀ x ∈ changingRun, x.makes "a" = false) ∧
      (opened.run changingRun)[0]? = some ⟨.url "$CORE", []⟩ ∧
      (opened.run changingRun)[4]? = some (fresh.actAt (.ok "https://h/1") []
        (.send { endpoint := { name := "api" } } (.reply ⟨204, none, []⟩) false)) := by
  intro s opened fresh
  have hsteps : ∀ x ∈ changingRun, x.makes "a" = false := by
    simp [changingRun, Step.makes]
  obtain ⟨hown, hdefault, -⟩ :=
    run_settles_default s "a" referringConfig .owned changingRun hsteps
  refine ⟨hsteps, ?_, ?_⟩
  · exact hown 0 (.route "core") "core" [] ⟨"core", "$CORE"⟩ [] rfl rfl rfl rfl (by simp)
  · obtain ⟨j, hj, hfirst, hrun⟩ := hdefault 4 _ "" rfl rfl (by decide)
    have hone : j = 1 := by
      have : changingRun.findIdx? (Step.needsDefault "a" referringConfig) = some 1 := by decide
      simpa [this] using hfirst.symm
    subst hone
    exact hrun

/-- A reference to a name with half of a pair, which no variable can have. -/
def unnamedConfig : Config where
  webhookUrl := ⟨[.char '$', .half false 0]⟩

/-- A name that no variable can have stands for no webhook, not even for the empty one. -/
theorem run_of_unnamed :
    let opened := ((Session.start Environment.empty).step (.make "a" unnamedConfig .owned)).2
    opened.run [.act "a" (.route "")] = [⟨.failed .unencodable, []⟩] ∧
      ∀ url effects, (opened.run [.act "a" (.route "")])[0]? ≠ some ⟨.url url, effects⟩ := by
  intro opened
  have hrun : opened.run [.act "a" (.route "")] = [⟨.failed .unencodable, []⟩] := rfl
  refine ⟨hrun, fun url effects h => ?_⟩
  rw [hrun] at h
  simp at h

end Session

end Discord

end AlertRelay
