import AlertRelay.Proofs.Discord.Accounting
import AlertRelay.Proofs.Settings.Validity

/-!
# Destinations that are empty

A provider of a valid configuration goes to the empty webhook for one reason only: its default
webhook refers to a variable that, when it was looked up, was unset or empty.  The lookup is
logged once in a run, with a warning if the variable was unset.  An empty variable is logged
like any other.
-/

namespace AlertRelay.Discord

open AlertRelay.Http AlertRelay.Text

/-! ## Configurations -/

namespace Config

variable {c : Config} {env : Environment}

theorem overrideFor?_ne_empty (hvalid : c.isValid = true) {group url : Spelled}
    (h : c.overrideFor? group = some url) : url ≠ "" := by
  obtain ⟨-, -, hoverrides⟩ := c.isValid_iff.mp hvalid
  obtain ⟨o, ho, rfl⟩ := Option.map_eq_some_iff.mp h
  have hmem : o ∈ c.overrides := List.mem_of_find?_eq_some ho
  exact (hoverrides o hmem).2

/-- A default webhook that is empty refers to a variable that is unset or empty. -/
theorem defaultWebhook_eq_empty (hvalid : c.isValid = true)
    (h : c.defaultWebhook env = .ok "") :
    ∃ name : Spelled, c.webhookUrl = "$" ++ name ∧ isName name = true ∧
      (env name = none ∨ env name = some "") := by
  obtain ⟨hne, -, -⟩ := c.isValid_iff.mp hvalid
  simp only [defaultWebhook] at h
  split at h
  · rename_i name hurl
    split at h
    · rename_i hname
      refine ⟨⟨name⟩, Spelled.ext hurl, hname, ?_⟩
      cases hvalue : env ⟨name⟩ with
      | none => exact .inl rfl
      | some value =>
          right
          simpa [hvalue] using h
    · cases h
  · exact absurd (Except.ok.inj h) hne

end Config

/-! ## What providers log about their webhook -/

/-- The events of an outcome, but for those that tell how an exchange ended. -/
def Outcome.lookups (o : Outcome) : List Log.Event :=
  (Command.eventsOf o.effects).filter fun e => !isVerdict e

namespace Provider

variable {p : Provider} {c : Config} {client : ClientMode} {first : Option Environment}
  {env : Environment}

theorem lookups_log {lookup : List Log.Event} (hlookup : ∀ e ∈ lookup, isVerdict e = false)
    (reply : Reply) : (⟨reply, lookup.map .log⟩ : Outcome).lookups = lookup := by
  unfold Outcome.lookups
  rw [eventsOf_log, List.filter_eq_self]
  intro e he
  simp [hlookup e he]

theorem lookups_delivered (p : Provider) (n : Notification) (answer : Answer)
    (url : Except SendFault Spelled) {lookup : List Log.Event}
    (hlookup : ∀ e ∈ lookup, isVerdict e = false) :
    (p.delivered n answer url lookup).lookups = lookup := by
  have hkept : lookup.filter (fun e => !isVerdict e) = lookup := by
    rw [List.filter_eq_self]
    intro e he
    simp [hlookup e he]
  cases url with
  | error f => simp [Outcome.lookups, delivered, deliver, hkept]
  | ok url =>
      have hdropped : (Command.eventsOf (p.deliver n answer (.ok url)).2).filter
          (fun e => !isVerdict e) = [] := by
        rw [List.filter_eq_nil_iff]
        intro e he
        simp [p.isVerdict_of_mem_deliver n answer he]
      simp [Outcome.lookups, delivered, hkept, hdropped]

/-- All that an action logs about the webhook is what the route to it logs. -/
theorem lookups_act (p : Provider) (env : Environment) (a : Action) :
    (p.act env a).1.lookups =
      match a.group? with
      | none => []
      | some group => (p.route env group).2.2 := by
  have hroute (group : Spelled) : ∀ e ∈ (p.route env group).2.2, isVerdict e = false :=
    fun e he => p.isVerdict_of_mem_route he
  rw [act_eq_actAt]
  cases a with
  | route group =>
      simp only [Action.group?, actAt]
      cases (p.route env group).1 with
      | error f => exact lookups_log (hroute group) _
      | ok url => exact lookups_log (hroute group) _
  | send n answer mergeDefaults =>
      simp only [Action.group?, actAt_send]
      exact lookups_delivered _ _ answer _ (hroute n.endpoint.group)
  | build n =>
      simp only [Action.group?, actAt]
      split <;> rfl
  | isValid => rfl
  | config => rfl
  | defaultAlert => rfl

theorem lookups_act_remembering (a : Action) :
    ((remembering c client first).act env a).1.lookups =
      if a.needsDefault c && first.isNone then c.lookupEvents env else [] := by
  rw [lookups_act]
  cases ha : a.group? with
  | none => simp [Action.needsDefault, ha]
  | some group =>
      cases hurl : c.overrideFor? group with
      | some url =>
          simp [Action.needsDefault, ha, Config.fallsToDefault, hurl, route, remembering]
      | none =>
          have hroute : (remembering c client first).route env group =
              (remembering c client first).resolveDefault env := by
            simp [route, remembering, hurl]
          simp only [hroute, resolveDefault_remembering, Action.needsDefault, ha, Option.any_some,
            Config.fallsToDefault, hurl, Option.isNone_none, Bool.true_and]

end Provider

/-! ## A run -/

theorem Step.firstNeed?_take {id : String} {c : Config} {steps : List Step} {j k : Nat}
    (env : Environment) (hj : steps.findIdx? (needsDefault id c) = some j) (hlt : j < k) :
    firstNeed? id c env (steps.take k) = some (environmentAfter env (steps.take j)) := by
  have htake : (steps.take k).take j = steps.take j := by
    rw [List.take_take, Nat.min_eq_left (Nat.le_of_lt hlt)]
  have hindex : (steps.take k).findIdx? (needsDefault id c) = some j := by
    rw [List.findIdx?_take, hj, Option.bind_some, Option.guard_eq_some_iff]
    exact ⟨rfl, decide_eq_true hlt⟩
  unfold firstNeed?
  rw [hindex, Option.map_some, htake]

namespace Session

variable {s : Session} {id : String} {c : Config} {client : ClientMode}
  {first : Option Environment}

/-- The events that the steps of one provider have left in the log. -/
def loggedBy (id : String) (steps : List Step) (outcomes : List Outcome) : List Log.Event :=
  (steps.zip outcomes).flatMap fun (x, o) => if x.isOf id then Command.eventsOf o.effects else []

/-- What the steps of one provider have logged about its webhook. -/
def lookupsBy (id : String) (steps : List Step) (outcomes : List Outcome) : List Log.Event :=
  (loggedBy id steps outcomes).filter fun e => !isVerdict e

theorem lookupsBy_cons (id : String) (x : Step) (steps : List Step) (o : Outcome)
    (outcomes : List Outcome) :
    lookupsBy id (x :: steps) (o :: outcomes) =
      (if x.isOf id then o.lookups else []) ++ lookupsBy id steps outcomes := by
  unfold lookupsBy loggedBy
  rw [List.zip_cons_cons, List.flatMap_cons, List.filter_append]
  congr 1
  cases hx : x.isOf id with
  | true => simp [hx, Outcome.lookups]
  | false => simp [hx]

theorem lookups_step (h : s.providers.lookup id = some (.remembering c client first)) (x : Step) :
    (if x.isOf id then (s.step x).1.lookups else []) =
      if x.needsDefault id c && first.isNone then c.lookupEvents s.env else [] := by
  cases x with
  | act other a =>
      by_cases hother : other = id
      · subst hother
        rw [step_act h, Provider.lookups_act_remembering]
        simp [Step.isOf, Step.needsDefault]
      · simp [Step.isOf, Step.needsDefault, hother]
  | make other config client => simp [Step.isOf, Step.needsDefault]
  | build other config client => simp [Step.isOf, Step.needsDefault]
  | assign name value => simp [Step.isOf, Step.needsDefault]

/-- A provider logs one lookup in all, unless its webhook was needed before. -/
theorem lookupsBy_run (steps : List Step)
    (h : s.providers.lookup id = some (.remembering c client first))
    (hsteps : ∀ x ∈ steps, x.makes id = false) :
    lookupsBy id steps (s.run steps) =
      if first.isSome then []
      else ((Step.firstNeed? id c s.env steps).map c.lookupEvents).getD [] := by
  -- the invariant is in which environment the webhook was needed first, if it was needed
  induction steps generalizing s first with
  | nil => simp [lookupsBy, loggedBy, Step.firstNeed?]
  | cons x steps ih =>
      have hstep := lookup_step_remembering h (hsteps x (by simp))
      have hrest := ih hstep fun y hy => hsteps y (by simp [hy])
      rw [env_step] at hrest
      rw [run, lookupsBy_cons, lookups_step h, hrest, Step.firstNeed?_cons]
      cases first with
      | some env => simp
      | none => by_cases hneeds : x.needsDefault id c <;> simp [hneeds]

/-- The webhook that a step asks a provider for. -/
def destination? (s : Session) : Step → Option (Except SendFault Spelled)
  | .act id a =>
      (s.providers.lookup id).bind fun p => a.group?.map fun group => (p.route s.env group).1
  | .make _ _ _ | .build _ _ _ | .assign _ _ => none

theorem defaultWebhook_of_destination {a : Action} (hvalid : c.isValid = true)
    (h : s.providers.lookup id = some (.remembering c client first))
    (hempty : s.destination? (.act id a) = some (.ok "")) :
    Step.needsDefault id c (.act id a) = true ∧ c.defaultWebhook (first.getD s.env) = .ok "" := by
  simp only [destination?, h, Option.bind_some] at hempty
  obtain ⟨group, ha, hroute⟩ := Option.map_eq_some_iff.mp hempty
  cases hown : c.overrideFor? group with
  | some own =>
      have hsame : own = "" := by
        simpa [Provider.route, Provider.remembering, hown] using hroute
      exact absurd hsame (Config.overrideFor?_ne_empty hvalid hown)
  | none =>
      have hneeds : Step.needsDefault id c (.act id a) = true := by
        simp [Step.needsDefault, Action.needsDefault, ha, Config.fallsToDefault, hown]
      have hdefault : (Provider.remembering c client first).route s.env group =
          (Provider.remembering c client first).resolveDefault s.env := by
        simp [Provider.route, Provider.remembering, hown]
      rw [hdefault, Provider.resolveDefault_remembering] at hroute
      exact ⟨hneeds, hroute⟩

def missingName : String := "secret_ref_env_var_missing"

def isMissing (e : Log.Event) : Bool := e.name = missingName

theorem filter_isMissing_loggedBy (id : String) (steps : List Step) (outcomes : List Outcome) :
    (loggedBy id steps outcomes).filter isMissing =
      (lookupsBy id steps outcomes).filter isMissing := by
  unfold lookupsBy
  rw [List.filter_filter]
  apply List.filter_congr
  intro e he
  cases hmissing : isMissing e with
  | false => rfl
  | true =>
      have hname : e.name = missingName := by simpa [isMissing] using hmissing
      simp [isVerdict, hname, missingName, sentName, refusedName]

/-- A provider of a valid configuration goes to the empty webhook only if its default webhook
refers to a variable that was unset or empty when the webhook was needed first.  If it was unset
there is one warning about it by then, and if it was empty there is none. -/
theorem run_diagnoses (s : Session) (id : String) (hvalid : c.isValid = true)
    (client : ClientMode) (steps : List Step) (hsteps : ∀ x ∈ steps, x.makes id = false)
    {i : Nat} {a : Action} (ha : steps[i]? = some (.act id a)) :
    let opened := (s.step (.make id c client)).2
    let environmentBefore (i : Nat) := Step.environmentAfter s.env (steps.take i)
    let warnings := (loggedBy id (steps.take (i + 1))
      ((opened.run steps).take (i + 1))).filter isMissing
    (opened.after (steps.take i)).destination? (.act id a) = some (.ok "") →
      ∃ (name : Spelled) (j : Nat), c.webhookUrl = "$" ++ name ∧ j ≤ i ∧
        steps.findIdx? (Step.needsDefault id c) = some j ∧
        (environmentBefore j name = none ∧
            warnings = [Secret.lookupEvent Provider.component name none] ∨
          environmentBefore j name = some "" ∧ warnings = []) := by
  intro opened environmentBefore warnings hempty
  have hopened : opened.providers.lookup id = some (.remembering c client none) :=
    lookup_make s id c client
  have hbefore := lookup_after_remembering (steps.take i) hopened
    fun x hx => hsteps x (List.mem_of_mem_take hx)
  obtain ⟨hneeds, hdefault⟩ := defaultWebhook_of_destination hvalid hbefore hempty
  obtain ⟨j, hle, hj, hfirst⟩ := Step.exists_first_need opened.env ha hneeds
  -- whether the step is the first that needs the webhook or not, the lookup was made before `j`
  have hsettled : ((none <|> Step.firstNeed? id c opened.env (steps.take i)).getD
      (opened.after (steps.take i)).env) = environmentBefore j := by
    rw [hfirst, env_after]
    by_cases hij : i = j
    · simp [hij, environmentBefore, opened, Step.environment]
    · simp [hij, environmentBefore, opened, Step.environment]
  rw [hsettled] at hdefault
  obtain ⟨name, hurl, hname, hvalue⟩ := Config.defaultWebhook_eq_empty hvalid hdefault
  have hneed : Step.firstNeed? id c opened.env (steps.take (i + 1)) =
      some (environmentBefore j) :=
    Step.firstNeed?_take opened.env hj (by omega)
  have hlookups : lookupsBy id (steps.take (i + 1)) ((opened.run steps).take (i + 1)) =
      [Secret.lookupEvent Provider.component name (environmentBefore j name)] := by
    rw [take_run, lookupsBy_run (steps.take (i + 1)) hopened
      fun x hx => hsteps x (List.mem_of_mem_take hx), hneed]
    have hreference := Secret.resolves_reference hname Provider.component (environmentBefore j)
    simp only [Option.isSome_none, Bool.false_eq_true, if_false, Option.map_some,
      Option.getD_some, Config.lookupEvents, hurl, hreference.2]
  have hwarnings : warnings = [Secret.lookupEvent Provider.component name
      (environmentBefore j name)].filter isMissing := by
    simp only [warnings, filter_isMissing_loggedBy, hlookups]
  refine ⟨name, j, hurl, hle, hj, ?_⟩
  rcases hvalue with hunset | hset
  · left
    rw [hwarnings, hunset]
    exact ⟨rfl, rfl⟩
  · right
    rw [hwarnings, hset]
    exact ⟨rfl, rfl⟩

/-- A webhook that is needed before its variable is set. -/
def earlyRun : List Step :=
  [.act "a" (.route "core"), .act "a" (.route ""), .assign "HOOK" (some "https://h/"),
    .act "a" (.send testedNotification (.reply ⟨204, none, []⟩) false)]

theorem earlyRun_diagnoses :
    let s := start Environment.empty
    let opened := (s.step (.make "a" referringConfig .owned)).2
    referringConfig.isValid = true ∧ (∀ x ∈ earlyRun, x.makes "a" = false) ∧
      (opened.after (earlyRun.take 3)).destination?
        (.act "a" (.send testedNotification (.reply ⟨204, none, []⟩) false)) = some (.ok "") ∧
      (loggedBy "a" earlyRun (opened.run earlyRun)).filter isMissing =
        [Secret.lookupEvent Provider.component "HOOK" none] := by
  intro s opened
  have hvalid : referringConfig.isValid = true := by decide
  have hsteps : ∀ x ∈ earlyRun, x.makes "a" = false := by simp [earlyRun, Step.makes]
  have hempty : (opened.after (earlyRun.take 3)).destination?
      (.act "a" (.send testedNotification (.reply ⟨204, none, []⟩) false)) = some (.ok "") := by
    decide +kernel
  obtain ⟨name, j, hname, -, hj, hends⟩ :=
    s.run_diagnoses "a" hvalid .owned earlyRun hsteps (i := 3) rfl hempty
  have hhook : name = "HOOK" := by
    have hreferred := Secret.referredName?_append name
    rw [← hname] at hreferred
    have hwritten : referredName? referringConfig.webhookUrl = some "HOOK" := by decide
    exact Option.some.inj (hreferred.symm.trans hwritten)
  subst hhook
  refine ⟨hvalid, hsteps, hempty, ?_⟩
  rcases hends with ⟨-, hwarned⟩ | ⟨hset, -⟩
  · exact hwarned
  · have hfirst : earlyRun.findIdx? (Step.needsDefault "a" referringConfig) = some 1 := by decide
    obtain rfl : j = 1 := by simpa [hfirst] using hj.symm
    cases hset

/-- A variable that is set to the empty text leaves no warning, but a line that the webhook was
looked up. -/
theorem run_undiagnosed :
    let s := start (Environment.ofList [("HOOK", "")])
    let opened := (s.step (.make "a" referringConfig .owned)).2
    let steps := [Step.act "a" (.route "")]
    referringConfig.isValid = true ∧
      opened.destination? (.act "a" (.route "")) = some (.ok "") ∧ s.env "HOOK" = some "" ∧
      opened.run steps =
        [⟨.url "", [.log (Secret.lookupEvent Provider.component "HOOK" (some ""))]⟩] ∧
      (loggedBy "a" steps (opened.run steps)).filter isMissing = [] := by
  refine ⟨by decide, by decide +kernel, by decide, rfl, rfl⟩

end Session

end AlertRelay.Discord
