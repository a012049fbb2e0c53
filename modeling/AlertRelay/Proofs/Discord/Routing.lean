import AlertRelay.Discord.Session
import AlertRelay.Proofs.Secret

/-!
# What a provider remembers

A provider changes in one way only: the first time that its default webhook is
needed, it keeps what that webhook stands for.  So a provider is determined by
its configuration and by the environment in which this happened, and each action
is determined by the webhook that it goes to.
-/

namespace AlertRelay.Discord

open AlertRelay.Text

/-! ## The default webhook -/

namespace Config

/-- What the default webhook stands for in an environment: the value of the
variable behind a dollar sign, which is empty if there is none, or else the
webhook as it is written.  A name that no variable can have stands for nothing. -/
def defaultWebhook (c : Config) (env : Environment) : Except SendFault Spelled :=
  match c.webhookUrl.points with
  | .char '$' :: name =>
      if isName ⟨name⟩ then .ok ((env ⟨name⟩).getD "") else .error .unencodable
  | _ => .ok c.webhookUrl

def lookupEvents (c : Config) (env : Environment) : List Log.Event :=
  Secret.lookupEvents Provider.component c.webhookUrl env

/-- The webhook for a group: that of the group, or else what the default one
stands for. -/
def webhookFor (c : Config) (env : Environment) (group : Spelled) : Except SendFault Spelled :=
  match c.overrideFor? group with
  | some url => .ok url
  | none => c.defaultWebhook env

def fallsToDefault (c : Config) (group : Spelled) : Bool := (c.overrideFor? group).isNone

theorem defaultWebhook_eq (c : Config) (env : Environment) :
    c.defaultWebhook env =
      (Secret.valueOf c.webhookUrl env).elim (.error .unencodable) .ok := by
  unfold defaultWebhook Secret.valueOf
  split
  · rename_i name hname
    rw [Secret.referredName?_eq_some_iff.mpr (Spelled.ext (t := "$" ++ ⟨name⟩) hname)]
    simp only
    split <;> rfl
  · rename_i hother
    have hnone : referredName? c.webhookUrl = none := by
      rw [Option.eq_none_iff_forall_ne_some]
      intro name hname
      exact hother name.points (congrArg Spelled.points (Secret.referredName?_eq_some_iff.mp hname))
    rw [hnone]
    rfl

theorem overrideFor?_eq_some {c : Config} {group : Spelled} {before after : List Override}
    {o : Override} (hc : c.overrides = before ++ o :: after) (ho : o.group = group)
    (hbefore : ∀ q ∈ before, q.group ≠ group) :
    c.overrideFor? group = some o.webhookUrl := by
  have hnone : before.find? (fun q => decide (q.group = group)) = none := by
    simpa using hbefore
  simp [overrideFor?, hc, List.find?_append, hnone, ho]

theorem overrideFor?_eq_none {c : Config} {group : Spelled}
    (h : ∀ o ∈ c.overrides, o.group ≠ group) : c.overrideFor? group = none := by
  simpa [overrideFor?] using h

end Config

/-! ## Actions -/

namespace Action

def group? : Action → Option Spelled
  | .route group => some group
  | .send n _ _ => some n.endpoint.group
  | .build _ | .isValid | .config | .defaultAlert => none

/-- Whether an action needs the default webhook. -/
def needsDefault (c : Config) (a : Action) : Bool := a.group?.any c.fallsToDefault

end Action

namespace Provider

/-- What comes of an action whose webhook is known; `lookup` is what was logged
on the way to it. -/
def actAt (url : Except SendFault Spelled) (lookup : List Log.Event) (p : Provider) :
    Action → Outcome
  | .route _ =>
      match url with
      | .ok url => ⟨.url url, lookup.map .log⟩
      | .error f => ⟨.failed f, lookup.map .log⟩
  | .send n answer mergeDefaults =>
      let (result, effects) :=
        p.deliver (if mergeDefaults then n.withDefaults p.config.defaultAlert else n) answer url
      match result with
      | .ok () => ⟨.sent, lookup.map .log ++ effects⟩
      | .error f => ⟨.failed f, lookup.map .log ++ effects⟩
  | .build n =>
      match p.payload? n with
      | some body => ⟨.payload body, []⟩
      | none => ⟨.failed .unwritable, []⟩
  | .isValid => ⟨.truth p.config.isValid, []⟩
  | .config => ⟨.config p.config, []⟩
  | .defaultAlert => ⟨.defaultAlert p.config.defaultAlert, []⟩

/-- The provider of a configuration whose default webhook was needed for the
first time in the given environment, if it was needed at all. -/
def remembering (c : Config) (client : ClientMode) (first : Option Environment) : Provider :=
  ⟨c, .remembering c.webhookUrl first, client⟩

variable {c : Config} {client : ClientMode} {first : Option Environment} {env : Environment}

theorem remembering_none : remembering c client none = ofConfig c client := rfl

theorem resolveDefault_remembering :
    (remembering c client first).resolveDefault env =
      (c.defaultWebhook (first.getD env), remembering c client (some (first.getD env)),
        if first.isNone then c.lookupEvents env else []) := by
  simp only [resolveDefault, remembering, Secret.resolve_remembering, Config.defaultWebhook_eq,
    Config.lookupEvents]

/-- All that a route logs is the lookup of a variable. -/
theorem name_of_mem_route {p : Provider} {group : Spelled} {e : Log.Event}
    (he : e ∈ (p.route env group).2.2) :
    e.name = "secret_ref_resolved" ∨ e.name = "secret_ref_env_var_missing" := by
  simp only [route] at he
  split at he
  · simp at he
  · exact Secret.name_of_mem_resolve he

theorem route_ofConfig (group : Spelled) :
    ((ofConfig c client).route env group).1 = c.webhookFor env group := by
  rw [← remembering_none]
  simp only [route, remembering, Config.webhookFor]
  cases c.overrideFor? group with
  | some url => rfl
  | none => exact congrArg Prod.fst resolveDefault_remembering

/-- What is delivered depends on the configuration and the client alone. -/
theorem deliver_ofConfig (p : Provider) (n : Notification) (answer : Http.Answer)
    (url : Except SendFault Spelled) :
    (ofConfig p.config p.client).deliver n answer url = p.deliver n answer url := by
  cases url <;> rfl

/-- An action depends on what the provider remembers through its webhook alone. -/
theorem act_eq_actAt (p : Provider) (a : Action) :
    p.act env a =
      match a.group? with
      | none => (p.actAt (.error .unencodable) [] a, p)
      | some group =>
          ((ofConfig p.config p.client).actAt (p.route env group).1 (p.route env group).2.2 a,
            (p.route env group).2.1) := by
  cases a with
  | route group =>
      simp only [act, Action.group?, actAt]
      cases (p.route env group).1 <;> rfl
  | send n answer mergeDefaults =>
      have hgroup : (n.withDefaults p.config.defaultAlert).endpoint.group = n.endpoint.group := rfl
      have hdefault : (ofConfig p.config p.client).config.defaultAlert = p.config.defaultAlert :=
        rfl
      cases mergeDefaults with
      | false =>
          simp only [act, send, Action.group?, actAt, deliver_ofConfig, Bool.false_eq_true,
            if_false]
          cases (p.deliver n answer (p.route env n.endpoint.group).1).1 <;> rfl
      | true =>
          simp only [act, send, Action.group?, actAt, deliver_ofConfig, hgroup, hdefault, if_true]
          cases (p.deliver (n.withDefaults p.config.defaultAlert) answer
            (p.route env n.endpoint.group).1).1 <;> rfl
  | build n =>
      simp only [act, Action.group?, actAt]
      cases p.payload? n <;> rfl
  | isValid => rfl
  | config => rfl
  | defaultAlert => rfl

theorem act_of_override {a : Action} {group : Spelled} {url : Spelled}
    (ha : a.group? = some group) (hurl : c.overrideFor? group = some url) :
    (remembering c client first).act env a =
      ((ofConfig c client).actAt (.ok url) [] a, remembering c client first) := by
  have hroute : (remembering c client first).route env group =
      (.ok url, remembering c client first, []) := by
    simp [route, remembering, hurl]
  simp only [act_eq_actAt, ha, hroute]
  rfl

theorem act_of_default {a : Action} {group : Spelled} (ha : a.group? = some group)
    (hgroup : c.overrideFor? group = none) :
    (remembering c client first).act env a =
      ((ofConfig c client).actAt (c.defaultWebhook (first.getD env))
          (if first.isNone then c.lookupEvents env else []) a,
        remembering c client (some (first.getD env))) := by
  have hroute : (remembering c client first).route env group =
      (remembering c client first).resolveDefault env := by
    simp [route, remembering, hgroup]
  simp only [act_eq_actAt, ha, hroute, resolveDefault_remembering]
  rfl

/-- An action that does not need the default webhook leaves a provider as it is. -/
theorem act_snd_of_not_needsDefault {p : Provider} {a : Action}
    (h : a.needsDefault p.config = false) : (p.act env a).2 = p := by
  rw [act_eq_actAt]
  cases ha : a.group? with
  | none => rfl
  | some group =>
      have hsome : (p.config.overrideFor? group).isSome := by
        simpa [Action.needsDefault, ha, Config.fallsToDefault] using h
      obtain ⟨url, hurl⟩ := Option.isSome_iff_exists.mp hsome
      simp [route, hurl]

end Provider

end AlertRelay.Discord
