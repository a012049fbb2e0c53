import AlertRelay.Proofs.Discord.Session

/-!
# Runs under a change

The configurations of a run, the clients that its providers post through and what is asked of
them can be changed.  A change that is not seen in any single action, however its webhook is
found, is not seen in a run, and what the providers remember is the same.
-/

namespace AlertRelay

namespace Discord

open AlertRelay.Text

structure Change where
  config : Config → Config := id
  client : ClientMode → ClientMode := id
  action : Action → Action := id

namespace Change

variable {γ : Type} (f : Change)

def provider (p : Provider) : Provider :=
  { p with config := f.config p.config, client := f.client p.client }

def step : Step → Step
  | .make id c client => .make id (f.config c) (f.client client)
  | .build id c client => .build id (c.map f.config) (f.client client)
  | .act id a => .act id (f.action a)
  | .assign name value => .assign name value

def session (s : Session) : Session :=
  { s with providers := s.providers.map fun (id, p) => (id, f.provider p) }

@[simp] theorem env_session (s : Session) : (f.session s).env = s.env := rfl

theorem lookup_session (s : Session) (id : String) :
    (f.session s).providers.lookup id = (s.providers.lookup id).map f.provider :=
  Json.lookup_map f.provider id s.providers

theorem store_session (s : Session) (id : String) (p : Provider) :
    (f.session s).store id (f.provider p) = f.session (s.store id p) := by
  have hproviders := Json.setField_map f.provider id p s.providers
  simp only [session, Session.store, hproviders]

/-- A change after which routes are the same, providers are made of the same configurations,
and each action whose webhook is known looks the same. -/
structure IsUnseen (view : Outcome → γ) : Prop where
  webhookUrl : ∀ c, (f.config c).webhookUrl = c.webhookUrl
  overrideFor? : ∀ c group, (f.config c).overrideFor? group = c.overrideFor? group
  isValid : ∀ c, (f.config c).isValid = c.isValid
  length : ∀ c, (f.config c).overrides.length = c.overrides.length
  defaultAlert : ∀ c, (f.config c).defaultAlert = c.defaultAlert
  group? : ∀ a, (f.action a).group? = a.group?
  actAt : ∀ p url lookup a,
    view ((f.provider p).actAt url lookup (f.action a)) = view (p.actAt url lookup a)

variable {f : Change} {view : Outcome → γ}

/-! ## One step -/

theorem IsUnseen.ofConfig (h : f.IsUnseen view) (c : Config) (client : ClientMode) :
    Provider.ofConfig (f.config c) (f.client client) = f.provider (.ofConfig c client) := by
  simp only [Provider.ofConfig, provider, h.webhookUrl]

theorem IsUnseen.buildProvider (h : f.IsUnseen view) (c : Option Config) (client : ClientMode) :
    buildProvider (c.map f.config) (f.client client) =
      (buildProvider c client).map fun (p, events) => (p.map f.provider, events) := by
  cases c with
  | none => rfl
  | some c =>
      cases hvalid : c.isValid <;>
        simp [Discord.buildProvider, hvalid, h.isValid, h.length, h.defaultAlert, h.ofConfig,
          Except.map]

theorem IsUnseen.route (h : f.IsUnseen view) (env : Environment) (group : Spelled)
    (p : Provider) :
    (f.provider p).route env group =
      ((p.route env group).1, f.provider (p.route env group).2.1, (p.route env group).2.2) := by
  simp only [Provider.route, provider, h.overrideFor?]
  cases p.config.overrideFor? group <;> rfl

theorem IsUnseen.act (h : f.IsUnseen view) (env : Environment) (p : Provider) (a : Action) :
    view ((f.provider p).act env (f.action a)).1 = view (p.act env a).1 ∧
      ((f.provider p).act env (f.action a)).2 = f.provider (p.act env a).2 := by
  rw [Provider.act_eq_actAt, Provider.act_eq_actAt, h.group?]
  cases a.group? with
  | none => exact ⟨h.actAt p (.error .unencodable) [] a, rfl⟩
  | some group =>
      -- what a provider remembers shows in its route alone
      have hfresh : Provider.ofConfig (f.provider p).config (f.provider p).client =
          f.provider (.ofConfig p.config p.client) := h.ofConfig p.config p.client
      simp only [h.route, hfresh, and_true]
      exact h.actAt _ _ _ a

theorem IsUnseen.step (h : f.IsUnseen view) (s : Session) (x : Step) :
    view ((f.session s).step (f.step x)).1 = view (s.step x).1 ∧
      ((f.session s).step (f.step x)).2 = f.session (s.step x).2 := by
  cases x with
  | make id c client =>
      simp only [Change.step, Session.step, h.ofConfig, store_session, and_self]
  | build id c client =>
      simp only [Change.step, Session.step, h.buildProvider]
      rcases hbuilt : Discord.buildProvider c client with fault | ⟨p, events⟩
      · exact ⟨rfl, rfl⟩
      · cases p with
        | none => exact ⟨rfl, rfl⟩
        | some p => exact ⟨rfl, f.store_session s id p⟩
  | act id a =>
      simp only [Change.step, Session.step, lookup_session]
      cases s.providers.lookup id with
      | none => exact ⟨rfl, rfl⟩
      | some p =>
          obtain ⟨hview, hnext⟩ := h.act s.env p a
          refine ⟨hview, ?_⟩
          simp only [Option.map_some, env_session, hnext, store_session]
  | assign name value => exact ⟨rfl, rfl⟩

/-! ## A run -/

theorem IsUnseen.after (h : f.IsUnseen view) (s : Session) (steps : List Step) :
    (f.session s).after (steps.map f.step) = f.session (s.after steps) := by
  induction steps generalizing s with
  | nil => rfl
  | cons x steps ih =>
      have hrest := ih (s.step x).2
      rw [← (h.step s x).2] at hrest
      exact hrest

theorem IsUnseen.run (h : f.IsUnseen view) (s : Session) (steps : List Step) :
    ((f.session s).run (steps.map f.step)).map view = (s.run steps).map view := by
  induction steps generalizing s with
  | nil => rfl
  | cons x steps ih =>
      obtain ⟨hview, hnext⟩ := h.step s x
      simp only [List.map_cons, Session.run, hview, hnext, ih]

/-- Runs that the change makes the same look the same, and lead to the same but for it. -/
theorem IsUnseen.congr (h : f.IsUnseen view) (s : Session) {xs ys : List Step}
    (hsteps : xs.map f.step = ys.map f.step) :
    f.session (s.after xs) = f.session (s.after ys) ∧
      (s.run xs).map view = (s.run ys).map view := by
  constructor
  · rw [← h.after s xs, hsteps, h.after s ys]
  · rw [← h.run s xs, hsteps, h.run s ys]

end Change

end Discord

end AlertRelay
