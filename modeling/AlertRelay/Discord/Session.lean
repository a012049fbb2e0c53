import AlertRelay.Discord.Provider

/-!
# Sessions

Several providers side by side in one environment, and what is asked of them
one step after the other.
-/

namespace AlertRelay.Discord

open AlertRelay.Text

inductive Action where
  | route (group : Spelled)
  /-- `mergeDefaults` fills the alert from the provider's default first -/
  | send (n : Notification) (answer : Http.Answer) (mergeDefaults : Bool)
  | build (n : Notification)
  | isValid
  | config
  | defaultAlert
  deriving DecidableEq, Repr

inductive Step where
  /-- a provider made from a configuration without any check -/
  | make (id : String) (config : Config) (client : ClientMode)
  /-- a provider made from a configuration that is checked first -/
  | build (id : String) (config : Option Config) (client : ClientMode)
  | act (id : String) (action : Action)
  | assign (name : Spelled) (value : Option Spelled)
  deriving DecidableEq, Repr

inductive Reply where
  | nothing
  | created (providerName : Option String)
  | notCreated (fault : BuildFault)
  | url (s : Spelled)
  | payload (body : Json)
  | truth (b : Bool)
  | config (c : Config)
  | defaultAlert (a : Option Alert)
  | sent
  /-- nothing was sent, routed to or built -/
  | failed (fault : SendFault)
  deriving Repr, Inhabited

structure Session where
  env : Environment
  providers : List (String × Provider)

structure Outcome where
  reply : Reply
  effects : List Effect := []
  deriving Repr, Inhabited

/-! ## One provider -/

def Provider.act (env : Environment) (p : Provider) : Action → Outcome × Provider
  | .route group =>
      let (url, p, events) := p.route env group
      match url with
      | .ok url => (⟨.url url, events.map .log⟩, p)
      | .error f => (⟨.failed f, events.map .log⟩, p)
  | .send n answer mergeDefaults =>
      let (result, p, effects) :=
        p.send env (if mergeDefaults then n.withDefaults p.config.defaultAlert else n) answer
      match result with
      | .ok () => (⟨.sent, effects⟩, p)
      | .error f => (⟨.failed f, effects⟩, p)
  | .build n =>
      match p.payload? n with
      | some body => (⟨.payload body, []⟩, p)
      | none => (⟨.failed .unwritable, []⟩, p)
  | .isValid => (⟨.truth p.config.isValid, []⟩, p)
  | .config => (⟨.config p.config, []⟩, p)
  | .defaultAlert => (⟨.defaultAlert p.config.defaultAlert, []⟩, p)

/-! ## All providers -/

namespace Session

def start (env : Environment) : Session := ⟨env, []⟩

/-- A provider under its name; one that has the name already is replaced. -/
def store (id : String) (p : Provider) (s : Session) : Session :=
  { s with providers := Json.setField id p s.providers }

def step (s : Session) : Step → Outcome × Session
  | .make id config client =>
      (⟨.created (some Provider.name), []⟩, s.store id (.ofConfig config client))
  | .build id config client =>
      match buildProvider config client with
      | .error f => (⟨.notCreated f, []⟩, s)
      | .ok (none, events) => (⟨.created none, events.map .log⟩, s)
      | .ok (some p, events) =>
          (⟨.created (some Provider.name), events.map .log⟩, s.store id p)
  | .act id action =>
      match s.providers.lookup id with
      | none => (⟨.nothing, []⟩, s)
      | some p =>
          let (outcome, p) := p.act s.env action
          (outcome, s.store id p)
  | .assign name value => (⟨.nothing, []⟩, { s with env := s.env.assign name value })

def run (s : Session) : List Step → List Outcome
  | [] => []
  | step :: rest =>
      let (outcome, s) := s.step step
      outcome :: run s rest

end Session

end AlertRelay.Discord
