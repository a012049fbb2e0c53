import AlertRelay.Proofs.Command.SendTest
import AlertRelay.Proofs.Command.Validation
import AlertRelay.Proofs.Discord.Disclosure

/-!
# What the program discloses

The value of a variable that only a webhook refers to shows nowhere: not in a session of
providers, not in the settings, not in a validation, and in a test of the channel only
through how its exchange ends.
-/

namespace AlertRelay.Command

open AlertRelay.Text AlertRelay.Discord

/-! ## Surroundings -/

/-- Environments that differ in the value of one variable at most, however its name is
spelled. -/
structure DifferAt (name : Spelled) (env env' : Environment) : Prop where
  left : ∀ other, sameName other name = true → (env other).isSome = true
  right : ∀ other, sameName other name = true → (env' other).isSome = true
  others : ∀ other, sameName other name = false → env other = env' other

theorem DifferAt.sameNames {name : Spelled} {env env' : Environment}
    (h : DifferAt name env env') : env.SameNames env' := by
  intro other
  cases hother : sameName other name with
  | true => rw [h.left other hother, h.right other hother]
  | false => rw [h.others other hother]

/-- Surroundings that differ in the value of one variable, and in what the network
answers. -/
structure Surroundings.DifferAt (name : Spelled) (s s' : Surroundings) : Prop where
  env : Command.DifferAt name s.env s'.env
  files : s.files = s'.files
  stamp : s.stamp = s'.stamp
  residues : s.residues = s'.residues

/-- The variables that a run reads for itself. -/
def ownVariables : List String := completionVariable :: Settings.variableNames

/-- Whether a variable is none of some that are named. -/
def IsNoneOf (name : Spelled) (names : List String) : Prop :=
  ∀ own ∈ names, sameName (.whole own) name = false

variable {variableName : Spelled} {s s' : Surroundings} {config : Option Spelled}

theorem Surroundings.DifferAt.load_eq (h : s.DifferAt variableName s')
    (hname : IsNoneOf variableName Settings.variableNames) (residues : Value.Residues)
    (path : Option Spelled) (files : Files) :
    Settings.load residues path s.env files = Settings.load residues path s'.env files :=
  Settings.load_congr (fun other hother => h.env.others other (hname other hother)) path files

theorem Surroundings.DifferAt.loads_eq (h : s.DifferAt variableName s')
    (hname : IsNoneOf variableName Settings.variableNames) (config : Option Spelled) :
    s.load config = s'.load config := by
  rw [Surroundings.load, Surroundings.load, h.load_eq hname, h.files, h.residues]

theorem Surroundings.DifferAt.assigned?_eq (h : s.DifferAt variableName s')
    (hname : sameName (.whole completionVariable) variableName = false) :
    Settings.assigned? s.env completionVariable = Settings.assigned? s'.env completionVariable := by
  rw [Settings.assigned?, Settings.assigned?, h.env.others _ hname]

theorem Surroundings.DifferAt.asksForValidation (h : s.DifferAt variableName s')
    (hname : sameName (.whole completionVariable) variableName = false) {args : List Spelled}
    (hasks : AsksForValidation s args config) : AsksForValidation s' args config := by
  refine ⟨?_, h.files ▸ hasks.arguments⟩
  rw [← h.assigned?_eq hname]
  exact hasks.noQuestion

variable {name group : Spelled} {resolved : Bool} {conditions : List Spelled}

theorem Surroundings.DifferAt.asksForTest (h : s.DifferAt variableName s')
    (hname : sameName (.whole completionVariable) variableName = false) {args : List Spelled}
    (hasks : AsksForTest s args config name group resolved conditions) :
    AsksForTest s' args config name group resolved conditions := by
  refine ⟨?_, h.files ▸ hasks.arguments⟩
  rw [← h.assigned?_eq hname]
  exact hasks.noQuestion

/-! ## Reports -/

/-- What a run leaves to be seen. -/
def Report.shown (r : Report) : Ending × String × String := (r.ending, r.stdout, r.stderr)

theorem Report.shown_after {r r' : Report} (h : r.shown = r'.shown) (log : String) :
    (r.after log).shown = (r'.after log).shown := by
  simp only [Report.shown, Prod.mk.injEq] at h
  simp only [Report.shown, Report.after, h]

/-- The provider and the notification of a test that comes to be tried. -/
def tried? (s : Surroundings) (config : Option Spelled) (name group : Spelled) (resolved : Bool)
    (conditions : List Spelled) : Option (Provider × Notification) := do
  let settings ← (s.load config).toOption
  let c ← settings.discord
  let results ← (parseConditions conditions).toOption
  let n := testNotification name group resolved c.defaultAlert results
  guard (heldBack? n).isNone
  return (.ofConfig c .owned, n)

theorem tried?_of_held {settings : Settings} {c : Config} {results : List ConditionResult}
    (hload : s.load config = .ok settings) (hc : settings.discord = some c)
    (hresults : parseConditions conditions = .ok results)
    (hheld : heldBack? (testNotification name group resolved c.defaultAlert results) = none) :
    tried? s config name group resolved conditions =
      some (.ofConfig c .owned, testNotification name group resolved c.defaultAlert results) := by
  simp [tried?, hload, hc, hresults, Except.toOption, guard, hheld]

/-- How the exchange of a test ends, if there is one. -/
def exchangeEnd? (s : Surroundings) (config : Option Spelled) (name group : Spelled)
    (resolved : Bool) (conditions : List Spelled) : Option SendEnd :=
  (tried? s config name group resolved conditions).map fun (p, n) =>
    (p.act s.env (.send n s.answer false)).1.sendEnd s.answer

/-! ## Tests of the channel -/

theorem disclosed_act_send (p : Provider) (env : Environment) (n : Notification)
    (answer : Http.Answer) :
    (p.act env (.send n answer false)).1.disclosed =
      (replyOf (p.send env n answer).1, eventsOf (p.send env n answer).2.2) := by
  simp only [Provider.act, Bool.false_eq_true, if_false]
  generalize p.send env n answer = sent
  obtain ⟨result, next, effects⟩ := sent
  cases result <;> rfl

theorem shown_sendThrough (h : s.env.SameNames s'.env) (log : List Log.Event → String)
    (p : Provider) (n : Notification)
    (hend : heldBack? n = none →
      (p.act s.env (.send n s.answer false)).1.sendEnd s.answer =
        (p.act s'.env (.send n s'.answer false)).1.sendEnd s'.answer) :
    (sendThrough s log p n).shown = (sendThrough s' log p n).shown := by
  simp only [sendThrough]
  cases hheld : heldBack? n with
  | some message => rfl
  | none =>
      obtain ⟨hshown, -⟩ := (Provider.Alike.refl p).act_send h (hend hheld)
      simp only [disclosed_act_send, Prod.mk.injEq] at hshown
      obtain ⟨hreply, hevents⟩ := hshown
      have hresult := replyOf_injective hreply
      simp only [hresult, hevents]
      rfl

theorem shown_sendTest (h : s.DifferAt variableName s')
    (hname : IsNoneOf variableName Settings.variableNames)
    (hend : exchangeEnd? s config name group resolved conditions =
      exchangeEnd? s' config name group resolved conditions) :
    (sendTest s config name group resolved conditions).shown =
      (sendTest s' config name group resolved conditions).shown := by
  have hload := h.loads_eq hname config
  have hlog (settings : Settings) : logText s settings = logText s' settings := by
    funext events
    simp only [logText, h.stamp]
  simp only [sendTest, ← hload, ← hlog]
  cases hsettings : s.load config with
  | error f => rfl
  | ok settings =>
      dsimp only
      cases hc : settings.discord with
      | none => rfl
      | some c =>
          simp only [buildProvider, Settings.load_isValid hsettings hc, if_true]
          apply Report.shown_after
          cases hresults : parseConditions conditions with
          | error m => rfl
          | ok results =>
              apply shown_sendThrough h.env.sameNames
              intro hheld
              have htried := tried?_of_held hsettings hc hresults hheld
              have htried' := tried?_of_held (hload ▸ hsettings) hc hresults hheld
              simp only [exchangeEnd?, htried, htried', Option.map_some] at hend
              exact Option.some.inj hend

/-! ## The program -/

/-- The value of a variable that is read for webhooks only is disclosed by nothing. -/
theorem value_undisclosed (h : s.DifferAt variableName s') :
    (∀ steps steps' : List Step,
      List.Forall₂ Corresponds ((Session.start s.env).trace steps)
        ((Session.start s'.env).trace steps') →
      ((Session.start s.env).run steps).map Outcome.disclosed =
        ((Session.start s'.env).run steps').map Outcome.disclosed) ∧
    (IsNoneOf variableName ownVariables →
      (∀ residues path files,
        Settings.load residues path s.env files = Settings.load residues path s'.env files) ∧
      (∀ args config, AsksForValidation s args config → run s args = run s' args) ∧
      ∀ args config name group resolved conditions,
        AsksForTest s args config name group resolved conditions →
        exchangeEnd? s config name group resolved conditions =
          exchangeEnd? s' config name group resolved conditions →
        (run s args).shown = (run s' args).shown) := by
  refine ⟨fun steps steps' hsteps => ?_, fun hname => ⟨?_, ?_, ?_⟩⟩
  · exact (Session.start_alike h.env.sameNames).run hsteps
  all_goals obtain ⟨hown, hvariables⟩ := List.forall_mem_cons.mp hname
  · exact h.load_eq hvariables
  · intro args config hasks
    rw [run_of_asksForValidation hasks, run_of_asksForValidation (h.asksForValidation hown hasks)]
    simp only [validate, h.loads_eq hvariables]
  · intro args config name group resolved conditions hasks hend
    rw [run_of_asksForTest hasks, run_of_asksForTest (h.asksForTest hown hasks)]
    exact shown_sendTest h hvariables hend

def hookSurroundings (url : Spelled) : Surroundings where
  env := Environment.ofList [("HOOK", url)]
  files := fun _ => .ok (.file
    ("alerting: \x7bdiscord: \x7bwebhook-url: $HOOK\x7d\x7d".toList.flatMap
      String.utf8EncodeChar))
  answer := .reply ⟨204, none, []⟩
  stamp := ""

theorem hookSurroundings_differAt (url url' : Spelled) :
    (hookSurroundings url).DifferAt "HOOK" (hookSurroundings url') := by
  refine ⟨⟨fun other hother => ?_, fun other hother => ?_, fun other hother => ?_⟩, rfl, rfl,
    rfl⟩
  all_goals simp [hookSurroundings, Environment.ofList, hother]

theorem hook_isNoneOf : IsNoneOf "HOOK" ownVariables := by
  unfold IsNoneOf
  decide

def hookSteps : List Step :=
  [.make "a" Session.referringConfig .owned, .act "a" (.route ""),
    .act "a" (.send { endpoint := { name := "api" } } (.reply ⟨204, none, []⟩) false)]

/-- Two values of a webhook, each of them routed to and sent to. -/
theorem value_undisclosed_hook :
    let s := hookSurroundings "https://h/1"
    let s' := hookSurroundings "https://h/2"
    let session := Session.start s.env
    let session' := Session.start s'.env
    let validation : List Spelled := ["validate", "--config", "c.yaml"]
    let test : List Spelled := ["send-test", "--name", "api", "--config", "c.yaml"]
    s.DifferAt "HOOK" s' ∧ IsNoneOf "HOOK" ownVariables ∧
      (session.run hookSteps)[1]?.map (·.reply) = some (.url "https://h/1") ∧
      (session'.run hookSteps)[1]?.map (·.reply) = some (.url "https://h/2") ∧
      (session.run hookSteps).map Outcome.disclosed =
        (session'.run hookSteps).map Outcome.disclosed ∧
      run s validation = run s' validation ∧
      (run s test).shown = (run s' test).shown ∧ (run s test).ending = .exit 0 := by
  intro s s' session session' validation test
  have hdiffer : s.DifferAt "HOOK" s' := hookSurroundings_differAt _ _
  have hcorresponds : List.Forall₂ Corresponds (session.trace hookSteps)
      (session'.trace hookSteps) := by
    refine .cons (.same _ _ (by simp)) (.cons (.same _ _ (by simp)) (.cons (.send ?_) .nil))
    rw [Outcome.sendEnd_of_request (by decide +kernel),
      Outcome.sendEnd_of_request (by decide +kernel)]
  have hvalidation : AsksForValidation s validation (some "c.yaml") :=
    ⟨by decide +kernel, by decide +kernel⟩
  have htest : AsksForTest s test (some "c.yaml") "api" "" false [] :=
    ⟨by decide +kernel, by decide +kernel⟩
  have hend (url : Spelled) (hurl : url = "https://h/1" ∨ url = "https://h/2") :
      exchangeEnd? (hookSurroundings url) (some "c.yaml") "api" "" false [] =
        some (.response ⟨204, none, []⟩) := by
    have hload : (hookSurroundings url).load (some "c.yaml") =
        .ok { discord := some { webhookUrl := "$HOOK" } } := by
      rcases hurl with rfl | rfl <;> decide +kernel
    rw [exchangeEnd?, tried?_of_held hload rfl rfl (by decide +kernel)]
    refine congrArg some (Outcome.sendEnd_of_request ?_)
    rcases hurl with rfl | rfl <;> decide +kernel
  obtain ⟨hsessions, hruns⟩ := value_undisclosed hdiffer
  obtain ⟨-, hvalidations, htests⟩ := hruns hook_isNoneOf
  exact ⟨hdiffer, hook_isNoneOf, rfl, rfl,
    hsessions hookSteps hookSteps hcorresponds, hvalidations validation _ hvalidation,
    htests test _ _ _ _ _ htest ((hend _ (.inl rfl)).trans (hend _ (.inr rfl)).symm),
    by decide +kernel⟩

end AlertRelay.Command
