import AlertRelay.Proofs.Environment
import AlertRelay.Proofs.Run
import AlertRelay.Secret

/-!
# What a secret remembers

The first time that a secret is asked for, it keeps what its configured value stands for in
the environment of that moment, and it logs the lookup then and only then.  So each of several
secrets is settled by its configured value and by the place of the first step that resolves it.
-/

namespace AlertRelay.Secret

open AlertRelay.Text

variable {raw : Spelled} {env : Environment} {first : Option Environment} {ref : String}

/-! ## Configured values -/

/-- Whether a configured value begins with a dollar sign. -/
def beginsLikeReference (raw : Spelled) : Bool := raw.points.head? == some (.char '$')

/-- A reference to a text that is the name of no variable: one of its halves stands for no
byte. -/
def IsUnnamed (raw : Spelled) : Prop := ∃ name : Spelled, raw = "$" ++ name ∧ isName name = false

/-- What is logged when a variable is looked up: its name, and whether it is there. -/
def lookupEvent (component : String) (name : Spelled) (value : Option Spelled) : Log.Event :=
  if value.isSome then
    ⟨component, .debug, "secret_ref_resolved", [("env_var", .text name)]⟩
  else ⟨component, .warning, "secret_ref_env_var_missing", [("env_var", .text name)]⟩

theorem referredName?_eq_some_iff {name : Spelled} :
    referredName? raw = some name ↔ raw = "$" ++ name := by
  have hdollar : ("$" ++ name : Spelled).points = .char '$' :: name.points := rfl
  constructor
  · intro h
    simp only [referredName?] at h
    split at h
    · rename_i points hraw
      obtain rfl := Option.some.inj h
      exact Spelled.ext hraw
    · simp at h
  · rintro rfl
    simp only [referredName?, hdollar]

theorem referredName?_append (name : Spelled) : referredName? ("$" ++ name) = some name :=
  referredName?_eq_some_iff.mpr rfl

theorem referredName?_eq_none_iff :
    referredName? raw = none ↔ beginsLikeReference raw = false := by
  simp only [referredName?, beginsLikeReference]
  split
  · simp_all
  · rename_i hraw
    simp only [true_iff, beq_eq_false_iff_ne, ne_eq]
    intro hhead
    obtain ⟨name, hname⟩ := List.head?_eq_some_iff.mp hhead
    exact hraw name hname

theorem resolves_direct (h : beginsLikeReference raw = false) (component : String)
    (env : Environment) : valueOf raw env = some raw ∧ lookupEvents component raw env = [] := by
  have hnone := referredName?_eq_none_iff.mpr h
  simp [valueOf, lookupEvents, hnone]

theorem resolves_reference {name : Spelled} (hname : isName name = true) (component : String)
    (env : Environment) :
    valueOf ("$" ++ name) env = some ((env name).getD "") ∧
      lookupEvents component ("$" ++ name) env = [lookupEvent component name (env name)] := by
  have hreferred := referredName?_append name
  refine ⟨by simp [valueOf, hreferred, hname], ?_⟩
  simp only [lookupEvents, hreferred, Option.filter_some, hname, if_true, lookupEvent]
  split <;> rfl

theorem resolves_unnamed (h : IsUnnamed raw) (component : String) (env : Environment) :
    valueOf raw env = none ∧ lookupEvents component raw env = [] := by
  obtain ⟨name, rfl, hname⟩ := h
  simp [valueOf, lookupEvents, referredName?_append, Option.filter_some, hname]

theorem valueOf_eq_none_iff : valueOf raw env = none ↔ IsUnnamed raw := by
  refine ⟨fun h => ?_, fun h => (resolves_unnamed h "" env).1⟩
  simp only [valueOf] at h
  split at h
  · simp at h
  · rename_i name hname
    split at h
    · simp at h
    · rename_i hunnamed
      exact ⟨name, referredName?_eq_some_iff.mp hname, by simpa using hunnamed⟩

theorem name_of_mem_lookupEvents {component : String} {e : Log.Event}
    (he : e ∈ lookupEvents component raw env) :
    e.name = "secret_ref_resolved" ∨ e.name = "secret_ref_env_var_missing" := by
  simp only [lookupEvents] at he
  split at he
  · simp at he
  · split at he
    · obtain rfl := List.mem_singleton.mp he
      exact .inl rfl
    · obtain rfl := List.mem_singleton.mp he
      exact .inr rfl

theorem name_of_mem_resolve {component : String} {s : Secret} {e : Log.Event}
    (he : e ∈ (s.resolve component env).2.2) :
    e.name = "secret_ref_resolved" ∨ e.name = "secret_ref_env_var_missing" := by
  cases hvalue : s.value with
  | some value => simp [resolve, hvalue] at he
  | none => exact name_of_mem_lookupEvents (by simpa [resolve, hvalue] using he)

/-! ## One secret -/

/-- The secret of a configured value that was asked for first in the given environment, if
it was asked for at all. -/
def remembering (raw : Spelled) (first : Option Environment) : Secret :=
  ⟨raw, first.bind (valueOf raw)⟩

theorem isResolved_remembering (h : ¬IsUnnamed raw) :
    (remembering raw first).isResolved = first.isSome := by
  cases first with
  | none => rfl
  | some env =>
      have hvalue : valueOf raw env ≠ none := by rwa [ne_eq, valueOf_eq_none_iff]
      simpa [remembering, isResolved, Option.isSome_iff_ne_none] using hvalue

theorem resolve_remembering (component : String) :
    (remembering raw first).resolve component env =
      (valueOf raw (first.getD env), remembering raw (some (first.getD env)),
        if first.isNone then lookupEvents component raw env else []) := by
  cases first with
  | none => rfl
  | some seen =>
      cases hvalue : valueOf raw seen with
      | some value => simp [remembering, resolve, hvalue]
      | none =>
          -- nothing was kept, so the value is asked for again, and again there is none
          have hunnamed := valueOf_eq_none_iff.mp hvalue
          obtain ⟨hnone, hsilent⟩ := resolves_unnamed hunnamed component env
          simp [remembering, resolve, hvalue, hnone, hsilent]

/-! ## Steps -/

namespace Step

def environment (env : Environment) : Step → Environment
  | .assign name value => env.assign name value
  | .resolve _ | .isResolved _ | .raw _ => env

def environmentAfter (env : Environment) (steps : List Step) : Environment :=
  steps.foldl environment env

def isOf (ref : String) : Step → Bool
  | .resolve other | .isResolved other | .raw other => other = ref
  | .assign _ _ => false

def resolves (ref : String) : Step → Bool
  | .resolve other => other = ref
  | .isResolved _ | .raw _ | .assign _ _ => false

/-- The environment in which a secret is resolved first. -/
def firstResolve? (ref : String) (env : Environment) (steps : List Step) : Option Environment :=
  firstState? environment (resolves ref) env steps

theorem firstResolve?_cons (ref : String) (env : Environment) (x : Step) (steps : List Step) :
    firstResolve? ref env (x :: steps) =
      if x.resolves ref then some env else firstResolve? ref (x.environment env) steps :=
  firstState?_cons environment (resolves ref) env x steps

end Step

namespace Run

variable {r : Run} {name : String} {s : Secret}

def after (r : Run) (steps : List Step) : Run := steps.foldl (fun r x => (r.step x).2.2) r

@[simp] theorem env_start (env : Environment) (refs : List String) (raw : Spelled) :
    (start env refs raw).env = env := rfl

theorem lookup_start {refs : List String} (href : ref ∈ refs) :
    (start env refs raw).secrets.lookup ref = some (remembering raw none) := by
  simp only [start]
  induction refs with
  | nil => simp at href
  | cons other refs ih =>
      by_cases hother : ref = other
      · simp [hother, remembering]
      · have hne : (ref == other) = false := by simpa using hother
        have hrest : ref ∈ refs := by simpa [hother] using href
        simpa [List.lookup_cons, hne] using ih hrest

theorem lookup_update :
    (r.update ref s).secrets.lookup name =
      if name = ref then (r.secrets.lookup name).map fun _ => s else r.secrets.lookup name := by
  simp only [update]
  induction r.secrets with
  | nil => simp
  | cons entry secrets ih =>
      obtain ⟨key, t⟩ := entry
      by_cases hname : name = key
      · subst hname
        by_cases href : name = ref <;> simp [href]
      · have hne : (name == key) = false := by simpa using hname
        have hskip (u : Secret) (rest : List (String × Secret)) :
            ((key, u) :: rest).lookup name = rest.lookup name := by
          simp [List.lookup_cons, hne]
        by_cases hkey : key = ref
        · simp only [List.map_cons, if_pos hkey, hskip, ih]
        · simp only [List.map_cons, if_neg hkey, hskip, ih]

theorem env_step (r : Run) (x : Step) : (r.step x).2.2.env = x.environment r.env := by
  cases x with
  | resolve ref => simp only [step]; split <;> rfl
  | isResolved ref => simp only [step]; split <;> rfl
  | raw ref => simp only [step]; split <;> rfl
  | assign name value => rfl

theorem env_after (r : Run) (steps : List Step) :
    (r.after steps).env = Step.environmentAfter r.env steps := by
  induction steps generalizing r with
  | nil => rfl
  | cons x steps ih =>
      have hrest := ih (r.step x).2.2
      rw [env_step] at hrest
      exact hrest

/-! ## What a step keeps, and what a run keeps -/

theorem lookup_step (h : r.secrets.lookup ref = some (remembering raw first)) (x : Step) :
    (r.step x).2.2.secrets.lookup ref =
      some (remembering raw (first <|> if x.resolves ref then some r.env else none)) := by
  cases x with
  | resolve other =>
      by_cases hother : other = ref
      · subst hother
        simp only [step, h, resolve_remembering, lookup_update]
        cases first <;> simp [Step.resolves]
      · simp only [step]
        split
        · simpa [Step.resolves, hother] using h
        · simpa [Step.resolves, hother, lookup_update, Ne.symm hother] using h
  | isResolved other =>
      simp only [step]
      split <;> simpa [Step.resolves] using h
  | raw other =>
      simp only [step]
      split <;> simpa [Step.resolves] using h
  | assign name value => simpa [step, Step.resolves] using h

theorem lookup_after (steps : List Step)
    (h : r.secrets.lookup ref = some (remembering raw first)) :
    (r.after steps).secrets.lookup ref =
      some (remembering raw (first <|> Step.firstResolve? ref r.env steps)) := by
  -- the invariant is which environment the secret was resolved in first, if any
  induction steps generalizing r first with
  | nil => simpa [after, Step.firstResolve?, firstState?] using h
  | cons x steps ih =>
      have hrest := ih (lookup_step h x)
      rw [env_step] at hrest
      rw [Step.firstResolve?_cons]
      change ((r.step x).2.2.after steps).secrets.lookup ref = _
      rw [hrest]
      cases first <;> by_cases hx : x.resolves ref <;> simp [hx]

theorem getElem?_steps {steps : List Step} {i : Nat} {x : Step} (hx : steps[i]? = some x) :
    (r.steps steps)[i]? =
      some (((r.after (steps.take i)).step x).1, ((r.after (steps.take i)).step x).2.1) :=
  getElem?_outputs (fun r x => (((step r x).1, (step r x).2.1), (step r x).2.2)) Run.steps
    (fun _ _ _ => rfl) hx

/-! ## What is logged -/

/-- What the steps of one secret have left in the log. -/
def eventsOf (ref : String) (steps : List Step) (answers : List (Answer × List Log.Event)) :
    List Log.Event :=
  (steps.zip answers).flatMap fun (x, _, events) => if x.isOf ref then events else []

theorem events_step (h : r.secrets.lookup ref = some (remembering raw first)) (x : Step) :
    (if x.isOf ref then (r.step x).2.1 else []) =
      if x.resolves ref && first.isNone then lookupEvents component raw r.env else [] := by
  cases x with
  | resolve other =>
      by_cases hother : other = ref
      · subst hother
        simp [Step.isOf, Step.resolves, step, h, resolve_remembering]
      · simp [Step.isOf, Step.resolves, hother]
  | isResolved other =>
      have hsilent : (r.step (.isResolved other)).2.1 = [] := by
        simp only [step]
        split <;> rfl
      simp [hsilent, Step.resolves]
  | raw other =>
      have hsilent : (r.step (.raw other)).2.1 = [] := by
        simp only [step]
        split <;> rfl
      simp [hsilent, Step.resolves]
  | assign name value => simp [Step.isOf, Step.resolves]

/-- A secret logs one lookup in all, unless it was resolved before. -/
theorem eventsOf_steps (steps : List Step)
    (h : r.secrets.lookup ref = some (remembering raw first)) :
    eventsOf ref steps (r.steps steps) =
      if first.isSome then []
      else ((Step.firstResolve? ref r.env steps).map (lookupEvents component raw)).getD [] := by
  induction steps generalizing r first with
  | nil => simp [eventsOf, Step.firstResolve?, firstState?]
  | cons x steps ih =>
      have hrest := ih (lookup_step h x)
      rw [env_step] at hrest
      have hcons : eventsOf ref (x :: steps) (r.steps (x :: steps)) =
          (if x.isOf ref then (r.step x).2.1 else []) ++
            eventsOf ref steps ((r.step x).2.2.steps steps) := rfl
      rw [hcons, events_step h, hrest, Step.firstResolve?_cons]
      cases first <;> by_cases hx : x.resolves ref <;> simp [hx]

/-! ## Each of several secrets -/

theorem getElem?_resolve {steps : List Step} {i : Nat}
    (h : r.secrets.lookup ref = some (remembering raw none))
    (hi : steps[i]? = some (.resolve ref)) :
    ∃ j ≤ i, steps.findIdx? (Step.resolves ref) = some j ∧
      (r.steps steps)[i]? =
        some ((valueOf raw (Step.environmentAfter r.env (steps.take j))).elim .unencodable .text,
          if i = j then lookupEvents component raw (Step.environmentAfter r.env (steps.take j))
          else []) := by
  have hone : Step.resolves ref (.resolve ref) = true := by simp [Step.resolves]
  obtain ⟨j, hle, hj, hfirst⟩ := exists_firstState Step.environment r.env hi hone
  refine ⟨j, hle, hj, ?_⟩
  have hlookup := lookup_after (steps.take i) h
  rw [Step.firstResolve?, hfirst] at hlookup
  rw [getElem?_steps hi]
  simp only [step, hlookup, resolve_remembering, env_after]
  by_cases hij : i = j
  · subst hij
    simp
  · simp [hij, Step.environmentAfter]

/-- A secret answers with its configured value, or with what the variable that this refers
to held when the secret was first resolved.  From then on it is resolved, and the first
lookup is all that it ever logs. -/
theorem steps_settle (env : Environment) {refs : List String} (raw : Spelled) {ref : String}
    (href : ref ∈ refs) (steps : List Step) :
    let answers := (start env refs raw).steps steps
    let environmentBefore (i : Nat) := Step.environmentAfter env (steps.take i)
    (∀ i : Nat, steps[i]? = some (.resolve ref) → beginsLikeReference raw = false →
      answers[i]? = some (.text raw, [])) ∧
    (∀ (i : Nat) (name : Spelled), steps[i]? = some (.resolve ref) → raw = "$" ++ name →
      isName name = true → ∃ j ≤ i, steps.findIdx? (Step.resolves ref) = some j ∧
        answers[i]? = some (.text ((environmentBefore j name).getD ""),
          if i = j then [lookupEvent component name (environmentBefore j name)] else [])) ∧
    (∀ i : Nat, steps[i]? = some (.isResolved ref) → ¬IsUnnamed raw →
      answers[i]? = some (.truth ((steps.take i).any (Step.resolves ref)), [])) ∧
    (∀ i : Nat, steps[i]? = some (.raw ref) → answers[i]? = some (.text raw, [])) ∧
    (∀ i : Nat, ∃ s, ((start env refs raw).after (steps.take i)).secrets.lookup ref = some s ∧
      s.raw = raw) ∧
    (beginsLikeReference raw = false → eventsOf ref steps answers = []) ∧
    (∀ name : Spelled, raw = "$" ++ name → isName name = true → eventsOf ref steps answers =
      match steps.findIdx? (Step.resolves ref) with
      | none => []
      | some j => [lookupEvent component name (environmentBefore j name)]) := by
  intro answers environmentBefore
  have hstart : (start env refs raw).secrets.lookup ref = some (remembering raw none) :=
    lookup_start href
  have hbefore (i : Nat) := lookup_after (steps.take i) hstart
  refine ⟨?_, ?_, ?_, ?_, fun i => ⟨_, hbefore i, rfl⟩, ?_, ?_⟩
  · intro i hi hdirect
    obtain ⟨j, -, -, hanswer⟩ := getElem?_resolve hstart hi
    obtain ⟨hvalue, hsilent⟩ :=
      resolves_direct hdirect component (Step.environmentAfter env (steps.take j))
    simpa [answers, hvalue, hsilent] using hanswer
  · rintro i name hi rfl hname
    obtain ⟨j, hle, hj, hanswer⟩ := getElem?_resolve hstart hi
    obtain ⟨hvalue, hevent⟩ :=
      resolves_reference hname component (Step.environmentAfter env (steps.take j))
    refine ⟨j, hle, hj, ?_⟩
    simpa [answers, environmentBefore, hvalue, hevent] using hanswer
  · intro i hi hnamed
    rw [getElem?_steps hi]
    simp only [step, hbefore i, isResolved_remembering hnamed]
    simp [Step.firstResolve?, isSome_firstState?]
  · intro i hi
    rw [getElem?_steps hi]
    simp only [step, hbefore i]
    rfl
  · intro hdirect
    rw [eventsOf_steps steps hstart]
    cases hfirst : Step.firstResolve? ref (start env refs raw).env steps with
    | none => rfl
    | some seen => simp [(resolves_direct hdirect component seen).2]
  · rintro name rfl hname
    rw [eventsOf_steps steps hstart, Step.firstResolve?, firstState?]
    cases steps.findIdx? (Step.resolves ref) with
    | none => rfl
    | some j => exact (resolves_reference hname component (environmentBefore j)).2

/-- Two secrets of one reference to a variable that comes and goes. -/
def changingSteps : List Step :=
  [.isResolved "a", .resolve "a", .isResolved "a", .assign "HOOK" (some "u"), .resolve "a",
    .resolve "b", .assign "HOOK" none, .resolve "b", .raw "b"]

theorem changingSteps_settle :
    let answers := (start Environment.empty ["a", "b"] "$HOOK").steps changingSteps
    "a" ∈ ["a", "b"] ∧ "b" ∈ ["a", "b"] ∧
      answers[1]? = some (.text "", [lookupEvent component "HOOK" none]) ∧
      answers[2]? = some (.truth true, []) ∧
      answers[4]? = some (.text "", []) ∧
      answers[7]? = some (.text "u", []) ∧
      eventsOf "b" changingSteps answers = [lookupEvent component "HOOK" (some "u")] := by
  intro answers
  have ha : "a" ∈ ["a", "b"] := by simp
  have hb : "b" ∈ ["a", "b"] := by simp
  obtain ⟨-, hresolved, htruth, -, -, -, -⟩ :=
    steps_settle Environment.empty "$HOOK" ha changingSteps
  obtain ⟨-, hresolved', -, -, -, -, hlogged⟩ :=
    steps_settle Environment.empty "$HOOK" hb changingSteps
  have hname : isName "HOOK" = true := isName_whole "HOOK"
  have hdirect : ¬IsUnnamed "$HOOK" := by
    rintro ⟨name, hraw, hunnamed⟩
    obtain rfl : "HOOK" = name := (Spelled.append_right_inj "$").mp hraw
    simp [hname] at hunnamed
  have hfirst : changingSteps.findIdx? (Step.resolves "a") = some 1 := by decide
  have hfirst' : changingSteps.findIdx? (Step.resolves "b") = some 5 := by decide
  refine ⟨ha, hb, ?_, ?_, ?_, ?_, ?_⟩
  · obtain ⟨j, -, hj, hanswer⟩ := hresolved 1 "HOOK" rfl rfl hname
    obtain rfl : 1 = j := by simpa [hfirst] using hj
    exact hanswer
  · exact htruth 2 rfl hdirect
  · obtain ⟨j, -, hj, hanswer⟩ := hresolved 4 "HOOK" rfl rfl hname
    obtain rfl : 1 = j := by simpa [hfirst] using hj
    exact hanswer
  · obtain ⟨j, -, hj, hanswer⟩ := hresolved' 7 "HOOK" rfl rfl hname
    obtain rfl : 5 = j := by simpa [hfirst'] using hj
    exact hanswer
  · have hall := hlogged "HOOK" rfl hname
    rw [hfirst'] at hall
    exact hall

/-- A reference to a name that no variable can have stands for no value.  It is never resolved
and never logged. -/
theorem steps_of_unnamed :
    let raw : Spelled := ⟨[.char '$', .half false 0]⟩
    let steps : List Step := [.resolve "a", .isResolved "a"]
    let answers := (start Environment.empty ["a"] raw).steps steps
    answers = [(.unencodable, []), (.truth false, [])] ∧ eventsOf "a" steps answers = [] ∧
      ∀ value events, answers[0]? ≠ some (.text value, events) := by
  intro raw steps answers
  have hanswers : answers = [(.unencodable, []), (.truth false, [])] := rfl
  refine ⟨hanswers, rfl, fun value events h => ?_⟩
  rw [hanswers] at h
  simp at h

end Run

end AlertRelay.Secret
