import AlertRelay.Environment
import AlertRelay.Log.Basic
import AlertRelay.Text.Point

/-!
# Secrets

A configured value that begins with a dollar sign is a reference: the rest is
the name of a variable of the environment, which holds the secret itself.  The
variable is read on first use and never again.  Diagnostics name the variable
and never show its value.

A name may hold halves of pairs.  A low half that stands for a byte beyond ASCII is part
of a name like any character.  Any other half stands for no byte: a variable with such a
name cannot even be asked for, and the reference stands for nothing.
-/

namespace AlertRelay

open AlertRelay.Text

/-- The name of the variable that a value refers to, if it is a reference. -/
def referredName? (value : Spelled) : Option Spelled :=
  match value.points with
  | .char '$' :: name => some ⟨name⟩
  | _ => none

def isReference (value : Spelled) : Bool := (referredName? value).isSome

/-- A configured value, and what it was found to stand for. -/
structure Secret where
  raw : Spelled
  value : Option Spelled := none
  deriving DecidableEq, Repr, Inhabited

namespace Secret

def isResolved (s : Secret) : Bool := s.value.isSome

/-- What a configured value stands for in an environment, unless it is a reference
to a variable that cannot be asked for. -/
def valueOf (raw : Spelled) (env : Environment) : Option Spelled :=
  match referredName? raw with
  | none => some raw
  | some name => if isName name then some ((env name).getD "") else none

/-- What the first use of a configured value leaves in the log. -/
def lookupEvents (component : String) (raw : Spelled) (env : Environment) : List Log.Event :=
  match (referredName? raw).filter isName with
  | none => []
  | some name =>
      let fields : List (Spelled × Json) := [("env_var", .text name)]
      if (env name).isSome then [⟨component, .debug, "secret_ref_resolved", fields⟩]
      else [⟨component, .warning, "secret_ref_env_var_missing", fields⟩]

/-- The value if there is one, the secret that remembers it, and what was logged. -/
def resolve (component : String) (env : Environment) (s : Secret) :
    Option Spelled × Secret × List Log.Event :=
  match s.value with
  | some value => (some value, s, [])
  | none =>
      let value := valueOf s.raw env
      (value, { s with value := value }, lookupEvents component s.raw env)

end Secret

/-! ## Runs -/

namespace Secret

/-- What is done with one of several secrets, or with the environment. -/
inductive Step where
  | resolve (ref : String)
  | isResolved (ref : String)
  | raw (ref : String)
  | assign (name : Spelled) (value : Option Spelled)
  deriving DecidableEq, Repr

inductive Answer where
  | text (s : Spelled)
  | truth (b : Bool)
  /-- the step has no answer -/
  | nothing
  /-- the variable that is referred to cannot be asked for -/
  | unencodable
  deriving DecidableEq, Repr

/-- The environment and the secrets made from one configured value. -/
structure Run where
  env : Environment
  secrets : List (String × Secret)

/-- The component that the events of secrets of their own come from. -/
def component : String := "notifications.secrets"

namespace Run

/-- Secrets made from one configured value. -/
def start (env : Environment) (refs : List String) (raw : Spelled) : Run :=
  ⟨env, refs.map fun ref => (ref, ⟨raw, none⟩)⟩

def update (ref : String) (s : Secret) (r : Run) : Run :=
  { r with secrets := r.secrets.map fun (name, t) => if name = ref then (name, s) else (name, t) }

def step (r : Run) : Step → Answer × List Log.Event × Run
  | .resolve ref =>
      match r.secrets.lookup ref with
      | none => (.nothing, [], r)
      | some s =>
          let (value, s, events) := s.resolve component r.env
          (value.elim .unencodable .text, events, r.update ref s)
  | .isResolved ref =>
      match r.secrets.lookup ref with
      | none => (.nothing, [], r)
      | some s => (.truth s.isResolved, [], r)
  | .raw ref =>
      match r.secrets.lookup ref with
      | none => (.nothing, [], r)
      | some s => (.text s.raw, [], r)
  | .assign name value => (.nothing, [], { r with env := r.env.assign name value })

def steps (r : Run) : List Step → List (Answer × List Log.Event)
  | [] => []
  | s :: rest =>
      let (answer, events, r) := r.step s
      (answer, events) :: steps r rest

end Run

end Secret

end AlertRelay
