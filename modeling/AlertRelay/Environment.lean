import AlertRelay.Text.Point

/-!
# Environments

The variables of a process by name.  A variable is kept in bytes, and so is its name: texts
that stand for the same bytes name the same variable, and a text that stands for no bytes
names none.
-/

namespace AlertRelay

open AlertRelay.Text

/-- What a variable holds that is asked for by a name. -/
abbrev Environment := Spelled → Option Spelled

/-- Whether two texts stand for the same bytes, and so name one variable. -/
def sameName (a b : Spelled) : Bool := a.bytes? == b.bytes?

/-- Whether a variable can have a name. -/
def isName (name : Spelled) : Bool := name.bytes?.isSome

namespace Environment

def empty : Environment := fun _ => none

/-- The environment with one variable set to a text, or taken away. -/
def assign (env : Environment) (name : Spelled) (value : Option Spelled) : Environment :=
  fun n => if sameName n name then value else env n

/-- The environment of a list of variables; the first entry of a name counts. -/
def ofList (entries : List (Spelled × Spelled)) : Environment :=
  fun n => (entries.find? fun (name, _) => sameName n name).map (·.2)

end Environment

end AlertRelay
