import AlertRelay.Log.Call

/-!
# Journals

A log that has been set up has a form, a threshold and a text.  Calls add to the end of the
text, and a call that fails adds nothing.
-/

namespace AlertRelay.Log

open AlertRelay.Text

structure Journal where
  form : Form
  threshold : Nat
  text : Spelled := ""
  deriving DecidableEq, Repr, Inhabited

namespace Journal

/-- The empty log with the threshold of a level that is given by its name. -/
def start (level : Spelled) (form : Form) : Journal :=
  { form := form, threshold := thresholdNamed level }

/-- A call at the time that the stamp tells. -/
def write (stamp : String) (c : Call) (j : Journal) : Except CallFault Journal := do
  return { j with text := j.text ++ (← c.render j.form j.threshold stamp) }

/-- Calls with their times, one after the other. -/
def writeAll (j : Journal) (calls : List (String × Call)) : Except CallFault Journal :=
  calls.foldlM (fun j (stamp, c) => j.write stamp c) j

end Journal

end AlertRelay.Log
