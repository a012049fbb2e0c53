import AlertRelay.Command.Run
import Std.Time.DateTime.Timestamp

/-!
# The program

The outer layer: it gathers what a run depends on, lets the run be computed and
writes what it reports.  No network is reached from here, so every exchange ends
with a fault.
-/

namespace AlertRelay

open AlertRelay.Text

/-- What a path leads to on this machine.  A directory can be opened but not
read, and its fault names no file. -/
def probe (path : String) : IO (Except FileFault FileEntry) := do
  try
    return .ok (.file (← IO.FS.readBinFile path).toList)
  catch
    | .inappropriateType none .. => return .ok .directory
    | .inappropriateType (some _) .. => return .error .notDirectory
    | .permissionDenied .. => return .error .denied
    | .invalidArgument .. => return .error .nameTooLong
    | _ => return .error .notFound

def filesAt (paths : List Spelled) : IO Files := do
  let found ← paths.mapM fun path => return (path, ← probe path.shown)
  return fun path => (found.lookup path).getD (.error .notFound)

def environmentOf (names : List Spelled) : IO Environment := do
  let values ← names.mapM fun name => return (name, ← IO.getEnv name.shown)
  return .ofList (values.filterMap fun (name, value) => value.map fun v => (name, .whole v))

/-- The variables that a run looks at, whatever the settings are. -/
def knownVariables : List Spelled :=
  [Settings.configVariable, Settings.webhookVariable, Settings.titleVariable,
    Settings.logLevelVariable, Command.completionVariable, Command.wordsVariable,
    Command.placeVariable]

/-- The variable that the default webhook refers to, if it refers to one. -/
def webhookVariables (s : Command.Surroundings) (config : Option Spelled) : List Spelled :=
  match s.load config with
  | .ok { discord := some c, .. } => (referredName? c.webhookUrl).toList
  | _ => []

/-- What a run depends on.  The residues of the sets are those of no process in particular. -/
def surroundings (args : List Spelled) : IO Command.Surroundings := do
  let env ← environmentOf knownVariables
  let path := Command.namedConfig? args
  let paths := path.toList ++ (Settings.configPath path env).toList
  let files ← filesAt (paths ++ paths.map normalPath)
  let now ← Std.Time.Timestamp.now
  let clock := (now.toNanosecondsSinceUnixEpoch.val / 1000).toNat
  let known : Command.Surroundings :=
    { env, files
      answer := .fault ⟨.connect, "no network"⟩
      stamp := (Calendar.Timestamp.ofClock clock).stamp }
  return { known with env := ← environmentOf (knownVariables ++ webhookVariables known path) }

def Command.Crash.text : Command.Crash → Spelled
  | .load .badPath => "the path of the configuration holds a null character"
  | .load .notUtf8 => "the configuration is not in UTF-8"
  | .load (.badScalar _) => "a scalar of the configuration has no value"
  | .load .unwritable => "an integer of the configuration is too long to be written"
  | .load (.settings f) => f.message
  | .send .unwritable => "the length of the row of results is too long to be written"
  | .send .unencodable => "a text that is sent or looked up holds half of a pair"
  | .send f => f.message
  | .completion (.missing name) => .whole ("the variable " ++ name ++ " is not set")
  | .completion .badPlace => "the place of the open word is no number"
  | .completion .blankWord => "the open word is blank"

end AlertRelay

def main (args : List String) : IO UInt32 := do
  let args := args.map AlertRelay.Text.Spelled.whole
  let report := AlertRelay.Command.run (← AlertRelay.surroundings args) args
  IO.print report.stdout
  IO.eprint report.stderr
  match report.ending with
  | .exit code => return code.toUInt32
  | .crash c =>
      IO.eprintln c.text.escaped
      return 1
