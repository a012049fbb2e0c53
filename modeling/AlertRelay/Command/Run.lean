import AlertRelay.Command.Completion
import AlertRelay.Discord.Provider
import AlertRelay.Log.Line
import AlertRelay.Settings.Load
import AlertRelay.Text.Terminal

/-!
# Running the program

One run of the program: what its arguments ask for is done, given the
environment, the files and what the network answers if it is asked.  Everything
that is seen from outside is in the report.  Messages are not for a terminal, and a
log is written as it is.
-/

namespace AlertRelay.Command

open AlertRelay.Text

/-- A failure that no message is made for. -/
inductive Crash where
  | load (fault : Settings.LoadFault)
  | send (fault : Discord.SendFault)
  | completion (fault : CompletionFault)
  deriving DecidableEq, Repr, Inhabited

inductive Ending where
  | exit (code : Nat)
  | crash (c : Crash)
  deriving DecidableEq, Repr, Inhabited

structure Report where
  ending : Ending
  stdout : String := ""
  stderr : String := ""
  /-- what the provider did to the world outside -/
  effects : List Discord.Effect := []
  deriving Repr, Inhabited

structure Surroundings where
  env : Environment
  files : Files
  answer : Http.Answer
  /-- what is written as the time in the log -/
  stamp : String
  /-- what the process has drawn to put the members of sets in order -/
  residues : Value.Residues := fun _ => 0

/-! ## Endings -/

/-- A message on its own line of what has been done.  Half of a pair is written as its byte,
which is shown as the replacement character. -/
def success (message : Spelled) : Report := ⟨.exit 0, plain message.shown, "", []⟩

/-- The line of a fault.  Half of a pair is written by its number. -/
def errorLine (message : Spelled) : String := plain ("Error: " ++ message.escaped ++ "\n")

def failure (message : Spelled) : Report := ⟨.exit 1, "", errorLine message, []⟩

def misuseReport (p : Page) (m : Misuse) : Report :=
  ⟨.exit 2, "", (if m.showsUsage then p.hint else "") ++ errorLine m.message, []⟩

def loadFailure : Settings.LoadFault → Report
  | .settings f => failure f.message
  | f => ⟨.crash (.load f), "", "", []⟩

def Report.after (log : String) (r : Report) : Report := { r with stderr := log ++ r.stderr }

/-! ## Commands -/

def validMessage : Option Discord.Config → String
  | none => "configuration is valid (no alert provider configured)\n"
  | some c =>
      "configuration is valid (discord, " ++ Number.integerText c.overrides.length ++
        " override(s))\n"

/-- The settings that a run loads. -/
def Surroundings.load (s : Surroundings) (config : Option Spelled) :
    Except Settings.LoadFault Settings :=
  Settings.load s.residues config s.env s.files

def validate (s : Surroundings) (config : Option Spelled) : Report :=
  match s.load config with
  | .error f => loadFailure f
  | .ok settings => success (validMessage settings.discord)

def component : String := "cli"

/-- The alert of a test notification, before defaults. -/
def testAlert : Alert := { description := some "healthcord test alert" }

/-- The conditions of a test notification, up to the first that is malformed. -/
def parseConditions : List Spelled → Except Misuse (List ConditionResult)
  | [] => .ok []
  | text :: rest =>
      match ConditionResult.parse? text with
      | none => .error (.badCondition text)
      | some r => (parseConditions rest).map (r :: ·)

/-- Why a notification is not even tried, if it is not. -/
def heldBack? (n : Notification) : Option String :=
  if !n.alert.isEnabled then some "alert is disabled by default-alert; nothing sent\n"
  else if n.resolved && !n.alert.isSendingOnResolved then
    some "send-on-resolved is not enabled; resolved notification not sent\n"
  else none

def eventsOf (effects : List Discord.Effect) : List Log.Event :=
  effects.filterMap fun
    | .log e => some e
    | _ => none

/-- How a test ends, and what the program itself logs about it. -/
def testEnding (n : Notification) : Except Discord.SendFault Unit → Report × List Log.Event
  | .ok () => (success ("test alert sent for " ++ n.endpoint.displayName ++ "\n"), [])
  | .error f@(.rejected status _) =>
      (failure f.message,
        [⟨component, .error, "test_alert_rejected", [("status_code", .int status)]⟩])
  | .error f@(.unreadable _) | .error f@.unencodable | .error f@.unwritable =>
      (⟨.crash (.send f), "", "", []⟩, [])
  | .error (.undelivered f) =>
      if f.kind.isOfExchange then
        (failure ("could not deliver test alert: " ++ f.message),
          [⟨component, .error, "test_alert_transport_error", [("error", .text f.message)]⟩])
      else (⟨.crash (.send (.undelivered f)), "", "", []⟩, [])

def sendThrough (s : Surroundings) (log : List Log.Event → String) (p : Discord.Provider)
    (n : Notification) : Report :=
  match heldBack? n with
  | some message => success message
  | none =>
      let (result, _, effects) := p.send s.env n s.answer
      let (report, events) := testEnding n result
      { report.after (log (eventsOf effects ++ events)) with effects := effects }

def testNotification (name group : Spelled) (resolved : Bool) (default : Option Alert)
    (conditions : List ConditionResult) : Notification where
  endpoint := { name := name, group := group }
  alert := testAlert.withDefaults default
  result := { success := conditions.all (·.success), conditions := conditions }
  resolved := resolved

/-- What a log looks like that is written to the standard stream for faults. -/
def logText (s : Surroundings) (settings : Settings) (events : List Log.Event) : String :=
  (Log.render .console (Log.thresholdNamed settings.logLevel.name) s.stamp events).escaped

def sendTest (s : Surroundings) (config : Option Spelled) (name group : Spelled)
    (resolved : Bool) (conditions : List Spelled) : Report :=
  match s.load config with
  | .error f => loadFailure f
  | .ok settings =>
      let log := logText s settings
      match Discord.buildProvider settings.discord .owned with
      | .error f => failure f.message
      | .ok (none, events) => (failure "no alert provider configured").after (log events)
      | .ok (some p, events) =>
          let report :=
            match parseConditions conditions with
            | .error m => misuseReport .sendTest m
            | .ok results =>
                sendThrough s log p
                  (testNotification name group resolved p.config.defaultAlert results)
          report.after (log events)

/-! ## Runs -/

def perform (s : Surroundings) : Request → Report
  | .help p => success p.help
  | .version => success versionLine
  | .validate config => validate s config
  | .sendTest config name group resolved conditions =>
      sendTest s config name group resolved conditions

def runArguments (s : Surroundings) (args : List Spelled) : Report :=
  match readArguments s.files args with
  | .ok request => perform s request
  | .error .none => ⟨.exit 2, "", Page.program.help, []⟩
  | .error (.misuse p m) => misuseReport p m
  | .error .badPath => ⟨.crash (.load .badPath), "", "", []⟩

/-- A run that tells a shell what it asks for. -/
def runQuestion (s : Surroundings) (question : Spelled) : Report :=
  match questionOf? question with
  | none => ⟨.exit 1, "", "", []⟩
  | some q =>
      match tell s.env q with
      | .ok text => success text
      | .error f => ⟨.crash (.completion f), "", "", []⟩

/-- One run of the program with the given arguments.  They are of no interest if a
shell asks for something. -/
def run (s : Surroundings) (args : List Spelled) : Report :=
  match Settings.assigned? s.env completionVariable with
  | some question => runQuestion s question
  | none => runArguments s args

end AlertRelay.Command
