import AlertRelay.Environment
import AlertRelay.Log.Basic
import AlertRelay.Settings.Discord
import AlertRelay.Text.Utf8
import AlertRelay.Yaml.Document

/-!
# Loading the settings

Settings come from a file, if one is named, and from variables of the
environment, which win over the file.
-/

namespace AlertRelay

/-- All settings.  Without a Discord section there is no provider. -/
structure Settings where
  discord : Option Discord.Config := none
  logLevel : Log.Level := .info
  deriving DecidableEq, Repr, Inhabited

namespace Settings

open AlertRelay.Text

/-! ## Variables -/

def configVariable : String := "HEALTHCORD_CONFIG"

def webhookVariable : String := "HEALTHCORD_DISCORD_WEBHOOK_URL"

def titleVariable : String := "HEALTHCORD_DISCORD_TITLE"

def logLevelVariable : String := "HEALTHCORD_LOG_LEVEL"

/-- The value of a variable that is set and not empty. -/
def assigned? (env : Environment) (name : Spelled) : Option Spelled :=
  (env name).filter (· != "")

/-! ## From a document -/

def logLevels : List Log.Level := [.debug, .info, .warning, .error]

/-- The small letter of a letter of ASCII. -/
def lowerPoint : Point → Point
  | .char c => .char (Number.lowerAscii c)
  | p => p

def logLevelNamed (name : Spelled) : Except LoadFault Log.Level :=
  let lower : Spelled := ⟨name.points.map lowerPoint⟩
  match logLevels.find? fun level => level.name = lower with
  | some level => .ok level
  | none => .error (.settings (.badLogLevel name))

/-- The name of the log level: the variable counts whenever it is set. -/
def logLevelText (env : Environment) (cx : Value.Context) (top : List (Value × Value)) :
    Except LoadFault Spelled := do
  let text ← textOf cx "log-level" top
  return match env logLevelVariable with
    | some name => name
    | none => if text = "" then "info" else text

/-- The entries of the section for alerting; a blank section counts as empty. -/
def alertingEntries (table : SharedTable) (top : List (Value × Value)) :
    Except LoadFault (List (Value × Value)) :=
  match (Value.lookup "alerting" top).filter (!·.isBlank) with
  | none => .ok []
  | some v =>
      match v.entries? table with
      | none => .error (.settings .alertingNotMapping)
      | some entries => .ok entries

/-- The entries of the Discord section, if there is one. -/
def discordEntries (table : SharedTable) (alerting : List (Value × Value)) :
    Except LoadFault (Option (List (Value × Value))) :=
  match given? "discord" alerting with
  | none => .ok none
  | some v =>
      match v.entries? table with
      | none => .error (.settings .discordNotMapping)
      | some entries => .ok (some entries)

/-- Entries with a text set, if there is one to set. -/
def overlay (key : String) (value : Option Spelled) (entries : List (Value × Value)) :
    List (Value × Value) :=
  match value with
  | none => entries
  | some s => Value.setEntry (.text key) (.text s) entries

/-- The Discord settings of a document and an environment. -/
def discordSettings (env : Environment) (cx : Value.Context) (top : List (Value × Value)) :
    Except LoadFault (Option Discord.Config) := do
  let alerting ← alertingEntries cx.table top
  let discordSection ← discordEntries cx.table alerting
  let entries := overlay "title" (assigned? env titleVariable)
    (overlay "webhook-url" (assigned? env webhookVariable) (discordSection.getD []))
  if discordSection.isSome || !entries.isEmpty then some <$> discordOfEntries cx entries
  else return none

/-- The settings of the entries of a document in an environment. -/
def ofEntries (env : Environment) (cx : Value.Context) (top : List (Value × Value)) :
    Except LoadFault Settings := do
  let discord ← discordSettings env cx top
  let logLevel ← logLevelNamed (← logLevelText env cx top)
  return { discord, logLevel }

/-! ## From a file -/

/-- A text in which every line ends with a line feed alone. -/
def normalLines : List Char → List Char
  | [] => []
  | '\r' :: '\n' :: rest => '\n' :: normalLines rest
  | '\r' :: rest => '\n' :: normalLines rest
  | c :: rest => c :: normalLines rest

/-- The entries of the document in a file, and its shared containers.  A blank
document counts as an empty mapping. -/
def documentEntries (path : Spelled) (doc : Document) :
    Except LoadFault (List (Value × Value) × SharedTable) :=
  if doc.root.isBlank then .ok ([], [])
  else
    match doc.root.entries? doc.table with
    | none => .error (.settings (.topNotMapping path))
    | some entries => .ok (entries, doc.table)

/-- The entries of the document in the bytes of a file. -/
def parseFile (path : Spelled) (bytes : List UInt8) :
    Except LoadFault (List (Value × Value) × SharedTable) :=
  match Utf8.strict? bytes with
  | none => .error .notUtf8
  | some text =>
      match Yaml.read (normalLines text) with
      | .error .malformed => .error (.settings (.malformed path))
      | .error f => .error (.badScalar f)
      | .ok doc => documentEntries path doc

def readFile (files : Files) (path : Spelled) :
    Except LoadFault (List (Value × Value) × SharedTable) :=
  let path := normalPath path
  if !isPath path then .error .badPath
  else
    match files.read path with
    | .error f => .error (.settings (.unreadable path f))
    | .ok bytes => parseFile path bytes

/-- The path of the file: the one that is given, or that of the environment. -/
def configPath (path : Option Spelled) (env : Environment) : Option Spelled :=
  (path.filter fun p : Spelled => p != "") <|> assigned? env configVariable

/-- The entries of the file that is named, if one is, and its shared containers. -/
def topEntries (path : Option Spelled) (env : Environment) (files : Files) :
    Except LoadFault (List (Value × Value) × SharedTable) :=
  match configPath path env with
  | none => .ok ([], [])
  | some path => readFile files path

/-- The settings of a file, if one is named, and the environment.  What they say of sets is
in the order of the process. -/
def load (residues : Value.Residues) (path : Option Spelled) (env : Environment)
    (files : Files) : Except LoadFault Settings := do
  let (top, table) ← topEntries path env files
  ofEntries env ⟨table, residues⟩ top

end Settings

end AlertRelay
