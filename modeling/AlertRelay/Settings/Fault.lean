import AlertRelay.Files
import AlertRelay.Value.Text
import AlertRelay.Yaml.Fault

/-!
# Faults of the settings

What is wrong with the settings, how it is reported, and why settings cannot be
loaded at all.
-/

namespace AlertRelay.Settings

open AlertRelay.Text

inductive Fault where
  | alertNotMapping (literal : String)
  | notInteger (key literal : String)
  | notBoolean (key literal : String)
  | alertingNotMapping
  | discordNotMapping
  | overridesNotList
  | overrideNotMapping (literal : String)
  | invalidDiscord
  | badLogLevel (name : Spelled)
  | unreadable (path : Spelled) (fault : FileFault)
  | malformed (path : Spelled)
  | topNotMapping (path : Spelled)
  deriving DecidableEq, Repr, Inhabited

/-- The report of a fault.  What the reader of the format says about a malformed file is left
out: it stands behind the path and a colon. -/
def Fault.message : Fault → Spelled
  | alertNotMapping literal => "Alert configuration must be a mapping, got: " ++ literal
  | notInteger key literal => "'" ++ key ++ "' must be an integer, got: " ++ literal
  | notBoolean key literal => "'" ++ key ++ "' must be a boolean, got: " ++ literal
  | alertingNotMapping => "'alerting' must be a mapping"
  | discordNotMapping => "'alerting.discord' must be a mapping"
  | overridesNotList => "'alerting.discord.overrides' must be a list"
  | overrideNotMapping literal => "Override must be a mapping, got: " ++ literal
  | invalidDiscord =>
      "Invalid discord alerting configuration: webhook-url must be set and every " ++
        "override needs a unique, non-empty group and a non-empty webhook-url"
  | badLogLevel name =>
      "Invalid log level: " ++ name ++
        ". Must be one of \x7b'debug', 'error', 'info', 'warning'\x7d"
  | unreadable path fault =>
      "Cannot read config file " ++ path ++ ": " ++ fault.message path
  | malformed path => "Invalid YAML in config file " ++ path
  | topNotMapping path =>
      "Config file " ++ path ++ " must contain a mapping at the top level"

/-- Why settings could not be loaded.  Only the first is reported as a fault of
the settings. -/
inductive LoadFault where
  | settings (fault : Fault)
  /-- there can be no such path -/
  | badPath
  /-- the file is not in UTF-8 -/
  | notUtf8
  /-- a scalar of the file has no value -/
  | badScalar (fault : Yaml.Fault)
  /-- an integer is too long for the text that it has to be part of -/
  | unwritable
  deriving DecidableEq, Repr, Inhabited

/-! ## Texts of values -/

def literalOf (cx : Value.Context) (v : Value) : Except LoadFault String :=
  match v.literal? cx with
  | some s => .ok s
  | none => .error .unwritable

def displayOf (cx : Value.Context) (v : Value) : Except LoadFault Spelled :=
  match v.display? cx with
  | some s => .ok s
  | none => .error .unwritable

/-- The fault of a value that is shown in its report. -/
def refuse (cx : Value.Context) (v : Value) (fault : String → Fault) : Except LoadFault α := do
  throw (.settings (fault (← literalOf cx v)))

end AlertRelay.Settings
