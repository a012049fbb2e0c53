/-!
# Pages of the command line

The program has three pages: its own and one for each command.  A page lists
options, and its help is laid out in two columns.
-/

namespace AlertRelay.Command

def programName : String := "healthcord"

def versionLine : String := programName ++ ", version 0.1.0\n"

inductive Page where
  | program
  | validate
  | sendTest
  deriving DecidableEq, Repr, Inhabited

structure OptionInfo where
  name : String
  /-- what stands for the value; empty for an option without one -/
  placeholder : String
  help : String
  required : Bool := false
  /-- whether every value counts, and not only the last -/
  repeatable : Bool := false
  deriving DecidableEq, Repr

namespace OptionInfo

def takesValue (o : OptionInfo) : Bool := o.placeholder != ""

def filePlaceholder : String := "FILE"

def takesFile (o : OptionInfo) : Bool := o.placeholder == filePlaceholder

/-- The option and what stands for its value. -/
def term (o : OptionInfo) : String :=
  if o.takesValue then o.name ++ " " ++ o.placeholder else o.name

/-- The help for an option, with the note that it cannot be left out. -/
def fullHelp (o : OptionInfo) : String := if o.required then o.help ++ "  [required]" else o.help

end OptionInfo

namespace Page

def command : Page → String
  | program => ""
  | validate => "validate"
  | sendTest => "send-test"

def commands : List Page := [sendTest, validate]

def summary : Page → String
  | program => "Discord notifications for endpoint health transitions."
  | validate => "Load the configuration and report whether it is valid."
  | sendTest => "Send a single test notification through the configured provider."

def helpOption : OptionInfo where
  name := "--help"
  placeholder := ""
  help := "Show this message and exit."

def versionOption : OptionInfo where
  name := "--version"
  placeholder := ""
  help := "Show the version and exit."

def configOption : OptionInfo where
  name := "--config"
  placeholder := OptionInfo.filePlaceholder
  help := "Path to the YAML configuration file (defaults to $HEALTHCORD_CONFIG)."

def nameOption : OptionInfo where
  name := "--name"
  placeholder := "TEXT"
  help := "Endpoint name shown in the message."
  required := true

def groupOption : OptionInfo where
  name := "--group"
  placeholder := "TEXT"
  help := "Endpoint group used for webhook routing."

def resolvedOption : OptionInfo where
  name := "--resolved"
  placeholder := ""
  help := "Send a resolved notification (requires send-on-resolved in default-alert)."

def conditionOption : OptionInfo where
  name := "--condition"
  placeholder := "TEXT"
  help := "Condition result as CONDITION:ok or CONDITION:fail. Repeatable."
  repeatable := true

def options : Page → List OptionInfo
  | program => [versionOption, helpOption]
  | validate => [configOption, helpOption]
  | sendTest =>
      [configOption, nameOption, groupOption, resolvedOption, conditionOption, helpOption]

/-- The program and the command, as they are typed. -/
def path : Page → String
  | program => programName
  | p => programName ++ " " ++ p.command

def usage (p : Page) : String :=
  "Usage: " ++ p.path ++ (if p = program then " [OPTIONS] COMMAND [ARGS]..." else " [OPTIONS]") ++
    "\n"

/-- What precedes the message about a misuse. -/
def hint (p : Page) : String := p.usage ++ "Try '" ++ p.path ++ " --help' for help.\n\n"

/-! ## Help -/

def padded (width : Nat) (s : String) : String :=
  s ++ String.ofList (List.replicate (width - s.length) ' ')

/-- How wide a page of help may be. -/
def width : Nat := 78

/-- Words put into lines of a width, as many as fit on each. -/
def fill (width : Nat) (line : String) : List String → List String
  | [] => [line]
  | word :: rest =>
      if line = "" then fill width word rest
      else if line.length + 1 + word.length ≤ width then fill width (line ++ " " ++ word) rest
      else line :: fill width word rest

/-- A row of two columns: the second begins at the same place on every line. -/
def row (first : Nat) (term text : String) : String :=
  let lines := fill (width - first - 2) "" (text.splitOn " ")
  let gap := "\n" ++ padded (first + 2) ""
  "  " ++ padded first term ++ gap.intercalate lines ++ "\n"

/-- Rows of two columns, the first as wide as its widest term. -/
def rows (entries : List (String × String)) : String :=
  let widest := (entries.map fun (term, _) => term.length).foldl max 0
  "".intercalate (entries.map fun (term, text) => row (widest + 2) term text)

def help (p : Page) : String :=
  p.usage ++ "\n  " ++ p.summary ++ "\n\nOptions:\n" ++
    rows (p.options.map fun o => (o.term, o.fullHelp)) ++
    (if p = program then
      "\nCommands:\n" ++ rows (commands.map fun c => (c.command, c.summary))
     else "")

end Page

end AlertRelay.Command
