import AlertRelay.Command.Page
import AlertRelay.Files
import AlertRelay.Text.Similarity

/-!
# Arguments

What the arguments of the program ask for.  Arguments are read from left to
right; the first fault in reading them wins.  After that a request for help
comes before everything else, and the options are checked in the order in which
they were given.
-/

namespace AlertRelay.Command

open AlertRelay.Text

inductive Misuse where
  | noSuchOption (name : Spelled) (similar : List String)
  | noSuchCommand (name : Spelled) (similar : List String)
  | missingCommand
  | missingOption (name : String)
  | needsValue (name : String)
  | takesNoValue (name : String)
  | isDirectory (path : Spelled)
  | extraArguments (arguments : List Spelled)
  | badCondition (text : Spelled)
  deriving DecidableEq, Repr, Inhabited

namespace Misuse

/-- A suggestion of what may have been meant. -/
def suggestion : List String → String
  | [] => ""
  | [word] => " Did you mean " ++ quoted word ++ "?"
  | words =>
      let marked := (words.mergeSort fun a b => a ≤ b).map fun word : String => quoted word
      " (Did you mean one of: " ++ ", ".intercalate marked ++ "?)"

def message : Misuse → Spelled
  | noSuchOption name similar => "No such option " ++ quoted name ++ "." ++ suggestion similar
  | noSuchCommand name similar => "No such command " ++ quoted name ++ "." ++ suggestion similar
  | missingCommand => "Missing command."
  | missingOption name => "Missing option " ++ quoted name ++ "."
  | needsValue name => "Option " ++ quoted name ++ " requires an argument."
  | takesNoValue name => "Option " ++ quoted name ++ " does not take a value."
  | isDirectory path =>
      "Invalid value for '--config': File " ++ quoted (readablePath path) ++ " is a directory."
  | extraArguments [argument] => "Got unexpected extra argument (" ++ argument ++ ")"
  | extraArguments arguments =>
      "Got unexpected extra arguments (" ++ .join " " arguments ++ ")"
  | badCondition text =>
      "Invalid value: expected CONDITION:ok or CONDITION:fail, got " ++ quoted text

/-- Whether the usage of the page is shown with the message. -/
def showsUsage : Misuse → Bool
  | needsValue _ | takesNoValue _ => false
  | _ => true

end Misuse

inductive Request where
  | help (page : Page)
  | version
  | validate (config : Option Spelled)
  | sendTest (config : Option Spelled) (name group : Spelled) (resolved : Bool)
      (conditions : List Spelled)
  deriving DecidableEq, Repr, Inhabited

/-- Why the arguments ask for nothing that can be done. -/
inductive ArgumentFault where
  /-- there are none -/
  | none
  | misuse (page : Page) (m : Misuse)
  /-- there can be no path of the configuration like this -/
  | badPath
  deriving DecidableEq, Repr, Inhabited

/-! ## Reading options -/

structure Given where
  name : String
  value : Spelled
  deriving DecidableEq, Repr

/-- The name of an option and the value behind an equals sign. -/
def splitEquals (arg : Spelled) : Spelled × Option Spelled :=
  let name := arg.points.takeWhile (· != .char '=')
  match arg.points.drop name.length with
  | [] => (⟨name⟩, none)
  | _ :: value => (⟨name⟩, some ⟨value⟩)

/-- What is reported for an option that a page does not have.  An option of one
dash is taken letter by letter. -/
def unknownOption (p : Page) (name arg : Spelled) : Misuse :=
  match arg.points with
  | .char '-' :: .char '-' :: _ => .noSuchOption name (closeTo name (p.options.map (·.name)))
  | _ :: letter :: _ => .noSuchOption ⟨[.char '-', letter]⟩ []
  | _ => .noSuchOption name []

/-- What was read from arguments: the options that are given, the other arguments, and
the fault that reading stopped at. -/
structure Reading where
  givens : List Given := []
  others : List Spelled := []
  fault : Option Misuse := none
  deriving DecidableEq, Repr

namespace Reading

def addGiven (g : Given) (r : Reading) : Reading := { r with givens := g :: r.givens }

def addOther (argument : Spelled) (r : Reading) : Reading :=
  { r with others := argument :: r.others }

/-- The options and the other arguments, if there is no fault. -/
def checked (r : Reading) : Except Misuse (List Given × List Spelled) :=
  match r.fault with
  | none => .ok (r.givens, r.others)
  | some m => .error m

end Reading

/-- Reads arguments.  Two dashes end the options, and so does the first other argument
if `mixed` is false. -/
def readOptions (p : Page) (mixed : Bool) : List Spelled → Reading
  | [] => {}
  | arg :: rest =>
      if arg = "--" then { others := rest }
      else if arg.points.head? = some (.char '-') ∧ 1 < arg.points.length then
        let (name, attached) := splitEquals arg
        match p.options.find? fun o => o.name = name with
        | none => { fault := some (unknownOption p name arg) }
        | some o =>
            match o.takesValue, attached, rest with
            | true, some value, rest => (readOptions p mixed rest).addGiven ⟨o.name, value⟩
            | true, none, value :: rest => (readOptions p mixed rest).addGiven ⟨o.name, value⟩
            | true, none, [] => { fault := some (.needsValue o.name) }
            | false, some _, _ => { fault := some (.takesNoValue o.name) }
            | false, none, rest => (readOptions p mixed rest).addGiven ⟨o.name, ""⟩
      else if mixed then (readOptions p mixed rest).addOther arg
      else { others := arg :: rest }

def valuesOf (name : String) (givens : List Given) : List Spelled :=
  (givens.filter fun g => g.name = name).map (·.value)

/-- The last value of an option. -/
def valueOf? (name : String) (givens : List Given) : Option Spelled :=
  (valuesOf name givens).getLast?

def isGiven (name : String) (givens : List Given) : Bool := !(valuesOf name givens).isEmpty

/-! ## Commands -/

/-- The path of the configuration must not lead to a directory. -/
def checkConfig (files : Files) (p : Page) (givens : List Given) :
    Except ArgumentFault (Option Spelled) :=
  match valueOf? "--config" givens with
  | none => .ok none
  | some path =>
      if !isPath path then .error .badPath
      else if files.isDirectory path then .error (.misuse p (.isDirectory path))
      else .ok (some path)

def checkExtra (p : Page) (others : List Spelled) : Except ArgumentFault Unit :=
  if others.isEmpty then .ok () else .error (.misuse p (.extraArguments others))

def readCommand (files : Files) (p : Page) (args : List Spelled) :
    Except ArgumentFault Request := do
  let (givens, others) ← (readOptions p true args).checked.mapError (.misuse p)
  if isGiven "--help" givens then return .help p
  else
    let config ← checkConfig files p givens
    match p with
    | .sendTest =>
        match valueOf? "--name" givens with
        | none => .error (.misuse p (.missingOption "--name"))
        | some name =>
            checkExtra p others
            return .sendTest config name ((valueOf? "--group" givens).getD "")
              (isGiven "--resolved" givens) (valuesOf "--condition" givens)
    | _ =>
        checkExtra p others
        return .validate config

/-- What the options before a command ask for on their own. -/
def readOwnOptions (args : List Spelled) :
    Except ArgumentFault (Option Request × List Spelled) := do
  let (givens, rest) ← (readOptions .program false args).checked.mapError (.misuse .program)
  match givens with
  | [] => return (none, rest)
  | g :: _ => return (some (if g.name = "--version" then .version else .help .program), rest)

def pageOf? (name : Spelled) : Option Page := Page.commands.find? fun p => p.command = name

/-- What the arguments of the program ask for.  What stands in the place of a
command but is none may be an option after all. -/
def readArguments (files : Files) (args : List Spelled) : Except ArgumentFault Request := do
  if args.isEmpty then .error .none
  else
    match ← readOwnOptions args with
    | (some request, _) => return request
    | (none, []) => .error (.misuse .program .missingCommand)
    | (none, name :: rest) =>
        match pageOf? name with
        | some p => readCommand files p rest
        | none =>
            match ← readOwnOptions (name :: rest) with
            | (some request, _) => return request
            | (none, _) =>
                let similar := closeTo name (Page.commands.map (·.command))
                .error (.misuse .program (.noSuchCommand name similar))

/-- The path of the configuration that the arguments name, if they can be
read. -/
def namedConfig? (args : List Spelled) : Option Spelled := do
  let (_, rest) ← (readOptions .program false args).checked.toOption
  let name ← rest.head?
  let p ← pageOf? name
  let (givens, _) ← (readOptions p true (rest.drop 1)).checked.toOption
  valueOf? "--config" givens

end AlertRelay.Command
