import AlertRelay.Command.Arguments
import AlertRelay.Command.Shell
import AlertRelay.Environment
import AlertRelay.Text.Words

/-!
# Completions

What a shell is told when it asks how a command line can go on.  The words in front of
the open one are read as arguments as far as they can be; then the open word is the
name of a command or an option, or the value of the option in front of it.
-/

namespace AlertRelay.Command

open AlertRelay.Text

/-! ## The open word -/

def startsWith (start s : Spelled) : Bool := start.points.isPrefixOf s.points

def startsOption (word : Spelled) : Bool := word.points.head? == some (.char '-')

/-- The page that words lead to, and the options that are given there. -/
def pageAt (words : List Spelled) : Page × List Given :=
  let top := readOptions .program false words
  match top.others with
  | [] => (.program, top.givens)
  | name :: rest =>
      match pageOf? name with
      | none => (.program, top.givens)
      | some p => (p, (readOptions p true rest).givens)

/-- How many characters the help of a command may take. -/
def shortHelpWidth : Nat := 45

/-- The words of a text that fit into a width with an ellipsis behind them. -/
def shortened (width : Nat) (text : String) : String :=
  (Page.fill width "" (text.splitOn " ")).headD "" ++ "..."

/-- The commands of a page that begin with a word. -/
def commandsAt (p : Page) (word : Spelled) : List Completion :=
  if p = .program then
    (Page.commands.filter fun c => startsWith word c.command).map fun c =>
      { value := c.command, help := shortened (shortHelpWidth - 3) c.summary }
  else []

/-- The options of a page that begin with a word and are still of use. -/
def optionsAt (p : Page) (givens : List Given) (word : Spelled) : List Completion :=
  if word = "" then []
  else
    (p.options.filter fun o =>
        startsWith word o.name && (o.repeatable || !isGiven o.name givens)).map fun o =>
      { value := o.name, help := o.help }

def namesAt (p : Page) (givens : List Given) (word : Spelled) : List Completion :=
  commandsAt p word ++ optionsAt p givens word

/-- The words and the open word when an equals sign parts an option from its value. -/
def partedWords (words : List Spelled) (word : Spelled) : List Spelled × Spelled :=
  if word = "=" then (words, "")
  else if startsOption word then
    match splitEquals word with
    | (name, some value) => (words ++ [name], value)
    | (_, none) => (words, word)
  else (words, word)

/-- The option whose value is open behind the given words. -/
def openOption? (p : Page) (words : List Spelled) : Option OptionInfo := do
  let name ← words.getLast?
  p.options.find? fun o => o.takesValue && o.name = name

/-- What an open word behind others can become. -/
def completions (words : List Spelled) (word : Spelled) : List Completion :=
  let (p, givens) := pageAt words
  let (words, word) := partedWords words word
  if !words.contains "--" && startsOption word then namesAt p givens word
  else
    match openOption? p words with
    | some o => if o.takesFile then [{ isFile := true, value := word }] else []
    | none => namesAt p givens word

/-! ## Questions -/

inductive CompletionFault where
  /-- a variable that is part of the question is not set -/
  | missing (name : String)
  /-- the place of the open word is no number -/
  | badPlace
  /-- the open word is blank -/
  | blankWord
  deriving DecidableEq, Repr, Inhabited

def wordsVariable : String := "COMP_WORDS"

def placeVariable : String := "COMP_CWORD"

def required (env : Environment) (name : String) : Except CompletionFault Spelled :=
  match env name with
  | some value => .ok value
  | none => .error (.missing name)

/-- The words between the program and the open word, and the open word, which is
empty behind the last one.  A negative place counts from the end. -/
def wordsAround (line : List Spelled) (place : Int) : List Spelled × Spelled :=
  let i := if place < 0 then line.length + place else place
  ((line.take i.toNat).drop 1, if i < 0 then "" else line.getD i.toNat "")

/-- The words in front of the open one, and the open one, which the shell names. -/
def wordsBefore (line : List Spelled) (word : Spelled) : Except CompletionFault (List Spelled × Spelled) :=
  if word = "" then .ok (line.drop 1, "")
  else
    match words word with
    | [] => .error .blankWord
    | word :: _ =>
        let before := line.drop 1
        .ok (if word ≠ "" ∧ before.getLast? = some word then before.dropLast else before, word)

/-- The words of the command line in question. -/
def askedWords (s : Shell) (env : Environment) : Except CompletionFault (List Spelled × Spelled) := do
  let line := words (← required env wordsVariable)
  let place ← required env placeVariable
  match s with
  | .fish => wordsBefore line place
  | _ =>
      match Number.integer? .decimal place.unjoined.toList with
      | none => .error .badPlace
      | some i => return wordsAround line i

inductive Question where
  | script (s : Shell)
  | completions (s : Shell)
  deriving DecidableEq, Repr

/-- The question that is meant by the name of a shell and a word behind it. -/
def questionOf? (text : Spelled) : Option Question :=
  let name := text.points.takeWhile (· != .char '_')
  let word : Spelled := ⟨text.points.drop (name.length + 1)⟩
  match Shell.all.find? fun s => s.name = Spelled.mk name with
  | none => none
  | some s =>
      if word = "source" then some (.script s)
      else if word = "complete" then some (.completions s)
      else none

def tell (env : Environment) : Question → Except CompletionFault Spelled
  | .script s => .ok s.script
  | .completions s => do
      let (before, word) ← askedWords s env
      return s.answer (completions before word)

end AlertRelay.Command
