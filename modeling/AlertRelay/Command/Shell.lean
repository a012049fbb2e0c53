import AlertRelay.Command.Page
import AlertRelay.Text.Point

/-!
# Shells

The shells that can complete a command line of the program.  Each loads a script that
asks the program for completions, and reads the answer in a form of its own.
-/

namespace AlertRelay.Command

open AlertRelay.Text

inductive Shell where
  | bash
  | zsh
  | fish
  deriving DecidableEq, Repr, Inhabited

/-- What a command line can go on with. -/
structure Completion where
  /-- whether the shell completes the value as the path of a file -/
  isFile : Bool := false
  value : Spelled
  help : String := ""
  deriving DecidableEq, Repr, Inhabited

/-- The variable that asks the program for completions. -/
def completionVariable : String := "_HEALTHCORD_COMPLETE"

namespace Shell

def all : List Shell := [bash, zsh, fish]

def name : Shell → String
  | bash => "bash"
  | zsh => "zsh"
  | fish => "fish"

/-! ## Answers -/

def kindOf (c : Completion) : String := if c.isFile then "file" else "plain"

/-- A value in which a colon does not end it. -/
def escapeColons (value : Spelled) : Spelled :=
  ⟨value.points.flatMap fun p => if p == .char ':' then [.char '\\', .char ':'] else [p]⟩

/-- What stands in the place of a help that is empty. -/
def noHelp : String := "_"

def answerLine (s : Shell) (c : Completion) : Spelled :=
  match s with
  | bash => kindOf c ++ "," ++ c.value
  | zsh =>
      if c.help = "" then kindOf c ++ "\n" ++ c.value ++ "\n" ++ noHelp
      else kindOf c ++ "\n" ++ escapeColons c.value ++ "\n" ++ c.help
  | fish => kindOf c ++ "," ++ c.value ++ (if c.help = "" then "" else "\t" ++ c.help)

def answer (s : Shell) (completions : List Completion) : Spelled :=
  .join "\n" (completions.map s.answerLine) ++ "\n"

/-! ## Scripts -/

def functionName : String := "_" ++ programName ++ "_completion"

def bashScript : List String :=
  [functionName ++ "() \x7b",
   "    local IFS=$'\\n'",
   "    local response",
   "",
   "    response=$(env COMP_WORDS=\"$\x7bCOMP_WORDS[*]\x7d\" COMP_CWORD=$COMP_CWORD " ++
     completionVariable ++ "=bash_complete $1)",
   "",
   "    for completion in $response; do",
   "        IFS=',' read type value <<< \"$completion\"",
   "",
   "        if [[ $type == 'dir' ]]; then",
   "            COMPREPLY=()",
   "            compopt -o dirnames",
   "        elif [[ $type == 'file' ]]; then",
   "            COMPREPLY=()",
   "            compopt -o default",
   "        elif [[ $type == 'plain' ]]; then",
   "            COMPREPLY+=($value)",
   "        fi",
   "    done",
   "",
   "    return 0",
   "\x7d",
   "",
   functionName ++ "_setup() \x7b",
   "    complete -o nosort -F " ++ functionName ++ " " ++ programName,
   "\x7d",
   "",
   functionName ++ "_setup;"]

def zshScript : List String :=
  ["#compdef " ++ programName,
   "",
   functionName ++ "() \x7b",
   "    local -a completions",
   "    local -a completions_with_descriptions",
   "    local -a response",
   "    (( ! $+commands[" ++ programName ++ "] )) && return 1",
   "",
   "    response=(\"$\x7b(@f)$(env COMP_WORDS=\"$\x7bwords[*]\x7d\" COMP_CWORD=$((CURRENT-1)) " ++
     completionVariable ++ "=zsh_complete " ++ programName ++ ")\x7d\")",
   "",
   "    for type key descr in $\x7bresponse\x7d; do",
   "        if [[ \"$type\" == \"plain\" ]]; then",
   "            if [[ \"$descr\" == \"_\" ]]; then",
   "                completions+=(\"$key\")",
   "            else",
   "                completions_with_descriptions+=(\"$key\":\"$descr\")",
   "            fi",
   "        elif [[ \"$type\" == \"dir\" ]]; then",
   "            _path_files -/",
   "        elif [[ \"$type\" == \"file\" ]]; then",
   "            _path_files -f",
   "        fi",
   "    done",
   "",
   "    if [ -n \"$completions_with_descriptions\" ]; then",
   "        _describe -V unsorted completions_with_descriptions -U",
   "    fi",
   "",
   "    if [ -n \"$completions\" ]; then",
   "        compadd -U -V unsorted -a completions",
   "    fi",
   "\x7d",
   "",
   "if [[ $zsh_eval_context[-1] == loadautofunc ]]; then",
   "    # autoload from fpath, call function directly",
   "    " ++ functionName ++ " \"$@\"",
   "else",
   "    # eval/source/. command, register function for later",
   "    compdef " ++ functionName ++ " " ++ programName,
   "fi"]

def fishScript : List String :=
  ["function " ++ functionName ++ ";",
   "    set -l response (env " ++ completionVariable ++
     "=fish_complete COMP_WORDS=(commandline -cp) COMP_CWORD=(commandline -t) " ++
     programName ++ ");",
   "",
   "    for completion in $response;",
   "        set -l metadata (string split \",\" $completion);",
   "",
   "        if test $metadata[1] = \"dir\";",
   "            __fish_complete_directories $metadata[2];",
   "        else if test $metadata[1] = \"file\";",
   "            __fish_complete_path $metadata[2];",
   "        else if test $metadata[1] = \"plain\";",
   "            echo $metadata[2];",
   "        end;",
   "    end;",
   "end;",
   "",
   "complete --no-files --command " ++ programName ++ " --arguments \"(" ++ functionName ++
     ")\";"]

def script : Shell → String
  | bash => "\n".intercalate bashScript ++ "\n"
  | zsh => "\n".intercalate zshScript ++ "\n"
  | fish => "\n".intercalate fishScript ++ "\n"

end Shell

end AlertRelay.Command
