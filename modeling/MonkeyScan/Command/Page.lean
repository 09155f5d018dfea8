import MonkeyScan.Level

/-!
# Help pages

Each command has a page: how it is called, what it is for, its options and, for the program as a
whole, its commands. Option and command lists are set in two columns; a label that is too long
for the first column stands on a line of its own, and the second column is wrapped.
-/
namespace MonkeyScan.Command

inductive Role
  | showHelp
  | showVersion
  | takeLevel
  | takeText
  deriving DecidableEq, Repr

structure Switch where
  name : String
  role : Role
  help : String
  deriving DecidableEq, Repr

namespace Switch

def takesValue (s : Switch) : Bool :=
  s.role = .takeLevel || s.role = .takeText

/-- The option as lists show it, with the values it takes. -/
def label (s : Switch) : String :=
  match s.role with
  | .takeLevel => s.name ++ " [" ++ "|".intercalate (Level.all.map Level.name) ++ "]"
  | .takeText => s.name ++ " TEXT"
  | _ => s.name

end Switch

inductive Name
  | tokens
  | check
  | repl
  | config
  deriving DecidableEq, Repr

namespace Name

/-- The commands in the order in which they are listed. -/
def all : List Name := [check, config, repl, tokens]

def text : Name → String
  | tokens => "tokens"
  | check => "check"
  | repl => "repl"
  | config => "config"

/-- The command of a name. -/
def ofText? (s : String) : Option Name :=
  all.find? fun n => n.text = s

def summary : Name → String
  | tokens => "Show tokens of a Monkey file"
  | check => "Report unrecognized characters in a Monkey file"
  | repl => "Start the Monkey token REPL"
  | config => "Show or update saved settings"

def takesFile : Name → Bool
  | tokens | check => true
  | repl | config => false

end Name

def helpSwitch : Switch := ⟨"--help", .showHelp, "Show this message and exit."⟩

def versionSwitch : Switch := ⟨"--version", .showVersion, "Show the version and exit."⟩

def overrideSwitch : Switch :=
  ⟨"--debug-level", .takeLevel, "Override the configured log level for this run."⟩

def setLevelSwitch : Switch :=
  ⟨"--set-debug-level", .takeLevel, "Persist the default log level."⟩

def setPromptSwitch : Switch :=
  ⟨"--set-prompt", .takeText, "Persist the REPL prompt."⟩

/-- What a page describes: the program as a whole, or one of its commands. -/
inductive Topic
  | program
  | command (name : Name)
  deriving DecidableEq, Repr

namespace Topic

def switches : Topic → List Switch
  | .program => [versionSwitch, overrideSwitch, helpSwitch]
  | .command .config => [setLevelSwitch, setPromptSwitch, helpSwitch]
  | .command _ => [helpSwitch]

def summary : Topic → String
  | .program => "Monkey Programming Language - lexical scanner tools"
  | .command name => name.summary

/-- The name by which the program was started, and the command. -/
def path (program : String) : Topic → String
  | .program => program
  | .command name => program ++ " " ++ name.text

def usage (program : String) (t : Topic) : String :=
  "Usage: " ++ t.path program ++ " [OPTIONS]" ++
    match t with
    | .program => " COMMAND [ARGS]..."
    | .command name => if name.takesFile then " FILE" else ""

end Topic

/-- The columns of a page. -/
def pageWidth : Nat := 78

/-- The widest label that shares its line with the second column. -/
def widestLabel : Nat := 30

/-- Put words into lines of a width, as many on each as fit. -/
def fillLines (width : Nat) (line : String) : List String → List String
  | [] => [line]
  | word :: more =>
    if line = "" then fillLines width word more
    else if line.length + 1 + word.length ≤ width then fillLines width (line ++ " " ++ word) more
    else line :: fillLines width word more

def blanks (n : Nat) : String :=
  String.ofList (List.replicate n ' ')

def twoColumns (rows : List (String × String)) : List String :=
  let widest := (rows.map fun r => r.1.length).foldl max 0
  let column := min widest widestLabel + 2
  rows.flatMap fun (label, explanation) =>
    let lines := fillLines (pageWidth - column - 2) "" (explanation.splitOn " ")
    let margin := blanks (2 + column)
    if label.length + 2 ≤ column then
      match lines with
      | [] => ["  " ++ label]
      | first :: more =>
        ("  " ++ label ++ blanks (column - label.length) ++ first) :: more.map (margin ++ ·)
    else ("  " ++ label) :: lines.map (margin ++ ·)

def pageLines (program : String) (t : Topic) : List String :=
  [t.usage program, "", "  " ++ t.summary, "", "Options:"] ++
    twoColumns (t.switches.map fun s => (s.label, s.help)) ++
    match t with
    | .program => "" :: "Commands:" :: twoColumns (Name.all.map fun n => (n.text, n.summary))
    | .command _ => []

def page (program : String) (t : Topic) : String :=
  String.join ((pageLines program t).map (· ++ "\n"))

end MonkeyScan.Command
