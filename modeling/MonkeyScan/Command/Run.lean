import MonkeyScan.Command.Arguments
import MonkeyScan.Command.Echo
import MonkeyScan.Console.Markup
import MonkeyScan.Console.Table
import MonkeyScan.Diagnostic
import MonkeyScan.Session
import MonkeyScan.Settings.Stored

/-!
# Running the program

A run starts by reading the settings file that the environment names; then the arguments decide
what is done. A run is a function of the environment, the files, the arguments and the input. It
answers with the exit status, the two outputs, the log, and the files it leaves.
-/
namespace MonkeyScan.Command

def versionText : String := "0.1.0"

/-- What a run finds when it starts. `columns` is the width of the console. -/
structure Environment where
  program : String := "monkey"
  columns : Nat := 1000
  settingsFile : Option String
  home : String

/-- The input of a run: a text, and whether the user interrupts where it ends. -/
structure Input where
  text : List Char := []
  interrupted : Bool := false

/-- What ends a run at once: the environment leads to no settings file, a file cannot be asked
for, or a message is not well-formed styled text. -/
inductive Fault
  | path (fault : PathFault)
  | system (fault : SystemFault)
  | markup (fault : Console.MarkupFault)

def Fault.message : Fault → String
  | .path fault => fault.message
  | .system fault => fault.message
  | .markup fault => fault.message

/-- What a run leaves behind, and the fault that ended it, if any. -/
structure Outcome where
  exit : Nat
  out : String := ""
  err : String := ""
  log : List Record := []
  files : FileTree
  fault : Option Fault := none

/-- The state of a run: the settings, the logger and the files. -/
structure Run where
  program : String
  columns : Nat
  stored : StoredSettings
  logger : Logger
  files : FileTree

namespace Run

/-- Start a run: the settings file is read with the logger that nobody has set up yet. -/
def start (e : Environment) (files : FileTree) : Except PathFault (Run × List Record) := do
  let logger : Logger := {}
  let path ← Path.forSettings e.settingsFile e.home
  let (stored, log) := StoredSettings.create path logger files
  return (⟨e.program, e.columns, stored, logger, files⟩, log)

def configure (r : Run) (override : Option Level) : Run :=
  let settings := match override with
    | some level => { r.stored.settings with level }
    | none => r.stored.settings
  { r with stored := { r.stored with settings }, logger := settings.configureLogging r.logger }

def scanner (r : Run) (file : String) : Scanner :=
  ⟨file, r.stored.settings.level, r.logger⟩

/-- Printed lines as the console of the run shows them. -/
def shown (r : Run) (text : String) : String :=
  String.ofList (Console.onScreen r.columns text.toList)

/-- A plain printed line, with its emoji codes replaced. -/
def plainLine (s : String) : String :=
  String.ofList (Console.printedLine (Console.replaceEmoji s.toList))

/-- A styled printed line. -/
def styledLine (s : String) : Except Console.MarkupFault String :=
  (Console.ofMarkup s.toList).map fun plain => String.ofList (Console.printedLine plain)

inductive SourceFault
  | system (fault : SystemFault)
  | encoding (fault : Utf8.Fault)

def SourceFault.message : SourceFault → String
  | .system fault => fault.message
  | .encoding fault => fault.message

/-- The text of a source file, its line ends unified. -/
def readSource (r : Run) (file : String) : Except SourceFault (List Char) :=
  match r.files.read file with
  | .error fault => .error (.system ⟨fault, file⟩)
  | .ok bytes =>
    match Utf8.decode bytes with
    | .error fault => .error (.encoding fault)
    | .ok text => .ok (unifyLineEnds text)

/-- End a run by a fault. -/
def stop (r : Run) (fault : Fault) : Outcome :=
  { exit := 1, files := r.files, fault := some fault }

/-- End a run with a styled message on the first output. -/
def finish (r : Run) (exit : Nat) (message after : String) : Outcome :=
  match styledLine message with
  | .ok line => { exit, out := r.shown line ++ after, files := r.files }
  | .error fault => r.stop (.markup fault)

def fail (r : Run) (message : String) : Outcome :=
  r.finish 1 ("[bold red]Error:[/bold red] " ++ message) ""

def tokenTable (tokens : List Token) : Console.Table where
  title := "Tokens"
  header := ["Type", "Literal", "Line", "Column"]
  rows := tokens.map fun t => [t.kind.label, t.literal, toString t.line, toString t.column]

def tokens (r : Run) (file : String) : Outcome :=
  match r.readSource file with
  | .error fault => r.fail fault.message
  | .ok text =>
    let scan := (r.scanner file).drain (.ofText (String.ofList text))
    { exit := 0, out := (tokenTable scan.value).text r.columns, log := scan.log, files := r.files }

def reportLines (d : Diagnostic) : Except Console.MarkupFault String :=
  (styledLine ("    [dim]" ++ d.suggestion.getD "None" ++ "[/dim]")).map
    (plainLine ("  " ++ d.display) ++ ·)

def report (found : List Diagnostic) : Except Console.MarkupFault String := do
  let head ← styledLine
    ("[bold red]❌ " ++ toString found.length ++ " illegal character(s) found:[/bold red]")
  return head ++ String.join (← found.mapM reportLines)

def check (r : Run) (file : String) : Outcome :=
  match r.readSource file with
  | .error fault => r.fail fault.message
  | .ok text =>
    let (tokens, log) := (r.scanner file).tokenize (String.ofList text)
    match Diagnostic.collect file tokens with
    | .error fault => { exit := 1, err := fault.message, log, files := r.files }
    | .ok [] =>
      { r.finish 0 "[bold green]✅ No illegal characters[/bold green]" "" with log }
    | .ok found =>
      match report found with
      | .ok text => { exit := 1, out := r.shown text, log, files := r.files }
      | .error fault => { r.stop (.markup fault) with log }

def greeting : String :=
  "Monkey REPL v" ++ versionText ++ "\nType 'exit' to quit\n\n"

def farewell : String := "\n👋 Goodbye!\n"

def prompt (r : Run) : String :=
  Session.choosePrompt none r.stored.settings.prompt

def sessionScanner (r : Run) : Scanner :=
  r.scanner ({} : Scanner).file

/-- The lines of an input that a session gets to see: an interrupt loses an unfinished line, and
a carriage return at the end may still become part of a line end. -/
def visibleLines (input : Input) : List Char :=
  if input.interrupted then
    let settled := match input.text.reverse with
      | '\r' :: before => before.reverse
      | _ => input.text
    ((unifyLineEnds settled).reverse.dropWhile (· ≠ '\n')).reverse
  else unifyLineEnds input.text

def repl (r : Run) (input : Input) : Outcome :=
  let course := Session.run r.sessionScanner r.prompt (visibleLines input)
  let parting := if input.interrupted ∧ !course.left then r.shown farewell else ""
  { exit := 0, out := r.shown greeting ++ Session.printed course.writes ++ parting,
    log := course.log, files := r.files }

def settingsTable (s : Settings) : Console.Table where
  title := "Settings"
  header := ["Key", "Value"]
  rows := [["debug_level", s.level.name], ["prompt", quoted s.prompt]]

/-- Show the settings, and first update and save them if there is something to update. -/
def config (r : Run) (level : Option Level) (prompt : Option String) : Outcome :=
  if level = none ∧ prompt = none then
    { exit := 0, out := (settingsTable r.stored.settings).text r.columns, files := r.files }
  else
    let old := r.stored.settings
    let stored := { r.stored with
      settings := ⟨level.getD old.level, prompt.getD old.prompt⟩ }
    match stored.save r.files with
    | (.error fault, files) =>
      if fault.fault = .nullCharacter then { r with files }.stop (.system fault)
      else { r with files }.fail fault.message
    | (.ok (), files) =>
      { r with files }.finish 0 ("[bold green]✅ Saved[/bold green] " ++ stored.path.text)
        ((settingsTable stored.settings).text r.columns)

def perform (r : Run) (input : Input) : Request → Outcome
  | .tokens file => r.tokens file
  | .check file => r.check file
  | .repl => r.repl input
  | .config level prompt => r.config level prompt

def answer (r : Run) (input : Input) : Reading → Outcome
  | .page t => { exit := 0, out := page r.program t, files := r.files }
  | .version => { exit := 0, out := "Monkey, version " ++ versionText ++ "\n", files := r.files }
  | .noArguments => { exit := 2, err := page r.program .program, files := r.files }
  | .refused t fault =>
    let reminder :=
      if fault.recallsUsage then
        t.usage r.program ++ "\nTry '" ++ t.path r.program ++ " " ++ helpSwitch.name ++
          "' for help.\n\n"
      else ""
    { exit := 2, err := echoed (reminder ++ "Error: " ++ fault.message ++ "\n"), files := r.files }
  | .broken fault => r.stop (.system fault)
  | .request override request => (r.configure override).perform input request

end Run

/-- A whole run of the program. -/
def run (e : Environment) (files : FileTree) (arguments : List String) (input : Input) :
    Outcome :=
  match Run.start e files with
  | .error fault => { exit := 1, files, fault := some (.path fault) }
  | .ok (r, log) =>
    let outcome := r.answer input (readArguments files arguments)
    { outcome with log := log ++ outcome.log }

/-- The arguments of a start from a checkout: without any an interactive session is held, and a
single name of a Monkey file shows its tokens. -/
def checkoutArguments (arguments : List String) : List String :=
  match arguments with
  | [] => [Name.repl.text]
  | [file] => if ".mk".toList.isSuffixOf file.toList then [Name.tokens.text, file] else [file]
  | _ => arguments

end MonkeyScan.Command
