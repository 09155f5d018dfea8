import MonkeyScan.Scanner
import MonkeyScan.Text.Strip
import MonkeyScan.Text.Lines

/-!
# The interactive session

A session prompts, reads a line, prints the tokens of the line, and goes on until the input runs
out or a line asks to leave. Each line is scanned on its own. What follows the last line read is
left in the input.
-/
namespace MonkeyScan

namespace Session

/-- The prompt when the settings have an empty one. -/
def defaultPrompt : String := ">> "

/-- The lines that end a session. -/
def exitCommands : List String := ["exit", "quit"]

/-- Whether a line ends the session, blanks at its ends aside. -/
def asksToLeave (line : List Char) : Bool :=
  exitCommands.contains (String.ofList (strip line))

/-- The prompt of a session: the one asked for, even an empty one, else the configured one. -/
def choosePrompt (asked : Option String) (configured : String) : String :=
  asked.getD (if configured = "" then defaultPrompt else configured)

/-- What is done to the output. -/
inductive Write
  | text (s : String)
  | flush
  deriving DecidableEq, Repr

/-- The course of a session: what was written, what was logged, the input left unread, and
whether a line asked to leave. -/
structure Course where
  writes : List Write
  log : List Record
  rest : List Char
  left : Bool

/-- Each prompt is shown at once. -/
def ask (prompt : String) : List Write := [.text prompt, .flush]

/-- What is written for a line. -/
def reply (tokens : List Token) : List Write :=
  tokens.map fun t => .text (t.display ++ "\n")

/-- What is written and logged for a line, unless it ends the session. -/
def respond (s : Scanner) (line : List Char) : Option (List Write × List Record) :=
  if asksToLeave line then none
  else
    let scan := s.drain (.ofText (String.ofList line))
    some (reply scan.value, scan.log)

/-- A session over an input. -/
def run (s : Scanner) (prompt : String) : List Char → Course
  | [] => ⟨ask prompt, [], [], false⟩
  | c :: rest =>
    let line := (splitLine (c :: rest)).1
    match respond s line with
    | none => ⟨ask prompt, [], (splitLine (c :: rest)).2, true⟩
    | some (writes, log) =>
      let after := run s prompt (splitLine (c :: rest)).2
      { after with writes := ask prompt ++ writes ++ after.writes, log := log ++ after.log }
termination_by input => input.length
decreasing_by exact splitLine_snd_length_lt c rest

/-- The text that reaches the output. -/
def printed (writes : List Write) : String :=
  String.join (writes.map fun w => match w with
    | .text s => s
    | .flush => "")

end Session

end MonkeyScan
