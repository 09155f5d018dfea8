import MonkeyScan.Cursor
import MonkeyScan.Level
import MonkeyScan.Log

/-!
# Scanning under a file name and a log level

A scanner is the setting in which a text is scanned: the name of its file, the level of the
settings and the logger. Operations move a cursor; those that deliver tokens trace every illegal
character when both the level and the logger show debug records. What is delivered never depends
on the setting.
-/
namespace MonkeyScan

/-- The setting of a scan. -/
structure Scanner where
  file : String := "<stdin>"
  level : Level := .off
  logger : Logger := {}
  deriving Repr

/-- What an operation answers, the records it logs and the cursor it leaves. -/
structure Step (α : Type) where
  value : α
  log : List Record
  cursor : Cursor

namespace Scanner

/-- The source name of the records of a scan. -/
def source : String := "monkey.lexer"

/-- Whether illegal characters are traced. -/
def traces (s : Scanner) : Bool :=
  s.level.shows Severity.debug.number && s.logger.passes Severity.debug.number

/-- A place in a file, as reports give it. -/
def place (file : String) (line column : Int) : String :=
  file ++ ":" ++ toString line ++ ":" ++ toString column

/-- The record of an illegal character. -/
def traceRecord (s : Scanner) (t : Token) : Record :=
  ⟨.debug, source, place s.file t.line t.column ++ ": illegal character " ++ quoted t.literal⟩

/-- The records that a delivered token causes. -/
def trace (s : Scanner) (t : Token) : List Record :=
  if t.kind = .illegal ∧ s.traces then [s.traceRecord t] else []

/-- Deliver one token. -/
def next (s : Scanner) (c : Cursor) : Step Token :=
  let (t, after) := c.next
  ⟨t, s.trace t, after⟩

/-- Deliver all tokens before the end token, which is met but not delivered. -/
def drain (s : Scanner) (c : Cursor) : Step (List Token) :=
  let one := s.next c
  if _h : one.value.kind = .eof then ⟨[], one.log, one.cursor⟩
  else
    let more := drain s one.cursor
    ⟨one.value :: more.value, one.log ++ more.log, more.cursor⟩
termination_by c.rest.length
decreasing_by exact Cursor.next_rest_length_lt _h

theorem drain_of_eof (s : Scanner) {c : Cursor} (h : c.next.1.kind = .eof) :
    (s.drain c).value = [] ∧ (s.drain c).cursor = c.next.2 := by
  rw [drain, dif_pos (show (s.next c).value.kind = .eof from h)]
  exact ⟨rfl, rfl⟩

theorem drain_of_ne_eof (s : Scanner) {c : Cursor} (h : c.next.1.kind ≠ .eof) :
    (s.drain c).value = c.next.1 :: (s.drain c.next.2).value ∧
      (s.drain c).cursor = (s.drain c.next.2).cursor := by
  rw [drain, dif_neg (show (s.next c).value.kind ≠ .eof from h)]
  exact ⟨rfl, rfl⟩

/-- Deliver up to `n` tokens, fewer if the end token is met first. -/
def take (s : Scanner) : Nat → Cursor → Step (List Token)
  | 0, c => ⟨[], [], c⟩
  | n + 1, c =>
    let one := s.next c
    if one.value.kind = .eof then ⟨[], one.log, one.cursor⟩
    else
      let more := take s n one.cursor
      ⟨one.value :: more.value, one.log ++ more.log, more.cursor⟩

/-- All tokens of a text, the end token last. -/
def tokenize (s : Scanner) (text : String) : List Token × List Record :=
  let all := s.drain (.ofText text)
  let last := s.next all.cursor
  (all.value ++ [last.value], all.log ++ last.log)

/-- What a client may do with a scan. -/
inductive Op
  | nextToken
  | readChar
  | peekChar
  | skipBlanks
  | readIdentifier
  | readNumber
  | drain
  | take (n : Nat)
  | isLetter (text : String)
  | isDigit (text : String)
  deriving DecidableEq, Repr

/-- What an operation answers. -/
inductive Answer
  | nothing
  | flag (b : Bool)
  | text (s : String)
  | token (t : Token)
  | tokens (ts : List Token)
  deriving DecidableEq, Repr

/-- The tokens that an answer delivers. -/
def Answer.delivered : Answer → List Token
  | .token t => [t]
  | .tokens ts => ts
  | _ => []

/-- Do one operation. -/
def perform (s : Scanner) (op : Op) (c : Cursor) : Step Answer :=
  match op with
  | .nextToken => let r := s.next c; ⟨.token r.value, r.log, r.cursor⟩
  | .readChar => ⟨.nothing, [], c.advance⟩
  | .peekChar => ⟨.text c.peek, [], c⟩
  | .skipBlanks => ⟨.nothing, [], c.skipBlanks⟩
  | .readIdentifier => let (word, after) := c.readIdentifier; ⟨.text word, [], after⟩
  | .readNumber => let (number, after) := c.readNumber; ⟨.text number, [], after⟩
  | .drain => let r := s.drain c; ⟨.tokens r.value, r.log, r.cursor⟩
  | .take n => let r := s.take n c; ⟨.tokens r.value, r.log, r.cursor⟩
  | .isLetter text => ⟨.flag (isLetterText text), [], c⟩
  | .isDigit text => ⟨.flag (isDigitText text), [], c⟩

/-- Do operations one after the other; there is one step for each. -/
def performAll (s : Scanner) : List Op → Cursor → List (Step Answer)
  | [], _ => []
  | op :: ops, c =>
    let step := s.perform op c
    step :: performAll s ops step.cursor

/-- The cursor that operations leave. -/
def cursorAfter (s : Scanner) (ops : List Op) (c : Cursor) : Cursor :=
  ops.foldl (fun c op => (s.perform op c).cursor) c

end Scanner

end MonkeyScan
