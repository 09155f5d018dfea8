import MonkeyScan.Lexeme

/-!
# A cursor over a source text

The cursor holds the characters not yet consumed and counts what lies behind it. It moves one
character at a time; a line ends when its `'\n'` is left behind, and moving past the end of the
text only counts. Every longer motion is a number of single steps, so what a single step keeps,
each motion keeps.
-/
namespace MonkeyScan

/-- The unread characters with the offset, line and column of the first of them. -/
structure Cursor where
  rest : List Char
  offset : Nat := 0
  line : Nat := 1
  column : Nat := 1
  deriving DecidableEq, Repr

namespace Cursor

/-- The cursor before the first character of a text. -/
def ofText (s : String) : Cursor :=
  ⟨s.toList, 0, 1, 1⟩

/-- The character under the cursor as a text, empty at the end. -/
def current (c : Cursor) : String :=
  match c.rest with
  | [] => ""
  | ch :: _ => ch.toString

/-- The character after the one under the cursor, empty at the end. -/
def peek (c : Cursor) : String :=
  match c.rest with
  | _ :: ch :: _ => ch.toString
  | _ => ""

/-- One step: the character under the cursor is left behind, and its line with it if it is a
line feed. At the end of the text the step is only counted. -/
def advance (c : Cursor) : Cursor :=
  match c.rest with
  | [] => ⟨[], c.offset + 1, c.line, c.column + 1⟩
  | ch :: rest =>
    if ch = '\n' then ⟨rest, c.offset + 1, c.line + 1, 1⟩
    else ⟨rest, c.offset + 1, c.line, c.column + 1⟩

@[simp] theorem advance_rest (c : Cursor) : c.advance.rest = c.rest.drop 1 := by
  unfold advance
  split
  · simp [*]
  · split <;> simp [*]

@[simp] theorem advance_offset (c : Cursor) : c.advance.offset = c.offset + 1 := by
  unfold advance
  split
  · rfl
  · split <;> rfl

/-- Any number of single steps. -/
def advanceBy : Nat → Cursor → Cursor
  | 0, c => c
  | n + 1, c => advanceBy n c.advance

@[simp] theorem advanceBy_rest (n : Nat) (c : Cursor) :
    (c.advanceBy n).rest = c.rest.drop n := by
  induction n generalizing c with
  | zero => rfl
  | succ n ih => simp [advanceBy, ih]

@[simp] theorem advanceBy_offset (n : Nat) (c : Cursor) :
    (c.advanceBy n).offset = c.offset + n := by
  induction n generalizing c with
  | zero => rfl
  | succ n ih => simp [advanceBy, ih]; omega

theorem advanceBy_add (m n : Nat) (c : Cursor) :
    c.advanceBy (m + n) = (c.advanceBy m).advanceBy n := by
  induction m generalizing c with
  | zero => rw [Nat.zero_add]; rfl
  | succ m ih => rw [Nat.succ_add]; exact ih c.advance

/-- The longest run of characters at the cursor that satisfy `p`. -/
def run (p : Char → Bool) (c : Cursor) : List Char :=
  c.rest.takeWhile p

/-- The cursor behind the longest run of characters that satisfy `p`. -/
def skipRun (p : Char → Bool) (c : Cursor) : Cursor :=
  c.advanceBy (c.run p).length

/-- Within its run a cursor has the remainder of the run before it. -/
theorem run_advanceBy {p : Char → Bool} {c : Cursor} {k : Nat} (h : k ≤ (c.run p).length) :
    (c.advanceBy k).run p = (c.run p).drop k := by
  induction k generalizing c with
  | zero => rfl
  | succ k ih =>
    cases hrest : c.rest with
    | nil => simp [run, hrest] at h
    | cons ch rest =>
      by_cases hch : p ch
      · have hone : c.run p = ch :: c.advance.run p := by simp [run, hrest, hch]
        rw [hone, List.length_cons] at h
        rw [hone, List.drop_succ_cons]
        exact ih (Nat.le_of_succ_le_succ h)
      · simp [run, hrest, hch] at h

/-- Behind a run there is none. -/
@[simp] theorem run_skipRun (p : Char → Bool) (c : Cursor) : (c.skipRun p).run p = [] := by
  rw [skipRun, run_advanceBy (Nat.le_refl _), List.drop_length]

theorem skipRun_of_run_eq_nil {p : Char → Bool} {c : Cursor} (h : c.run p = []) :
    c.skipRun p = c := by
  rw [skipRun, h]
  rfl

/-- The cursor at the next character that is not blank. -/
def skipBlanks (c : Cursor) : Cursor :=
  c.skipRun isBlank

/-- The run of letters at the cursor, possibly empty, and the cursor behind it. -/
def readIdentifier (c : Cursor) : String × Cursor :=
  (String.ofList (c.run isLetter), c.skipRun isLetter)

/-- The run of digits at the cursor, possibly empty, and the cursor behind it. -/
def readNumber (c : Cursor) : String × Cursor :=
  (String.ofList (c.run isDigit), c.skipRun isDigit)

/-- The token after the blanks at the cursor, and the cursor behind it. At the end of the text
this is the end token, which consumes nothing, however often it is asked for. -/
def next (c : Cursor) : Token × Cursor :=
  let start := c.skipBlanks
  match start.rest with
  | [] => (⟨.eof, "", start.line, start.column⟩, start)
  | ch :: rest =>
    let lexeme := firstLexeme ch rest
    (⟨lexeme.1, String.ofList lexeme.2, start.line, start.column⟩,
      start.advanceBy lexeme.2.length)

theorem skipRun_rest_length_le (p : Char → Bool) (c : Cursor) :
    (c.skipRun p).rest.length ≤ c.rest.length := by
  simp [skipRun]

/-- A token that is not the end token uses up at least one character. -/
theorem next_rest_length_lt {c : Cursor} (h : c.next.1.kind ≠ .eof) :
    c.next.2.rest.length < c.rest.length := by
  have blanks := skipRun_rest_length_le isBlank c
  unfold next at h ⊢
  simp only [skipBlanks] at h ⊢
  split
  · rename_i e
    simp [e] at h
  · rename_i ch rest e
    have := firstLexeme_length_pos ch rest
    simp only [advanceBy_rest, List.length_drop, e, List.length_cons] at blanks ⊢
    omega

end Cursor

end MonkeyScan
