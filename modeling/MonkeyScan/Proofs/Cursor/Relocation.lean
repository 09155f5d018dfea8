import MonkeyScan.Scanner

/-!
# The same text at another place

What is read at a cursor depends on the rest of the text; the place of the cursor is only counted
along. So a cursor delivers what a fresh one delivers on the same rest, and the tokens differ by
their places alone: all lines are moved by the same number, and so are the columns of the first
line, while each later line starts anew.
-/
namespace MonkeyScan

/-- The token moved by some lines, and by some columns if it stands on the first line. -/
def Token.relocated (lines columns : Int) (t : Token) : Token :=
  { t with
    line := t.line + lines
    column := if t.line = 1 then t.column + columns else t.column }

@[simp] theorem Token.relocated_kind (lines columns : Int) (t : Token) :
    (t.relocated lines columns).kind = t.kind := rfl

namespace Cursor
variable {lines columns : Int} {c d : Cursor}

/-- The cursor `c` stands in the same text as `d`, moved by some lines and columns. -/
structure Relocates (lines columns : Int) (d c : Cursor) : Prop where
  rest_eq : c.rest = d.rest
  line_pos : 1 ≤ d.line
  line_eq : (c.line : Int) = d.line + lines
  column_eq : (c.column : Int) = if d.line = 1 then d.column + columns else (d.column : Int)

/-- Each cursor is a fresh one on the rest of its text, moved to its place. -/
theorem relocates_ofText (c : Cursor) :
    Relocates (c.line - 1) (c.column - 1) (.ofText (String.ofList c.rest)) c where
  rest_eq := String.toList_ofList.symm
  line_pos := Nat.le_refl 1
  line_eq := by simp only [ofText]; omega
  column_eq := by simp only [ofText, if_true]; omega

namespace Relocates

/-- One column further both columns have moved alike. -/
theorem column_succ (h : Relocates lines columns d c) :
    ((c.column + 1 : Nat) : Int) =
      if d.line = 1 then ((d.column + 1 : Nat) : Int) + columns
      else ((d.column + 1 : Nat) : Int) := by
  have hcolumn := h.column_eq
  by_cases hfirst : d.line = 1
  · rw [if_pos hfirst] at hcolumn ⊢
    omega
  · rw [if_neg hfirst] at hcolumn ⊢
    omega

theorem advance (h : Relocates lines columns d c) :
    Relocates lines columns d.advance c.advance := by
  have hrest := h.rest_eq
  have hpos := h.line_pos
  have hline := h.line_eq
  cases hd : d.rest with
  | nil =>
    simp only [Cursor.advance, hrest, hd]
    exact ⟨rfl, hpos, hline, h.column_succ⟩
  | cons ch rest =>
    by_cases hch : ch = '\n'
    · -- A later line starts at the same column wherever the text stands.
      simp only [Cursor.advance, hrest, hd, hch, if_true]
      have hlater : d.line + 1 ≠ 1 := by omega
      refine ⟨rfl, by simp, ?_, (if_neg hlater).symm⟩
      dsimp only
      omega
    · simp only [Cursor.advance, hrest, hd, if_neg hch]
      exact ⟨rfl, hpos, hline, h.column_succ⟩

theorem advanceBy (h : Relocates lines columns d c) (n : Nat) :
    Relocates lines columns (d.advanceBy n) (c.advanceBy n) := by
  induction n generalizing c d with
  | zero => exact h
  | succ n ih => exact ih h.advance

theorem skipBlanks (h : Relocates lines columns d c) :
    Relocates lines columns d.skipBlanks c.skipBlanks := by
  have hrun : c.run isBlank = d.run isBlank := by rw [run, run, h.rest_eq]
  rw [Cursor.skipBlanks, Cursor.skipBlanks, skipRun, skipRun, hrun]
  exact h.advanceBy _

/-- A token at a place is the one that is read elsewhere, moved there. -/
theorem token_eq (h : Relocates lines columns d c) (kind : Kind) (literal : String) :
    (⟨kind, literal, c.line, c.column⟩ : Token) =
      Token.relocated lines columns ⟨kind, literal, d.line, d.column⟩ := by
  have hone : (d.line : Int) = 1 ↔ d.line = 1 := by omega
  simp only [Token.relocated, h.line_eq, h.column_eq, hone]

theorem next (h : Relocates lines columns d c) :
    c.next.1 = d.next.1.relocated lines columns ∧
      Relocates lines columns d.next.2 c.next.2 := by
  have hstart := h.skipBlanks
  unfold Cursor.next
  simp only [hstart.rest_eq]
  cases d.skipBlanks.rest with
  | nil => exact ⟨hstart.token_eq .eof "", hstart⟩
  | cons ch rest => exact ⟨hstart.token_eq _ _, hstart.advanceBy _⟩

end Relocates

end Cursor

namespace Scanner
variable {lines columns : Int} {c d : Cursor}

/-- All tokens from a cursor on, the end token last. -/
def remaining (s : Scanner) (c : Cursor) : List Token :=
  (s.drain c).value ++ [(s.drain c).cursor.next.1]

theorem tokenize_eq_remaining (s : Scanner) (text : String) :
    (s.tokenize text).1 = s.remaining (.ofText text) := rfl

theorem remaining_of_ne_eof (s : Scanner) (h : c.next.1.kind ≠ .eof) :
    s.remaining c = c.next.1 :: s.remaining c.next.2 := by
  obtain ⟨hvalue, hcursor⟩ := s.drain_of_ne_eof h
  rw [remaining, hvalue, hcursor]
  rfl

theorem drain_relocates (s : Scanner) (h : d.Relocates lines columns c) :
    (s.drain c).value = (s.drain d).value.map (Token.relocated lines columns) ∧
      (s.drain d).cursor.Relocates lines columns (s.drain c).cursor := by
  induction hn : d.rest.length using Nat.strongRecOn generalizing c d with
  | _ n ih =>
    obtain ⟨htoken, hafter⟩ := h.next
    have hsame : c.next.1.kind = d.next.1.kind := by rw [htoken, Token.relocated_kind]
    by_cases hkind : d.next.1.kind = .eof
    · obtain ⟨hvalue, hcursor⟩ := s.drain_of_eof hkind
      obtain ⟨hvalue', hcursor'⟩ := s.drain_of_eof (hsame.trans hkind)
      rw [hvalue, hvalue', hcursor, hcursor']
      exact ⟨rfl, hafter⟩
    · obtain ⟨hvalue, hcursor⟩ := s.drain_of_ne_eof hkind
      obtain ⟨hvalue', hcursor'⟩ := s.drain_of_ne_eof (by rwa [hsame])
      obtain ⟨ihvalue, ihcursor⟩ := ih _ (hn ▸ Cursor.next_rest_length_lt hkind) hafter rfl
      rw [hvalue, hvalue', hcursor, hcursor', ihvalue, htoken]
      exact ⟨rfl, ihcursor⟩

/-- **Scanning is the same everywhere.** From a cursor on, the tokens are those of the rest of the
text, moved to the place of the cursor. -/
theorem remaining_eq_tokenize (s : Scanner) (c : Cursor) :
    s.remaining c = (s.tokenize (String.ofList c.rest)).1.map
      (Token.relocated (c.line - 1) (c.column - 1)) := by
  obtain ⟨hvalue, hafter⟩ := s.drain_relocates c.relocates_ofText
  rw [tokenize_eq_remaining, remaining, remaining, List.map_append, hvalue, hafter.next.1]
  rfl

end Scanner

end MonkeyScan
