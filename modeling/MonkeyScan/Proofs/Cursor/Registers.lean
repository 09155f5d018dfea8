import MonkeyScan.Scanner

/-!
# A reader in five registers

The reader holds its source whole. Registers keep the offset of the current character and that of
the character to be read next, the current character itself, its line and its column. One
primitive moves them: it reads one character, and counts a line only when it leaves a line feed
behind. Every longer motion is a loop over the primitive that looks at the current character alone.
A cursor that holds the rest of the text delivers the same answers and stands at the same place.
-/
namespace MonkeyScan

/-- The state of a reader beside its source; no current character is the end of the text. -/
structure Registers where
  position : Nat
  readPosition : Nat
  ch : Option Char
  line : Nat
  column : Nat
  deriving DecidableEq, Repr

namespace Registers

/-- Read the next character. What is left behind decides whether a line is counted, and beyond the
end of the source the offsets and the column go on. -/
def readChar (source : List Char) (r : Registers) : Registers :=
  let left := if r.ch = some '\n' then (r.line + 1, 0) else (r.line, r.column)
  ⟨r.readPosition, r.readPosition + 1, source[r.readPosition]?, left.1, left.2 + 1⟩

/-- A new reader has read one character. -/
def start (source : List Char) : Registers :=
  readChar source ⟨0, 0, none, 1, 0⟩

/-- The character to be read next. -/
def peek (source : List Char) (r : Registers) : Option Char :=
  source[r.readPosition]?

/-- How often the current character can still change, the end of the text included. -/
def unread (source : List Char) (r : Registers) : Nat :=
  source.length - r.readPosition + r.ch.toList.length

theorem unread_readChar_lt {source : List Char} {r : Registers} {c : Char} (h : r.ch = some c) :
    (readChar source r).unread source < r.unread source := by
  by_cases hread : r.readPosition < source.length
  · simp only [readChar, unread, h, List.getElem?_eq_getElem hread, Option.toList_some,
      List.length_singleton]
    omega
  · have hend : source[r.readPosition]? = none := List.getElem?_eq_none (Nat.le_of_not_lt hread)
    simp only [readChar, unread, h, hend, Option.toList_some, Option.toList_none,
      List.length_singleton, List.length_nil]
    omega

/-- Read on while the current character satisfies `p`. -/
def readWhile (source : List Char) (p : Char → Bool) (r : Registers) : Registers :=
  match _h : r.ch with
  | none => r
  | some c => if p c then readWhile source p (readChar source r) else r
termination_by r.unread source
decreasing_by exact unread_readChar_lt _h

theorem unread_readWhile_le (source : List Char) (p : Char → Bool) (r : Registers) :
    (readWhile source p r).unread source ≤ r.unread source := by
  fun_induction readWhile source p r with
  | case1 => exact Nat.le_refl _
  | case2 r c h hp ih => exact Nat.le_trans ih (Nat.le_of_lt (unread_readChar_lt h))
  | case3 => exact Nat.le_refl _

/-- A loop that starts at one of its characters reads at least that. -/
theorem unread_readWhile_lt {source : List Char} {p : Char → Bool} {r : Registers} {c : Char}
    (h : r.ch = some c) (hp : p c) : (readWhile source p r).unread source < r.unread source := by
  rw [readWhile]
  split
  · simp_all
  · rename_i d hd
    obtain rfl : c = d := by simpa [h] using hd
    rw [if_pos hp]
    exact Nat.lt_of_le_of_lt (unread_readWhile_le source p _) (unread_readChar_lt h)

def skipBlanks (source : List Char) (r : Registers) : Registers :=
  readWhile source isBlank r

/-- The characters of the source between two offsets. -/
def slice (source : List Char) (first last : Nat) : List Char :=
  (source.take last).drop first

/-- The run of characters satisfying `p` at the reader, cut out of the source. -/
def readRun (source : List Char) (p : Char → Bool) (r : Registers) : List Char × Registers :=
  let after := readWhile source p r
  (slice source r.position after.position, after)

def readIdentifier (source : List Char) (r : Registers) : List Char × Registers :=
  readRun source isLetter r

def readNumber (source : List Char) (r : Registers) : List Char × Registers :=
  readRun source isDigit r

/-- Read the lexeme that starts with the current character `c`. -/
def readLexeme (source : List Char) (c : Char) (r : Registers) : (Kind × List Char) × Registers :=
  match lengthened? c, symbolKind? c with
  | some (alone, pair), _ =>
    if r.peek source = some '=' then
      let second := readChar source r
      ((pair, c :: second.ch.toList), readChar source second)
    else ((alone, [c]), readChar source r)
  | none, some kind => ((kind, [c]), readChar source r)
  | none, none =>
    if isLetter c then
      let (word, after) := readIdentifier source r
      ((lookupIdent (String.ofList word), word), after)
    else if isDigit c then
      let (number, after) := readNumber source r
      ((.int, number), after)
    else ((.illegal, [c]), readChar source r)

theorem unread_readLexeme_lt {source : List Char} {c : Char} {r : Registers} (h : r.ch = some c) :
    (readLexeme source c r).2.unread source < r.unread source := by
  have hone : (readChar source r).unread source < r.unread source := unread_readChar_lt h
  unfold readLexeme
  split
  · split
    · rename_i hpeek
      have hsecond : (readChar source r).ch = some '=' := hpeek
      exact Nat.lt_trans (unread_readChar_lt hsecond) hone
    · exact hone
  · exact hone
  · split
    · rename_i hletter
      exact unread_readWhile_lt h hletter
    · split
      · rename_i hdigit
        exact unread_readWhile_lt h hdigit
      · exact hone

/-- Deliver the token behind the blanks, with the place that the registers had there. -/
def nextToken (source : List Char) (r : Registers) : Token × Registers :=
  let begun := skipBlanks source r
  match begun.ch with
  | none => (⟨.eof, "", begun.line, begun.column⟩, begun)
  | some c =>
    let (lexeme, after) := readLexeme source c begun
    (⟨lexeme.1, String.ofList lexeme.2, begun.line, begun.column⟩, after)

/-- A token that is not the end token reads at least one character. -/
theorem unread_nextToken_lt {source : List Char} {r : Registers}
    (h : (nextToken source r).1.kind ≠ .eof) :
    (nextToken source r).2.unread source < r.unread source := by
  have hblanks : (skipBlanks source r).unread source ≤ r.unread source :=
    unread_readWhile_le source isBlank r
  unfold nextToken at h ⊢
  dsimp only at h ⊢
  split
  · rename_i hend
    simp [hend] at h
  · rename_i c hc
    exact Nat.lt_of_lt_of_le (unread_readLexeme_lt hc) hblanks

/-- Deliver all tokens before the end token, which is met but not delivered. -/
def drain (source : List Char) (r : Registers) : List Token × Registers :=
  let one := nextToken source r
  if _h : one.1.kind = .eof then ([], one.2)
  else
    let more := drain source one.2
    (one.1 :: more.1, more.2)
termination_by r.unread source
decreasing_by exact unread_nextToken_lt _h

/-- Deliver up to `n` tokens, fewer if the end token is met first. -/
def take (source : List Char) : Nat → Registers → List Token × Registers
  | 0, r => ([], r)
  | n + 1, r =>
    let one := nextToken source r
    if one.1.kind = .eof then ([], one.2)
    else
      let more := take source n one.2
      (one.1 :: more.1, more.2)

/-- Do one operation. -/
def perform (source : List Char) (op : Scanner.Op) (r : Registers) : Scanner.Answer × Registers :=
  match op with
  | .nextToken => let (t, after) := nextToken source r; (.token t, after)
  | .readChar => (.nothing, readChar source r)
  | .peekChar => (.text ((r.peek source).elim "" Char.toString), r)
  | .skipBlanks => (.nothing, skipBlanks source r)
  | .readIdentifier =>
    let (word, after) := readIdentifier source r
    (.text (String.ofList word), after)
  | .readNumber =>
    let (number, after) := readNumber source r
    (.text (String.ofList number), after)
  | .drain => let (ts, after) := drain source r; (.tokens ts, after)
  | .take n => let (ts, after) := take source n r; (.tokens ts, after)
  | .isLetter text => (.flag (isLetterText text), r)
  | .isDigit text => (.flag (isDigitText text), r)

/-- The registers after operations on a new reader. -/
def after (source : List Char) (ops : List Scanner.Op) : Registers :=
  ops.foldl (fun r op => (perform source op r).2) (start source)

/-! ## Registers and cursors -/

/-- The registers that stand where a cursor stands. -/
def ofCursor (c : Cursor) : Registers :=
  ⟨c.offset, c.offset + 1, c.rest.head?, c.line, c.column⟩

end Registers

namespace Cursor

/-- The cursor holds what a source has from its offset on. -/
def Over (source : List Char) (c : Cursor) : Prop :=
  c.rest = source.drop c.offset

namespace Over
variable {source : List Char} {c : Cursor}

theorem ofText (text : String) : (Cursor.ofText text).Over text.toList := rfl

theorem advance (h : c.Over source) : c.advance.Over source := by
  have hrest : c.rest = source.drop c.offset := h
  rw [Over, advance_rest, advance_offset, hrest, List.drop_drop, Nat.add_comm]

theorem advanceBy (h : c.Over source) (n : Nat) : (c.advanceBy n).Over source := by
  induction n generalizing c with
  | zero => exact h
  | succ n ih => exact ih h.advance

end Over

theorem skipRun_of_head {p : Char → Bool} {c : Cursor} {ch : Char} {rest : List Char}
    (hrest : c.rest = ch :: rest) : c.skipRun p = if p ch then c.advance.skipRun p else c := by
  by_cases hp : p ch
  · simp [skipRun, run, hrest, hp, Cursor.advanceBy]
  · simp [skipRun, run, hrest, hp, Cursor.advanceBy]

theorem skipRun_of_nil {p : Char → Bool} {c : Cursor} (hrest : c.rest = []) : c.skipRun p = c := by
  simp [skipRun, run, hrest, Cursor.advanceBy]

end Cursor

namespace Registers
open Cursor
variable {source : List Char} {c : Cursor}

theorem start_eq (text : String) : start text.toList = ofCursor (.ofText text) := by
  simp [start, readChar, ofCursor, Cursor.ofText, List.head?_eq_getElem?]

theorem readChar_ofCursor (h : c.Over source) :
    readChar source (ofCursor c) = ofCursor c.advance := by
  have hrest : c.rest = source.drop c.offset := h
  have hnext : source[c.offset + 1]? = c.advance.rest.head? := by
    rw [advance_rest, hrest, List.drop_drop, List.head?_drop]
  cases hc : c.rest with
  | nil => simp [readChar, ofCursor, hc, hnext, Cursor.advance]
  | cons ch rest =>
    by_cases hch : ch = '\n'
    · simp [readChar, ofCursor, hc, hnext, Cursor.advance, hch]
    · simp [readChar, ofCursor, hc, hnext, Cursor.advance, hch]

theorem peek_ofCursor (h : c.Over source) : (ofCursor c).peek source = c.advance.rest.head? := by
  have hrest : c.rest = source.drop c.offset := h
  rw [advance_rest, hrest, List.drop_drop, List.head?_drop]
  rfl

theorem readWhile_ofCursor (p : Char → Bool) (h : c.Over source) :
    readWhile source p (ofCursor c) = ofCursor (c.skipRun p) := by
  -- The loop reads on in the source, the cursor in the rest of it, so the rest is what shrinks.
  induction hrest : c.rest generalizing c with
  | nil =>
    rw [readWhile, skipRun_of_nil hrest]
    split
    · rfl
    · rename_i ch hch
      simp [ofCursor, hrest] at hch
  | cons ch rest ih =>
    have hafter : c.advance.rest = rest := by simp [hrest]
    rw [readWhile, skipRun_of_head hrest]
    split
    · rename_i hch
      simp [ofCursor, hrest] at hch
    · rename_i d hd
      obtain rfl : ch = d := by simpa [ofCursor, hrest] using hd
      rw [readChar_ofCursor h, ih h.advance hafter]
      split <;> rfl

theorem slice_ofCursor (p : Char → Bool) (h : c.Over source) :
    slice source (ofCursor c).position (ofCursor (c.skipRun p)).position = c.run p := by
  have hrest : c.rest = source.drop c.offset := h
  have hrun : c.run p = (source.drop c.offset).takeWhile p := by rw [← hrest]; rfl
  simp only [slice, ofCursor, skipRun, advanceBy_offset, List.drop_take, Nat.add_sub_cancel_left, hrun]
  exact (List.prefix_iff_eq_take.mp (List.takeWhile_prefix p)).symm

theorem readRun_ofCursor (p : Char → Bool) (h : c.Over source) :
    readRun source p (ofCursor c) = (c.run p, ofCursor (c.skipRun p)) := by
  rw [readRun, readWhile_ofCursor p h, slice_ofCursor p h]

theorem readIdentifier_ofCursor (h : c.Over source) :
    readIdentifier source (ofCursor c) = (c.run isLetter, ofCursor (c.skipRun isLetter)) :=
  readRun_ofCursor isLetter h

theorem readNumber_ofCursor (h : c.Over source) :
    readNumber source (ofCursor c) = (c.run isDigit, ofCursor (c.skipRun isDigit)) :=
  readRun_ofCursor isDigit h

theorem readLexeme_ofCursor (h : c.Over source) {ch : Char} {rest : List Char}
    (hrest : c.rest = ch :: rest) : readLexeme source ch (ofCursor c) =
      (firstLexeme ch rest, ofCursor (c.advanceBy (firstLexeme ch rest).2.length)) := by
  have hone : readChar source (ofCursor c) = ofCursor c.advance := readChar_ofCursor h
  have hafter : c.advance.rest.head? = rest.head? := by rw [advance_rest, hrest]; rfl
  have hrun : ∀ p : Char → Bool, p ch → c.run p = ch :: rest.takeWhile p := by
    intro p hp
    simp [run, hrest, hp]
  unfold readLexeme firstLexeme
  cases hlen : lengthened? ch with
  | some kinds =>
    -- The second character is looked at before the first is left behind.
    dsimp only
    rw [peek_ofCursor h, hafter, hone]
    by_cases hhead : rest.head? = some '='
    · have hsecond : (ofCursor c.advance).ch = some '=' := hafter.trans hhead
      rw [if_pos hhead, if_pos hhead, hsecond, readChar_ofCursor h.advance]
      rfl
    · rw [if_neg hhead, if_neg hhead]
      rfl
  | none =>
    cases hkind : symbolKind? ch with
    | some kind =>
      dsimp only
      rw [hone]
      rfl
    | none =>
      dsimp only
      by_cases hletter : isLetter ch = true
      · rw [if_pos hletter, if_pos hletter, readIdentifier_ofCursor h, skipRun, hrun _ hletter]
      · rw [if_neg hletter, if_neg hletter]
        by_cases hdigit : isDigit ch = true
        · rw [if_pos hdigit, if_pos hdigit, readNumber_ofCursor h, skipRun, hrun _ hdigit]
        · rw [if_neg hdigit, if_neg hdigit, hone]
          rfl

theorem nextToken_ofCursor (h : c.Over source) :
    nextToken source (ofCursor c) = (c.next.1, ofCursor c.next.2) := by
  have hbegun : skipBlanks source (ofCursor c) = ofCursor c.skipBlanks :=
    readWhile_ofCursor isBlank h
  have hover : c.skipBlanks.Over source := h.advanceBy _
  unfold nextToken Cursor.next
  rw [hbegun]
  cases hrest : c.skipBlanks.rest with
  | nil => simp [ofCursor, hrest]
  | cons ch rest =>
    have hch : (ofCursor c.skipBlanks).ch = some ch := by simp [ofCursor, hrest]
    simp only [hch, hrest, readLexeme_ofCursor hover hrest]
    rfl

theorem next_over (h : c.Over source) : c.next.2.Over source := by
  unfold Cursor.next
  dsimp only
  split
  · exact h.advanceBy _
  · exact (h.advanceBy _).advanceBy _

theorem drain_ofCursor (s : Scanner) (h : c.Over source) :
    drain source (ofCursor c) = ((s.drain c).value, ofCursor (s.drain c).cursor) := by
  induction hn : c.rest.length using Nat.strongRecOn generalizing c with
  | _ n ih =>
    have hnext := nextToken_ofCursor h
    by_cases hkind : c.next.1.kind = .eof
    · obtain ⟨hvalue, hcursor⟩ := s.drain_of_eof hkind
      rw [drain, hnext, dif_pos hkind, hvalue, hcursor]
    · obtain ⟨hvalue, hcursor⟩ := s.drain_of_ne_eof hkind
      have hlt : c.next.2.rest.length < n := hn ▸ Cursor.next_rest_length_lt hkind
      rw [drain, hnext, dif_neg hkind, hvalue, hcursor, ih _ hlt (next_over h) rfl]

theorem take_ofCursor (s : Scanner) (n : Nat) (h : c.Over source) :
    take source n (ofCursor c) = ((s.take n c).value, ofCursor (s.take n c).cursor) := by
  induction n generalizing c with
  | zero => rfl
  | succ n ih =>
    have hnext := nextToken_ofCursor h
    rw [take, hnext, Scanner.take]
    by_cases hkind : c.next.1.kind = .eof
    · rw [if_pos hkind, if_pos (show (s.next c).value.kind = .eof from hkind)]
      rfl
    · rw [if_neg hkind, if_neg (show (s.next c).value.kind ≠ .eof from hkind)]
      rw [ih (next_over h)]
      rfl

theorem perform_ofCursor (s : Scanner) (op : Scanner.Op) (h : c.Over source) :
    perform source op (ofCursor c) = ((s.perform op c).value, ofCursor (s.perform op c).cursor) := by
  cases op with
  | nextToken =>
    rw [perform, nextToken_ofCursor h]
    rfl
  | readChar =>
    rw [perform, readChar_ofCursor h]
    rfl
  | peekChar =>
    rw [perform, peek_ofCursor h, Scanner.perform, Cursor.peek, advance_rest]
    rcases c.rest with _ | ⟨_, _ | ⟨_, _⟩⟩ <;> rfl
  | skipBlanks =>
    rw [perform, skipBlanks, readWhile_ofCursor isBlank h]
    rfl
  | readIdentifier =>
    rw [perform, readIdentifier_ofCursor h]
    rfl
  | readNumber =>
    rw [perform, readNumber_ofCursor h]
    rfl
  | drain =>
    rw [perform, drain_ofCursor s h]
    rfl
  | take n =>
    rw [perform, take_ofCursor s n h]
    rfl
  | isLetter text => rfl
  | isDigit text => rfl

end Registers

end MonkeyScan
