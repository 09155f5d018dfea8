import MonkeyScan.Proofs.Cursor.Registers
import MonkeyScan.Proofs.Scan.Segmentation

/-!
# The registers in closed form

Whatever has been done to a reader, its position alone says what the other registers hold: the next
offset, the character of the source there, one line more than there are line feeds before it, and
the distance from the last of these. One step keeps this, and every operation is a number of steps:
as many as are left in the source at most, unless a single character is read beyond its end.
-/
namespace MonkeyScan

/-- The offset of the last line feed of a text, one before its start if it has none. -/
def lastLineFeed (text : List Char) : Int :=
  match text.reverse.idxOf? '\n' with
  | some fromEnd => text.length - 1 - fromEnd
  | none => -1

theorem lastLineFeed_append_newline (text : List Char) :
    lastLineFeed (text ++ ['\n']) = text.length := by
  simp [lastLineFeed, List.idxOf?_cons]

theorem lastLineFeed_append_of_ne (text : List Char) {c : Char} (h : c ≠ '\n') :
    lastLineFeed (text ++ [c]) = lastLineFeed text := by
  have hc : (c == '\n') = false := by simpa using h
  unfold lastLineFeed
  simp only [List.reverse_append, List.reverse_singleton, List.singleton_append, List.idxOf?_cons,
    hc]
  cases text.reverse.idxOf? '\n' with
  | none => rfl
  | some fromEnd =>
    simp only [Option.map_some, List.length_append, List.length_singleton]
    push_cast
    omega

namespace Registers
variable {source : List Char} {r : Registers} {c : Cursor}

/-- The registers are what their position says. -/
structure Located (source : List Char) (r : Registers) : Prop where
  readPosition_eq : r.readPosition = r.position + 1
  ch_eq : r.ch = source[r.position]?
  line_eq : r.line = 1 + (source.take r.position).count '\n'
  column_eq : (r.column : Int) = r.position - lastLineFeed (source.take r.position)

theorem located_start (source : List Char) : (start source).Located source where
  readPosition_eq := rfl
  ch_eq := rfl
  line_eq := rfl
  column_eq := rfl

/-- Reading one character keeps the registers located. -/
theorem Located.readChar (h : r.Located source) : (readChar source r).Located source := by
  have hpassed : source.take r.readPosition = source.take r.position ++ r.ch.toList := by
    rw [h.readPosition_eq, List.take_add_one, h.ch_eq]
  have hposition : r.readPosition = r.position + 1 := h.readPosition_eq
  have hline : r.line = 1 + (source.take r.position).count '\n' := h.line_eq
  have hcolumn : (r.column : Int) = r.position - lastLineFeed (source.take r.position) :=
    h.column_eq
  refine ⟨rfl, rfl, ?_, ?_⟩
  · show _ = 1 + (source.take r.readPosition).count '\n'
    rw [hpassed, List.count_append]
    rcases hch : r.ch with _ | d
    · simpa [Registers.readChar, hch] using hline
    · by_cases hd : d = '\n'
      · simp only [Registers.readChar, hch, hd, if_true, hline, Option.toList_some,
          List.count_singleton_self]
        omega
      · simpa [Registers.readChar, hch, hd] using hline
  · show _ = (r.readPosition : Int) - lastLineFeed (source.take r.readPosition)
    rw [hpassed]
    rcases hch : r.ch with _ | d
    · simp only [Registers.readChar, hch, reduceCtorEq, if_false, Option.toList_none,
        List.append_nil]
      push_cast
      omega
    · -- The current character lies inside the source, so all before it counts for the offset.
      have hinside : (source.take r.position).length = r.position := by
        have hget : source[r.position]? = some d := h.ch_eq.symm.trans hch
        have hlt : r.position < source.length := (List.getElem?_eq_some_iff.mp hget).1
        rw [List.length_take]
        omega
      by_cases hd : d = '\n'
      · simp only [Registers.readChar, hch, hd, if_true, Option.toList_some,
          lastLineFeed_append_newline, hinside]
        push_cast
        omega
      · have hne : some d ≠ some '\n' := by simpa using hd
        simp only [Registers.readChar, hch, if_neg hne, Option.toList_some,
          lastLineFeed_append_of_ne _ hd]
        push_cast
        omega

/-- Where the registers of a cursor are located, they are at every place that it moves to. -/
theorem Located.advanceBy (h : (ofCursor c).Located source) (hover : c.Over source) (n : Nat) :
    (ofCursor (c.advanceBy n)).Located source := by
  induction n generalizing c with
  | zero => exact h
  | succ n ih =>
    have hone : (ofCursor c.advance).Located source := readChar_ofCursor hover ▸ h.readChar
    exact ih hone hover.advance

end Registers

/-! ## How far operations move -/

namespace Cursor
variable {c c' c'' : Cursor}

/-- A cursor moves on to another and leaves no more behind than the rest of its text. -/
def MovesTo (c c' : Cursor) : Prop :=
  ∃ n ≤ c.rest.length, c' = c.advanceBy n

theorem MovesTo.refl (c : Cursor) : c.MovesTo c :=
  ⟨0, Nat.zero_le _, rfl⟩

theorem MovesTo.trans (h : c.MovesTo c') (h' : c'.MovesTo c'') : c.MovesTo c'' := by
  obtain ⟨n, hn, rfl⟩ := h
  obtain ⟨m, hm, rfl⟩ := h'
  rw [advanceBy_rest, List.length_drop] at hm
  exact ⟨n + m, by omega, (advanceBy_add n m c).symm⟩

theorem skipRun_movesTo (p : Char → Bool) (c : Cursor) : c.MovesTo (c.skipRun p) :=
  ⟨(c.run p).length, (List.takeWhile_prefix p).length_le, rfl⟩

theorem next_movesTo (c : Cursor) : c.MovesTo c.next.2 := by
  obtain ⟨lead, segments, hseg⟩ := exists_segmentation c.rest
  cases segments with
  | nil =>
    have hrest : c.rest = lead := by simpa using hseg.text_eq
    rw [next_of_nil hseg]
    exact ⟨lead.length, by rw [hrest], rfl⟩
  | cons g segments =>
    obtain ⟨tail, hrest, -⟩ := hseg.uncons
    rw [next_of_cons hseg, ← advanceBy_add]
    refine ⟨lead.length + g.lexeme.length, ?_, rfl⟩
    rw [hrest, List.length_append, List.length_append]
    omega

end Cursor

namespace Scanner

theorem drain_movesTo (s : Scanner) (c : Cursor) : c.MovesTo (s.drain c).cursor := by
  obtain ⟨lead, segments, hseg⟩ := exists_segmentation c.rest
  exact ⟨c.rest.length, Nat.le_refl _, (s.drain_of_segmentation hseg).2⟩

theorem take_movesTo (s : Scanner) (n : Nat) (c : Cursor) : c.MovesTo (s.take n c).cursor := by
  induction n generalizing c with
  | zero => exact .refl c
  | succ n ih =>
    rw [take]
    by_cases hkind : (s.next c).value.kind = .eof
    · rw [if_pos hkind]
      exact c.next_movesTo
    · rw [if_neg hkind]
      exact c.next_movesTo.trans (ih c.next.2)

/-- Only the reading of a single character can leave the end of the text behind. -/
theorem perform_movesTo (s : Scanner) {op : Op} (h : op ≠ .readChar) (c : Cursor) :
    c.MovesTo (s.perform op c).cursor := by
  cases op with
  | nextToken => exact c.next_movesTo
  | readChar => exact absurd rfl h
  | peekChar => exact .refl c
  | skipBlanks => exact c.skipRun_movesTo isBlank
  | readIdentifier => exact c.skipRun_movesTo isLetter
  | readNumber => exact c.skipRun_movesTo isDigit
  | drain => exact s.drain_movesTo c
  | take n => exact s.take_movesTo n c
  | isLetter text => exact .refl c
  | isDigit text => exact .refl c

theorem exists_perform_advanceBy (s : Scanner) (op : Op) (c : Cursor) :
    ∃ n, (s.perform op c).cursor = c.advanceBy n := by
  by_cases hop : op = .readChar
  · exact ⟨1, hop ▸ rfl⟩
  · obtain ⟨n, -, hn⟩ := s.perform_movesTo hop c
    exact ⟨n, hn⟩

end Scanner

namespace Registers
variable {source : List Char}

/-- After any operations the registers are those of a cursor over the source, and located. -/
theorem after_eq (s : Scanner) (text : String) (ops : List Scanner.Op) :
    let c := s.cursorAfter ops (.ofText text)
    after text.toList ops = ofCursor c ∧ c.Over text.toList ∧ (ofCursor c).Located text.toList := by
  induction ops using List.reverseRecOn with
  | nil =>
    have hstart := start_eq text
    exact ⟨hstart, Cursor.Over.ofText text, hstart ▸ located_start text.toList⟩
  | append_singleton ops op ih =>
    obtain ⟨hafter, hover, hlocated⟩ := ih
    simp only [after, Scanner.cursorAfter, List.foldl_append, List.foldl_cons, List.foldl_nil]
      at hafter hover hlocated ⊢
    generalize ops.foldl (fun c op => (s.perform op c).cursor) (.ofText text) = c
      at hafter hover hlocated ⊢
    obtain ⟨n, hn⟩ := s.exists_perform_advanceBy op c
    rw [hafter, perform_ofCursor s op hover, hn]
    exact ⟨rfl, hover.advanceBy n, hlocated.advanceBy hover n⟩

/-- **The registers in closed form.** After any operations a reader stands where a scan does that
has done the same, and its position says what the other registers hold. Whatever operation is done
next is answered as the scan answers it, and moves the position forward: not at all if it only looks,
and beyond the end of the source only if it reads a single character. -/
theorem after_located (s : Scanner) (text : String) (ops : List Scanner.Op) :
    let source := text.toList
    let c := s.cursorAfter ops (.ofText text)
    let r := after source ops
    r = ofCursor c ∧ r.Located source ∧
      ∀ op, let step := perform source op r
        step.1 = (s.perform op c).value ∧
        r.position ≤ step.2.position ∧
        ((op = .peekChar ∨ (∃ text, op = .isLetter text) ∨ ∃ text, op = .isDigit text) →
          step.2 = r) ∧
        (op ≠ .readChar → step.2.position ≤ max source.length r.position) := by
  intro source c r
  obtain ⟨hafter, hover, hlocated⟩ := after_eq s text ops
  have hr : r = ofCursor c := hafter
  refine ⟨hr, hr ▸ hlocated, ?_⟩
  intro op step
  have hstep : step = ((s.perform op c).value, ofCursor (s.perform op c).cursor) := by
    simp only [step, hr]
    exact perform_ofCursor s op hover
  refine ⟨by rw [hstep], ?_, ?_, ?_⟩
  · obtain ⟨n, hn⟩ := s.exists_perform_advanceBy op c
    simp only [hstep, hr, hn, ofCursor, Cursor.advanceBy_offset]
    omega
  · rintro (rfl | ⟨text, rfl⟩ | ⟨text, rfl⟩) <;> rfl
  · intro hop
    obtain ⟨n, hle, hn⟩ := s.perform_movesTo hop c
    have hrest : c.rest = source.drop c.offset := hover
    rw [hrest, List.length_drop] at hle
    simp only [hstep, hr, hn, ofCursor, Cursor.advanceBy_offset]
    omega

end Registers

end MonkeyScan
