import MonkeyScan.Proofs.Cursor.ClosedForm
import MonkeyScan.Proofs.Cursor.Relocation
import MonkeyScan.Proofs.Scan.Pulling

/-!
# A scan goes on from wherever it is left

Whatever has been done before, inside a lexeme or beyond the end of the text, pulling token after
token delivers what a new scan of the rest of the text delivers, moved to the place that was
reached. No history is kept but that place, neither by the cursor nor by the registers.
-/
namespace MonkeyScan

namespace Scanner
variable {c : Cursor}

/-- Each token before the end token uses up a character. -/
theorem length_drain_le (s : Scanner) (c : Cursor) :
    (s.drain c).value.length ≤ c.rest.length := by
  induction hn : c.rest.length using Nat.strong_induction_on generalizing c with
  | _ n ih =>
    by_cases hkind : c.next.1.kind = .eof
    · rw [(s.drain_of_eof hkind).1]
      exact Nat.zero_le _
    · have hlt : c.next.2.rest.length < n := hn ▸ Cursor.next_rest_length_lt hkind
      have hmore := ih _ hlt c.next.2 rfl
      rw [(s.drain_of_ne_eof hkind).1, List.length_cons]
      omega

/-- Pulling one token more than a drain delivers pulls all tokens, and the end token last. -/
theorem answers_nextToken (s : Scanner) (c : Cursor) :
    (s.performAll (List.replicate ((s.drain c).value.length + 1) .nextToken) c).map Step.value =
      (s.remaining c).map .token := by
  induction hn : c.rest.length using Nat.strong_induction_on generalizing c with
  | _ n ih =>
    by_cases hkind : c.next.1.kind = .eof
    · obtain ⟨hvalue, hcursor⟩ := s.drain_of_eof hkind
      rw [remaining, hvalue, hcursor, (Cursor.next_of_eof hkind).2]
      rfl
    · have hlt : c.next.2.rest.length < n := hn ▸ Cursor.next_rest_length_lt hkind
      have hmore := ih _ hlt c.next.2 rfl
      rw [s.remaining_of_ne_eof hkind, (s.drain_of_ne_eof hkind).1, List.length_cons,
        List.replicate_succ, List.map_cons, ← hmore]
      rfl

end Scanner

namespace Registers
variable {source : List Char} {c : Cursor}

/-- What operations on registers answer, done one after the other. -/
def answers (source : List Char) : List Scanner.Op → Registers → List Scanner.Answer
  | [], _ => []
  | op :: ops, r =>
    let step := perform source op r
    step.1 :: answers source ops step.2

theorem answers_ofCursor (s : Scanner) (ops : List Scanner.Op) (h : c.Over source) :
    answers source ops (ofCursor c) = (s.performAll ops c).map Step.value := by
  induction ops generalizing c with
  | nil => rfl
  | cons op ops ih =>
    obtain ⟨n, hn⟩ := s.exists_perform_advanceBy op c
    have hafter : (s.perform op c).cursor.Over source := hn ▸ h.advanceBy n
    rw [answers, perform_ofCursor s op h, ih hafter]
    rfl

end Registers

namespace Scanner

/-- **A scan goes on from wherever it is left.** After any operations, pull until the end token is
delivered. The tokens are those of the text from the offset that was reached on, moved to the line
and the column that were reached. There is at most one before the end token for each character that
was left. Registers deliver the same. -/
theorem resumes_at_place (s : Scanner) (text : String) (ops : List Op) :
    let source := text.toList
    let c := s.cursorAfter ops (.ofText text)
    let tokens := (s.tokenize (String.ofList (source.drop c.offset))).1.map
      (Token.relocated (c.line - 1) (c.column - 1))
    ∃ before last, tokens = before ++ [last] ∧
      (∀ t ∈ before, t.kind ≠ .eof) ∧ last.kind = .eof ∧
      before.length ≤ source.length - c.offset ∧
      (s.performAll (List.replicate (before.length + 1) .nextToken) c).map Step.value =
        tokens.map .token ∧
      Registers.after source ops = .ofCursor c ∧
      Registers.answers source (List.replicate (before.length + 1) .nextToken) (.ofCursor c) =
        tokens.map .token := by
  intro source c tokens
  obtain ⟨hafter, hover, -⟩ := Registers.after_eq s text ops
  have hrest : c.rest = source.drop c.offset := hover
  have htokens : s.remaining c = tokens := by
    simp only [tokens, ← hrest]
    exact s.remaining_eq_tokenize c
  have hanswers := s.answers_nextToken c
  rw [htokens] at hanswers
  refine ⟨(s.drain c).value, (s.drain c).cursor.next.1, htokens.symm,
    fun t => kind_ne_eof_of_mem_drain, ?_, ?_, hanswers, hafter, ?_⟩
  · rw [Cursor.next_of_rest_nil (s.drain_cursor_rest c)]
  · have hle := s.length_drain_le c
    rwa [hrest, List.length_drop] at hle
  · rw [Registers.answers_ofCursor s _ hover, hanswers]

end Scanner

end MonkeyScan
