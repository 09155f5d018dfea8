import MonkeyScan.Proofs.Cursor.ClosedForm
import Mathlib.Order.Bounds.Basic

/-!
# Loops that read a run

Identifiers, numbers and blanks are read by loops over the reading of one character, which go on
while the current character passes a test. The tests look at texts, and at the end of the source the
text is empty; those of one character that pass make up an alphabet of ASCII. So wherever a reader
stands the loop takes as many steps as the longest run of its alphabet has characters there, and
where it stops it would not start again.
-/
namespace MonkeyScan

/-- The lengths of the beginnings of a text that are written in an alphabet. -/
def runLengths (alphabet text : List Char) : Set Nat :=
  {n | ∃ run, run <+: text ∧ run ⊆ alphabet ∧ run.length = n}

theorem isGreatest_runLengths {p : Char → Bool} {alphabet : List Char}
    (h : ∀ c, c ∈ alphabet ↔ p c = true) (text : List Char) :
    IsGreatest (runLengths alphabet text) (text.takeWhile p).length := by
  constructor
  · refine ⟨text.takeWhile p, List.takeWhile_prefix p, ?_, rfl⟩
    intro c hc
    exact (h c).mpr (List.all_eq_true.mp List.all_takeWhile c hc)
  · rintro n ⟨run, ⟨tail, rfl⟩, hrun, rfl⟩
    rw [List.takeWhile_append_of_pos fun c hc => (h c).mp (hrun hc), List.length_append]
    exact Nat.le_add_right _ _

/-! ## Tests on texts -/

/-- Texts of one character are ordered as their characters. -/
theorem toString_lt_toString_iff {c d : Char} : c.toString < d.toString ↔ c < d := by
  rw [String.lt_iff, Char.toString, Char.toString, String.toList_singleton,
    String.toList_singleton, List.cons_lt_cons_iff]
  simp

theorem toString_le_toString (c d : Char) :
    decide (c.toString ≤ d.toString) = decide (c ≤ d) := by
  rw [decide_eq_decide, ← Char.not_lt, ← toString_lt_toString_iff, String.not_lt]

theorem toString_beq_toString (c d : Char) : (c.toString == d.toString) = (c == d) := by
  rw [Bool.eq_iff_iff, beq_iff_eq, beq_iff_eq]
  exact String.singleton_inj

theorem isLetterText_toString (c : Char) : isLetterText c.toString = isLetter c := by
  have hlower := congrArg₂ (· && ·) (toString_le_toString 'a' c) (toString_le_toString c 'z')
  have hupper := congrArg₂ (· && ·) (toString_le_toString 'A' c) (toString_le_toString c 'Z')
  have hunderscore := toString_beq_toString c '_'
  exact congrArg₂ (· || ·) (congrArg₂ (· || ·) hlower hupper) hunderscore

theorem isDigitText_toString (c : Char) : isDigitText c.toString = isDigit c :=
  congrArg₂ (· && ·) (toString_le_toString '0' c) (toString_le_toString c '9')

namespace Scanner

/-- The operations that read a run. -/
inductive Reading
  | identifier
  | number
  | blanks
  deriving DecidableEq, Repr

namespace Reading

def op : Reading → Op
  | identifier => .readIdentifier
  | number => .readNumber
  | blanks => .skipBlanks

/-- The answer where some characters have been read. -/
def answer (read : List Char) : Reading → Answer
  | identifier | number => .text (String.ofList read)
  | blanks => .nothing

/-- The test of the loop, on the current character as a text. -/
def goesOn : Reading → String → Bool
  | identifier => isLetterText
  | number => isDigitText
  | blanks => fun s => [" ", "\t", "\n", "\r"].contains s

/-- The class of characters that the cursor of a scan skips. -/
def admits : Reading → Char → Bool
  | identifier => isLetter
  | number => isDigit
  | blanks => isBlank

/-- The characters that a run consists of. -/
def alphabet : Reading → List Char
  | identifier => "abcdefghijklmnopqrstuvwxyzABCDEFGHIJKLMNOPQRSTUVWXYZ_".toList
  | number => "0123456789".toList
  | blanks => [' ', '\t', '\n', '\r']

variable (reading : Reading)

theorem toNat_lt_of_mem_alphabet {c : Char} (h : c ∈ reading.alphabet) : c.toNat < 128 := by
  have hall : reading.alphabet.all (fun d => d.toNat < 128) = true := by
    cases reading <;> decide
  simpa using List.all_eq_true.mp hall c h

theorem mem_alphabet_iff (c : Char) : c ∈ reading.alphabet ↔ reading.admits c = true := by
  cases reading with
  | identifier => exact mem_letterCharacters
  | number => exact mem_digitCharacters
  | blanks => exact mem_blankCharacters

theorem goesOn_toString (c : Char) : reading.goesOn c.toString = reading.admits c := by
  cases reading with
  | identifier => exact isLetterText_toString c
  | number => exact isDigitText_toString c
  | blanks =>
    show [' '.toString, '\t'.toString, '\n'.toString, '\r'.toString].contains c.toString = isBlank c
    simp only [List.contains_cons, List.contains_nil, toString_beq_toString, Bool.or_false, isBlank,
      Bool.or_assoc]

theorem goesOn_empty : reading.goesOn "" = false := by
  cases reading <;> decide

theorem perform_op (s : Scanner) (c : Cursor) : s.perform reading.op c =
    ⟨reading.answer (c.run reading.admits), [], c.skipRun reading.admits⟩ := by
  cases reading <;> rfl

/-- Behind its run a reading does nothing. -/
theorem perform_op_skipRun (s : Scanner) (c : Cursor) :
    s.perform reading.op (c.skipRun reading.admits) =
      ⟨reading.answer [], [], c.skipRun reading.admits⟩ := by
  have hstop := c.run_skipRun reading.admits
  rw [perform_op, hstop, Cursor.skipRun_of_run_eq_nil hstop]

/-- The test passes wherever there is a run. -/
theorem goesOn_current (c : Cursor) :
    reading.goesOn c.current = true ↔ c.run reading.admits ≠ [] := by
  unfold Cursor.current Cursor.run
  cases c.rest with
  | nil => simp [reading.goesOn_empty]
  | cons ch rest =>
    dsimp only
    rw [reading.goesOn_toString, List.takeWhile_cons]
    cases reading.admits ch <;> simp

end Reading

end Scanner

namespace Registers
open Scanner (Reading)
variable {source : List Char} {c : Cursor}

/-- The current character as a text, empty at the end of the source. -/
def current (r : Registers) : String :=
  r.ch.elim "" Char.toString

theorem current_ofCursor (c : Cursor) : (ofCursor c).current = c.current := by
  unfold current Cursor.current ofCursor
  cases c.rest <;> rfl

theorem iterate_readChar_ofCursor (h : c.Over source) (n : Nat) :
    (readChar source)^[n] (ofCursor c) = ofCursor (c.advanceBy n) := by
  induction n generalizing c with
  | zero => rfl
  | succ n ih =>
    rw [Function.iterate_succ_apply, readChar_ofCursor h, ih h.advance]
    rfl

/-- A reading consumes the longest run of its alphabet, `n` characters, and nothing else: its test
passes before each of the `n` steps and fails behind them, so that the same reading does nothing
there. -/
structure ReadsRun (source : List Char) (reading : Reading) (r : Registers) (n : Nat) : Prop where
  longest : IsGreatest (runLengths reading.alphabet (source.drop r.position)) n
  goesOn_iff : ∀ k ≤ n, reading.goesOn ((readChar source)^[k] r).current = true ↔ k < n
  perform_eq : perform source reading.op r =
    (reading.answer (slice source r.position (r.position + n)), (readChar source)^[n] r)
  position_eq : ((readChar source)^[n] r).position = r.position + n
  ascii : ∀ d ∈ slice source r.position (r.position + n), d ∈ reading.alphabet ∧ d.toNat < 128
  perform_again : perform source reading.op ((readChar source)^[n] r) =
    (reading.answer [], (readChar source)^[n] r)

theorem slice_run (p : Char → Bool) (h : c.Over source) :
    slice source (ofCursor c).position ((ofCursor c).position + (c.run p).length) = c.run p := by
  have hslice := slice_ofCursor p h
  simpa only [ofCursor, Cursor.skipRun, Cursor.advanceBy_offset] using hslice

theorem readsRun_ofCursor (reading : Reading) (h : c.Over source) :
    ReadsRun source reading (ofCursor c) (c.run reading.admits).length := by
  have hrest : c.rest = source.drop c.offset := h
  have hslice := slice_run reading.admits h
  have hsteps : ∀ k, (readChar source)^[k] (ofCursor c) = ofCursor (c.advanceBy k) :=
    iterate_readChar_ofCursor h
  have hstopped : (readChar source)^[(c.run reading.admits).length] (ofCursor c) =
      ofCursor (c.skipRun reading.admits) := hsteps _
  have hover : (c.skipRun reading.admits).Over source := h.advanceBy _
  constructor
  case longest =>
    show IsGreatest (runLengths reading.alphabet (source.drop c.offset)) _
    rw [← hrest]
    exact isGreatest_runLengths reading.mem_alphabet_iff c.rest
  case goesOn_iff =>
    intro k hk
    rw [hsteps, current_ofCursor, reading.goesOn_current, Cursor.run_advanceBy hk, Ne,
      List.drop_eq_nil_iff, Nat.not_le]
  case perform_eq =>
    rw [hstopped, perform_ofCursor {} reading.op h, reading.perform_op]
    exact congrArg (fun read => (reading.answer read, _)) hslice.symm
  case position_eq =>
    rw [hsteps]
    exact Cursor.advanceBy_offset _ c
  case ascii =>
    intro d hd
    have hrun : d ∈ c.run reading.admits := hslice ▸ hd
    have hmem : d ∈ reading.alphabet :=
      (reading.mem_alphabet_iff d).mpr (List.all_eq_true.mp List.all_takeWhile d hrun)
    exact ⟨hmem, reading.toNat_lt_of_mem_alphabet hmem⟩
  case perform_again =>
    rw [hstopped, perform_ofCursor {} reading.op hover, reading.perform_op_skipRun]

/-- **Runs are read exactly.** Wherever operations leave a reader, inside a lexeme or beyond the end
of the source, each of the readings consumes the longest run there, and so it does for a scan that
has done the same. -/
theorem after_readsRun (s : Scanner) (text : String) (ops : List Scanner.Op) (reading : Reading) :
    let source := text.toList
    let c := s.cursorAfter ops (.ofText text)
    let r := after source ops
    ∃ n, ReadsRun source reading r n ∧
      r = ofCursor c ∧
      s.perform reading.op c =
        ⟨reading.answer (slice source r.position (r.position + n)), [], c.advanceBy n⟩ ∧
      s.perform reading.op (c.advanceBy n) = ⟨reading.answer [], [], c.advanceBy n⟩ := by
  intro source c r
  obtain ⟨hafter, hover, -⟩ := after_eq s text ops
  have hr : r = ofCursor c := hafter
  rw [hr]
  refine ⟨_, readsRun_ofCursor reading hover, rfl, ?_, reading.perform_op_skipRun s c⟩
  rw [slice_run reading.admits hover, reading.perform_op]
  rfl

end Registers

end MonkeyScan
