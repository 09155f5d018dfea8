import MonkeyScan.Cursor
import Mathlib.Data.List.Induction

/-!
# The place that a cursor counts

A text has one line more than it has line feeds. What stands behind a text stands on the last of
its lines, one column beyond the end of that line. A cursor counts exactly this of the characters
that it left behind, though it never sees them again.
-/
namespace MonkeyScan

/-- The lines of a text, parted at every line feed and only there. -/
def textLines (text : List Char) : List (List Char) :=
  text.splitOn '\n'

theorem textLines_ne_nil (text : List Char) : textLines text ≠ [] :=
  List.splitOn_ne_nil '\n' text

/-- What stands before the first line feed. -/
def firstLine (text : List Char) : List Char :=
  (textLines text).head (textLines_ne_nil text)

/-- What stands behind the last line feed. -/
def lastLine (text : List Char) : List Char :=
  (textLines text).getLast (textLines_ne_nil text)

/-- The line and the column of what stands behind a text. -/
def placeBehind (before : List Char) : Int × Int :=
  ((textLines before).length, (lastLine before).length + 1)

/-- The cursor behind a text and before another. -/
def Cursor.behind (before rest : List Char) : Cursor :=
  ⟨rest, before.length, (textLines before).length, (lastLine before).length + 1⟩

/-! ## The lines of a text -/

theorem length_textLines_pos (text : List Char) : 0 < (textLines text).length :=
  List.length_pos_iff.mpr (textLines_ne_nil text)

theorem dropLast_append_lastLine (text : List Char) :
    (textLines text).dropLast ++ [lastLine text] = textLines text :=
  List.dropLast_concat_getLast (textLines_ne_nil text)

theorem firstLine_cons_tail (text : List Char) :
    firstLine text :: (textLines text).tail = textLines text :=
  List.cons_head_tail (textLines_ne_nil text)

theorem textLines_of_not_mem {l : List Char} (h : '\n' ∉ l) : textLines l = [l] :=
  List.splitOn_eq_singleton h

/-- The last line of a text goes on as the first line of the text behind it. -/
theorem textLines_append_of_eq {a b last first : List Char} {init more : List (List Char)}
    (ha : textLines a = init ++ [last]) (hb : textLines b = first :: more) :
    textLines (a ++ b) = init ++ (last ++ first) :: more := by
  simp only [textLines] at ha hb ⊢
  induction a generalizing init last with
  | nil =>
    obtain ⟨rfl, rfl⟩ : init = [] ∧ last = [] := by
      simpa [List.append_eq_singleton_iff, eq_comm] using ha
    simpa using hb
  | cons c a ih =>
    rw [List.cons_append, List.splitOn_cons_eq_if_modifyHead]
    rw [List.splitOn_cons_eq_if_modifyHead] at ha
    obtain ⟨init', last', ha'⟩ : ∃ init' last', a.splitOn '\n' = init' ++ [last'] :=
      ⟨_, _, (dropLast_append_lastLine a).symm⟩
    rw [ih ha']
    rw [ha'] at ha
    by_cases hc : (c == '\n') = true
    · rw [if_pos hc, ← List.cons_append] at ha ⊢
      obtain ⟨rfl, hlast⟩ := List.append_inj' ha rfl
      obtain rfl : last' = last := by simpa using hlast
      rfl
    · rw [if_neg hc] at ha ⊢
      cases init' with
      | nil =>
        obtain ⟨rfl, rfl⟩ : init = [] ∧ last = c :: last' := by
          simpa [List.append_eq_singleton_iff, List.singleton_eq_append_iff] using ha
        rfl
      | cons line init' =>
        rw [List.cons_append, List.modifyHead_cons, ← List.cons_append] at ha
        obtain ⟨rfl, hlast⟩ := List.append_inj' ha rfl
        obtain rfl : last' = last := by simpa using hlast
        rfl

theorem textLines_append (a b : List Char) : textLines (a ++ b) =
    (textLines a).dropLast ++ (lastLine a ++ firstLine b) :: (textLines b).tail :=
  textLines_append_of_eq (dropLast_append_lastLine a).symm (firstLine_cons_tail b).symm

/-- A longer text has no fewer lines. -/
theorem length_textLines_le (a b : List Char) : (textLines a).length ≤ (textLines (a ++ b)).length := by
  have hpos := length_textLines_pos a
  have hlength : (textLines a).dropLast.length = (textLines a).length - 1 := List.length_dropLast
  rw [textLines_append, List.length_append, List.length_cons]
  omega

theorem lastLine_of_eq {text last : List Char} {init : List (List Char)}
    (h : textLines text = init ++ [last]) : lastLine text = last := by
  simp [lastLine, h]

/-- A text without a line feed stands before the first line. -/
theorem textLines_append_of_not_mem_left {l : List Char} (h : '\n' ∉ l) (b : List Char) :
    textLines (l ++ b) = (l ++ firstLine b) :: (textLines b).tail := by
  have hl : textLines l = [] ++ [l] := textLines_of_not_mem h
  exact textLines_append_of_eq hl (firstLine_cons_tail b).symm

/-- A text without a line feed carries the last line on. -/
theorem textLines_append_of_not_mem (a : List Char) {l : List Char} (h : '\n' ∉ l) :
    (textLines (a ++ l)).length = (textLines a).length ∧ lastLine (a ++ l) = lastLine a ++ l := by
  have hlines :=
    textLines_append_of_eq (dropLast_append_lastLine a).symm (textLines_of_not_mem h)
  refine ⟨?_, lastLine_of_eq hlines⟩
  rw [hlines, ← dropLast_append_lastLine a]
  simp

/-- What has no line feed and stands behind a text stands on the last line of that text. -/
theorem getElem?_textLines_append (before : List Char) {l : List Char} (h : '\n' ∉ l)
    (after : List Char) : (textLines (before ++ (l ++ after)))[(textLines before).length - 1]? =
      some (lastLine before ++ (l ++ firstLine after)) := by
  have hlines := textLines_append_of_eq (dropLast_append_lastLine before).symm
    (textLines_append_of_not_mem_left h after)
  rw [hlines, ← List.length_dropLast]
  simp

/-- A line feed starts a new line. -/
theorem textLines_append_newline (a : List Char) :
    (textLines (a ++ ['\n'])).length = (textLines a).length + 1 ∧ lastLine (a ++ ['\n']) = [] := by
  have hlines : textLines (a ++ ['\n']) = textLines a ++ [[]] :=
    List.splitOn_append_cons_self a []
  refine ⟨?_, lastLine_of_eq hlines⟩
  rw [hlines, List.length_append, List.length_singleton]

/-- A text has one line more than it has line feeds. -/
theorem length_textLines (text : List Char) : (textLines text).length = text.count '\n' + 1 := by
  induction text using List.reverseRecOn with
  | nil => rfl
  | append_singleton text c ih =>
    by_cases hc : c = '\n'
    · rw [hc, (textLines_append_newline text).1, ih]
      simp
    · have hmem : '\n' ∉ [c] := by simpa using Ne.symm hc
      rw [(textLines_append_of_not_mem text hmem).1, ih]
      simp [hc]

/-- All lines but the last, each with its line feed, and the last line make up a text. -/
theorem flatMap_lines (text : List Char) :
    (textLines text).dropLast.flatMap (fun l => l ++ ['\n']) ++ lastLine text = text := by
  induction text using List.reverseRecOn with
  | nil => rfl
  | append_singleton text c ih =>
    by_cases hc : c = '\n'
    · have hlines : textLines (text ++ ['\n']) = textLines text ++ [[]] :=
        List.splitOn_append_cons_self text []
      rw [hc, (textLines_append_newline text).2, hlines, List.dropLast_concat, List.append_nil,
        ← dropLast_append_lastLine text, List.flatMap_append, List.flatMap_singleton,
        ← List.append_assoc, ih]
    · have hmem : '\n' ∉ [c] := by simpa using Ne.symm hc
      have hlines : textLines (text ++ [c]) = (textLines text).dropLast ++ [lastLine text ++ [c]] :=
        textLines_append_of_eq (dropLast_append_lastLine text).symm (textLines_of_not_mem hmem)
      rw [(textLines_append_of_not_mem text hmem).2, hlines, List.dropLast_concat,
        ← List.append_assoc, ih]

theorem textLines_cons_line {l : List Char} (h : '\n' ∉ l) (rest : List Char) :
    textLines (l ++ '\n' :: rest) = l :: textLines rest := by
  rw [textLines, List.splitOn_append_cons_self]
  exact congrArg (· ++ textLines rest) (textLines_of_not_mem h)

/-- A text written line by line has these lines, and an empty one behind them. -/
theorem textLines_flatMap {lines : List (List Char)} (h : ∀ l ∈ lines, '\n' ∉ l) :
    textLines (lines.flatMap fun l => l ++ ['\n']) = lines ++ [[]] := by
  induction lines with
  | nil => exact textLines_of_not_mem (List.not_mem_nil)
  | cons l more ih =>
    rw [List.forall_mem_cons] at h
    rw [List.flatMap_cons, List.append_assoc, List.singleton_append, textLines_cons_line h.1, ih h.2,
      List.cons_append]

/-! ## Places -/

/-- Where no line feed is passed, a place moves by columns. -/
theorem placeBehind_append (before : List Char) {l : List Char} (h : '\n' ∉ l) :
    placeBehind (before ++ l) = ((placeBehind before).1, (placeBehind before).2 + l.length) := by
  obtain ⟨hlength, hlast⟩ := textLines_append_of_not_mem before h
  simp only [placeBehind, hlength, hlast, List.length_append]
  refine Prod.ext rfl ?_
  push_cast
  omega

/-- A line feed moves a place to the start of the next line. -/
theorem placeBehind_append_newline (before : List Char) :
    placeBehind (before ++ ['\n']) = ((placeBehind before).1 + 1, 1) := by
  obtain ⟨hlength, hlast⟩ := textLines_append_newline before
  rw [placeBehind, hlength, hlast]
  exact Prod.ext (Int.natCast_succ _) rfl

/-- No place stands before that of a shorter text. -/
theorem placeBehind_le (before passed : List Char) :
    (placeBehind before).1 < (placeBehind (before ++ passed)).1 ∨
      (placeBehind before).1 = (placeBehind (before ++ passed)).1 ∧
        (placeBehind before).2 ≤ (placeBehind (before ++ passed)).2 := by
  have hlines := textLines_append before passed
  have hpos := length_textLines_pos before
  have hlength : (textLines before).dropLast.length = (textLines before).length - 1 :=
    List.length_dropLast
  cases htail : (textLines passed).tail with
  | nil =>
    rw [htail] at hlines
    refine Or.inr ⟨?_, ?_⟩
    · simp only [placeBehind, hlines, List.length_append, List.length_singleton]
      omega
    · simp only [placeBehind, lastLine_of_eq hlines, List.length_append]
      omega
  | cons line more =>
    left
    simp only [placeBehind, hlines, htail, List.length_append, List.length_cons]
    omega

/-- What stands behind a longer text stands elsewhere. -/
theorem placeBehind_append_ne (before : List Char) {passed : List Char} (h : passed ≠ []) :
    placeBehind (before ++ passed) ≠ placeBehind before := by
  obtain ⟨c, more, rfl⟩ := List.exists_cons_of_ne_nil h
  have hle := placeBehind_le (before ++ [c]) more
  rw [List.append_assoc, List.singleton_append] at hle
  intro heq
  rw [heq] at hle
  by_cases hc : c = '\n'
  · rw [hc, placeBehind_append_newline] at hle
    simp only at hle
    omega
  · have hmem : '\n' ∉ [c] := by simpa using Ne.symm hc
    rw [placeBehind_append before hmem] at hle
    simp only [List.length_singleton] at hle
    omega

/-! ## The place of a cursor -/

namespace Cursor

theorem ofText_eq_behind (text : String) : ofText text = behind [] text.toList := by
  have hnil : textLines [] = [] ++ [[]] := textLines_of_not_mem (by simp)
  rw [ofText, behind, lastLine_of_eq hnil, hnil]
  rfl

theorem advance_behind (before rest : List Char) (c : Char) :
    (behind before (c :: rest)).advance = behind (before ++ [c]) rest := by
  by_cases hc : c = '\n'
  · obtain ⟨hlength, hlast⟩ := textLines_append_newline before
    simp [advance, behind, hc, hlength, hlast]
  · obtain ⟨hlength, hlast⟩ :=
      textLines_append_of_not_mem before (l := [c]) (by simpa using Ne.symm hc)
    simp [advance, behind, hc, hlength, hlast]

/-- **A cursor counts its place.** It moves from behind a text to behind a longer one. -/
theorem advanceBy_behind (before passed rest : List Char) :
    (behind before (passed ++ rest)).advanceBy passed.length = behind (before ++ passed) rest := by
  induction passed generalizing before with
  | nil => simp [advanceBy]
  | cons c passed ih =>
    rw [List.cons_append, List.length_cons, advanceBy, advance_behind, ih, List.append_assoc,
      List.singleton_append]

end Cursor

end MonkeyScan
