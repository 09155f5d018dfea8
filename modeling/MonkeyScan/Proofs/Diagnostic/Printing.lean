import MonkeyScan.Proofs.Command.Messages
import MonkeyScan.Proofs.Diagnostic.Report
import MonkeyScan.Proofs.Console.Codes
import MonkeyScan.Proofs.Text.Quoted

/-!
# What is printed of a diagnostic

A diagnostic gives the line of its character between two colons, and a console takes that for a
code. So it is printed as it is displayed, unless its line is one of the two numbers that name an
emoji. Nothing else in it is replaced: the column is followed by a blank, the message has no two
colons, and where the name of the file has none either, no code starts before the line.
-/
namespace MonkeyScan

namespace Diagnostic
variable {file : String} {before : List Char} {c : Char} {d : Diagnostic}

/-- What is printed of a diagnostic: its display, but with an emoji in place of a line that names one
and of the colons around it. -/
def printed (d : Diagnostic) : String :=
  match Console.numberEmoji? d.line with
  | some emoji => d.file ++ emoji ++ toString d.column ++ ": " ++ d.message
  | none => d.display

theorem printed_of_none (h : Console.numberEmoji? d.line = none) : d.printed = d.display := by
  rw [printed, h]

theorem printed_of_some {emoji : String} (h : Console.numberEmoji? d.line = some emoji) :
    d.printed = d.file ++ emoji ++ toString d.column ++ ": " ++ d.message := by
  rw [printed, h]

/-- An emoji is shorter than what it takes the place of. -/
theorem length_printed_lt {emoji : String} (h : Console.numberEmoji? d.line = some emoji) :
    d.printed.length < d.display.length := by
  have hemoji := (Console.visible_of_numberEmoji? h).1
  have hcolon : ":".length = 1 := rfl
  rw [printed_of_some h, display, Scanner.place]
  simp only [String.length_append, hemoji, hcolon]
  omega

theorem length_printed_le (d : Diagnostic) : d.printed.length ≤ d.display.length := by
  cases h : Console.numberEmoji? d.line with
  | none => rw [printed_of_none h]
  | some emoji => exact (length_printed_lt h).le

/-- A diagnostic is printed as it is displayed unless its line names an emoji. -/
theorem printed_eq_display_iff : d.printed = d.display ↔ d.line ≠ 100 ∧ d.line ≠ 1234 := by
  rw [← Console.numberEmoji?_eq_none_iff]
  constructor
  · intro hsame
    cases h : Console.numberEmoji? d.line with
    | none => rfl
    | some emoji => exact absurd (congrArg String.length hsame) (length_printed_lt h).ne
  · exact printed_of_none

/-! ## The characters of a report -/

theorem toList_characterMessage (c : Char) :
    (characterMessage c).toList = messageOpening.toList ++ (shownCharacter c ++ ['\'']) := by
  simp [characterMessage]

theorem le_of_mem_characterMessage {x : Char} (hx : x ∈ (characterMessage c).toList) :
    0x20 ≤ x.toNat := by
  have hopening : ∀ x ∈ messageOpening.toList, 0x20 ≤ x.toNat :=
    List.all_iff_forall_prop.mp (by decide)
  have hshown : ∀ x ∈ shownCharacter c, 0x20 ≤ x.toNat := by
    unfold shownCharacter
    split
    · rename_i hprintable
      exact List.forall_mem_singleton.mpr (le_of_isPrintable hprintable)
    · simp only [List.forall_mem_cons]
      exact ⟨by decide, by decide, fun x hx => (hexFixed_printable hx).1⟩
  rw [toList_characterMessage, List.mem_append, List.mem_append] at hx
  rcases hx with hx | hx | hx
  · exact hopening x hx
  · exact hshown x hx
  · rw [List.mem_singleton.mp hx]
    decide

/-- A message has no colon but the character that it names. -/
theorem count_colon_characterMessage (c : Char) : (characterMessage c).toList.count ':' ≤ 1 := by
  have hopening : messageOpening.toList.count ':' = 0 := by decide
  have hshown : (shownCharacter c).count ':' ≤ 1 := by
    unfold shownCharacter
    split
    · exact List.count_le_length
    · have hdigits : (hexFixed (hexWidth c.toNat) c.toNat).count ':' = 0 :=
        List.count_eq_zero.mpr fun hmem => (Console.isInert_of_mem_hexFixed hmem).2 rfl
      rw [List.count_cons_of_ne (by decide), List.count_cons_of_ne (by decide), hdigits]
      exact Nat.zero_le 1
  have hquote : ['\''].count ':' = 0 := by decide
  rw [toList_characterMessage, List.count_append, List.count_append, hopening, hquote]
  omega

/-! ## A report -/

/-- A diagnostic of a character behind a text, as its display is put together. -/
theorem toList_display_ofCharacter (file : String) (before : List Char) (c : Char) :
    (ofCharacter file before c).display.toList = file.toList ++
      ':' :: ((toString (textLines before).length).toList ++
        ':' :: ((toString ((lastLine before).length + 1)).toList ++
          ':' :: ' ' :: (characterMessage c).toList)) := by
  have hdisplay : (ofCharacter file before c).display =
      file ++ ":" ++ toString (textLines before).length ++ ":" ++
        toString ((lastLine before).length + 1) ++ ": " ++ characterMessage c := rfl
  rw [hdisplay]
  simp

theorem toList_printed_ofCharacter (file : String) (before : List Char) (c : Char) :
    (ofCharacter file before c).printed.toList = file.toList ++
      (Console.shownCode (toString (textLines before).length).toList ++
        ((toString ((lastLine before).length + 1)).toList ++
          ':' :: ' ' :: (characterMessage c).toList)) := by
  rw [Console.shownCode_toString]
  have hline : (ofCharacter file before c).line = (textLines before).length := rfl
  cases h : Console.numberEmoji? (textLines before).length with
  | none =>
    rw [printed_of_none (hline ▸ h), toList_display_ofCharacter]
    simp
  | some emoji =>
    have hprinted : (ofCharacter file before c).printed = file ++ emoji ++
        toString ((lastLine before).length + 1) ++ ": " ++ characterMessage c :=
      printed_of_some (hline ▸ h)
    rw [hprinted]
    simp

/-- **A report is printed with no more than its line replaced.** -/
theorem plainLine_display (hfile : ∀ c ∈ file.toList, 0x20 ≤ c.toNat ∧ c ≠ ':')
    (before : List Char) (c : Char) :
    Command.Run.plainLine ("  " ++ (ofCharacter file before c).display) =
      "  " ++ (ofCharacter file before c).printed ++ "\n" := by
  let column := (toString ((lastLine before).length + 1)).toList
  have hdigits : ∀ x ∈ column, 0x20 ≤ x.toNat ∧ x ≠ ':' := fun x hx =>
    ⟨Console.le_of_isInert (Console.isInert_of_mem_toString hx).1,
      (Console.isInert_of_mem_toString hx).2⟩
  have hfront : ':' ∉ "  ".toList ++ file.toList := by
    rw [List.mem_append, not_or]
    exact ⟨by decide, fun hmem => (hfile _ hmem).2 rfl⟩
  have hlead : ∀ x ∈ "  ".toList, 0x20 ≤ x.toNat := List.all_iff_forall_prop.mp (by decide)
  have hcolumn : ':' ∉ column := fun hmem => (hdigits _ hmem).2 rfl
  have hcodes := Console.replaceEmoji_place (n := (textLines before).length) hfront hcolumn
    (count_colon_characterMessage c)
  have hle : ∀ x ∈ "  ".toList ++ file.toList ++
      (Console.shownCode (toString (textLines before).length).toList ++
        (column ++ ':' :: ' ' :: (characterMessage c).toList)), 0x20 ≤ x.toNat := by
    simp only [List.forall_mem_append, List.forall_mem_cons]
    exact ⟨⟨hlead, fun x hx => (hfile x hx).1⟩, Console.le_of_mem_shownCode_toString _,
      fun x hx => (hdigits x hx).1, by decide, by decide, fun x => le_of_mem_characterMessage⟩
  rw [Command.Run.plainLine, String.toList_append, toList_display_ofCharacter, ← List.append_assoc,
    hcodes, Console.printedLine_of_le hle, ← String.toList_inj]
  simp only [String.toList_ofList, String.toList_append, toList_printed_ofCharacter,
    List.append_assoc, column]
  rfl

theorem le_of_mem_display (hfile : ∀ c ∈ file.toList, 0x20 ≤ c.toNat) (before : List Char)
    (c : Char) : ∀ x ∈ (ofCharacter file before c).display.toList, 0x20 ≤ x.toNat := by
  have hdigits : ∀ n : Nat, ∀ x ∈ (toString n).toList, 0x20 ≤ x.toNat := fun _ _ hx =>
    Console.le_of_isInert (Console.isInert_of_mem_toString hx).1
  rw [toList_display_ofCharacter]
  simp only [List.forall_mem_append, List.forall_mem_cons]
  exact ⟨hfile, by decide, hdigits _, by decide, hdigits _, by decide, by decide,
    fun x => le_of_mem_characterMessage⟩

/-- The diagnostics of a scan are those of characters of its text. -/
theorem exists_ofCharacter_of_mem {s : Scanner} {text : String} {found : List Diagnostic}
    (h : collect file (s.tokenize text).1 = .ok found) :
    ∀ d ∈ found, ∃ before c, d = ofCharacter file before c := by
  rw [collect_eq_ok_iff, s.filter_illegal_tokenize, List.forall₂_map_left_iff] at h
  have hinside : ∀ offset ∈ text.toList.findIdxs isForeign, ∃ c, text.toList[offset]? = some c :=
    fun offset hmem => (mem_findIdxs_isForeign_iff.mp hmem).imp fun c hc => hc.1
  generalize text.toList.findIdxs isForeign = offsets at h hinside
  induction h with
  | nil => simp
  | cons htoken _ ih =>
    obtain ⟨⟨c, hc⟩, hmore⟩ := List.forall_mem_cons.mp hinside
    rw [ofToken_illegalAt file hc, Except.ok.injEq] at htoken
    exact List.forall_mem_cons.mpr ⟨⟨_, c, htoken.symm⟩, ih hmore⟩

end Diagnostic

end MonkeyScan
