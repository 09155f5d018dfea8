import MonkeyScan.Command.Run
import MonkeyScan.Proofs.Console.Styled
import MonkeyScan.Proofs.Text.Hex

/-!
# The messages of a run

A message puts a few words into a tag and may go on behind it. What the program makes up itself,
numbers and the faults of bytes included, is printed as it stands. What it takes over from its
environment may hold markup, but not without a bracket.
-/
namespace MonkeyScan

namespace Console
variable {front middle back : List Char}

/-- A text without a colon may be put anywhere. -/
theorem Verbatim.insert (h : Verbatim (front ++ back))
    (hmiddle : ∀ c ∈ middle, isInert c ∧ c ≠ ':') : Verbatim (front ++ (middle ++ back)) where
  inert := by
    refine List.all_eq_true.mpr fun c hc => ?_
    rw [List.mem_append, List.mem_append] at hc
    rcases hc with hc | hc | hc
    · exact h.isInert_of_mem c (List.mem_append_left _ hc)
    · exact (hmiddle c hc).1
    · exact h.isInert_of_mem c (List.mem_append_right _ hc)
  colon := by
    have hnone : middle.count ':' = 0 := List.count_eq_zero.mpr fun hc => (hmiddle _ hc).2 rfl
    have hcolon := h.colon
    rw [List.count_append] at hcolon
    rw [List.count_append, List.count_append, hnone, Nat.zero_add]
    exact hcolon

/-- The digits of a number are printed as they stand. -/
theorem isInert_of_mem_toString {n : Nat} {c : Char} (h : c ∈ (toString n).toList) :
    isInert c ∧ c ≠ ':' := by
  have hrange := toNat_of_isDigit (isDigit_of_mem_toString h)
  constructor
  · have hbracket : c ≠ '[' := by
      rintro rfl
      exact absurd hrange (by decide)
    have hbackslash : c ≠ '\\' := by
      rintro rfl
      exact absurd hrange (by decide)
    simp only [isInert, Bool.and_eq_true, decide_eq_true_eq]
    exact ⟨⟨hbracket, hbackslash⟩, by omega⟩
  · rintro rfl
    exact absurd hrange (by decide)

theorem isInert_of_mem_hexFixed {width n : Nat} {c : Char} (h : c ∈ hexFixed width n) :
    isInert c ∧ c ≠ ':' := by
  have hall : ∀ d < 16, isInert (hexDigit d) ∧ hexDigit d ≠ ':' := by decide
  obtain ⟨d, hd, rfl⟩ := mem_hexFixed h
  exact hall d hd

/-- What is wrong with bytes is printed as it stands. -/
theorem verbatim_message (fault : Utf8.Fault) : Verbatim (' ' :: fault.message.toList) := by
  obtain ⟨reason, offset, length, byte⟩ := fault
  have hdigits : ∀ n : Nat, ∀ c ∈ (toString n).toList, isInert c ∧ c ≠ ':' :=
    fun n c => isInert_of_mem_toString
  by_cases hlength : length = 1
  · have hfixed : Verbatim ((' ' :: "'utf-8' codec can't decode byte".toList ++ " 0x".toList ++
        " in position ".toList) ++ (": ".toList ++ reason.message.toList)) := by
      cases reason <;> exact ⟨by decide, by decide⟩
    have hoffset := hfixed.insert (hdigits offset)
    rw [List.append_assoc] at hoffset
    have hdigits' : ∀ c ∈ hexFixed 2 byte.toNat, isInert c ∧ c ≠ ':' :=
      fun c => isInert_of_mem_hexFixed
    have hbyte := hoffset.insert hdigits'
    unfold Utf8.Fault.message
    rw [if_pos hlength]
    simp only [String.toList_append, String.toList_ofList, List.append_assoc, List.cons_append]
      at hbyte ⊢
    exact hbyte
  · have hfixed : Verbatim ((' ' :: "'utf-8' codec can't decode byte".toList ++
        "s in position ".toList ++ "-".toList) ++ (": ".toList ++ reason.message.toList)) := by
      cases reason <;> exact ⟨by decide, by decide⟩
    have hlast := hfixed.insert (hdigits (offset + length - 1))
    rw [List.append_assoc] at hlast
    have hfirst := hlast.insert (hdigits offset)
    unfold Utf8.Fault.message
    rw [if_neg hlength]
    simp only [String.toList_append, List.append_assoc, List.cons_append] at hfirst ⊢
    exact hfirst

end Console

namespace Command.Run
open Console (StyleTag Verbatim tagged)

/-! ## Messages with a tag -/

theorem boldRed : StyleTag "bold red".toList "bold red" :=
  ⟨by decide, by decide, by decide, by decide, by decide, by decide +kernel, by decide +kernel,
    by decide⟩

theorem boldGreen : StyleTag "bold green".toList "bold green" :=
  ⟨by decide, by decide, by decide, by decide, by decide, by decide +kernel, by decide +kernel,
    by decide⟩

theorem dim : StyleTag "dim".toList "dim" :=
  ⟨by decide, by decide, by decide, by decide, by decide, by decide +kernel, by decide +kernel,
    by decide⟩

section
variable {tag front s tail : List Char} {name message : String}

/-- Texts that are printed as they stand are so in a tag and around it. -/
theorem styledLine_tagged (h : StyleTag tag name)
    (hmessage : message.toList = front ++ (tagged tag s ++ tail)) (hfront : Verbatim front)
    (hs : Verbatim s) (htail : Verbatim tail) :
    styledLine message = .ok (String.ofList (front ++ (s ++ tail) ++ ['\n'])) := by
  have hinert : ∀ c ∈ front ++ (s ++ tail), Console.isInert c := by
    simp only [List.mem_append]
    rintro c (hc | hc | hc)
    · exact hfront.isInert_of_mem c hc
    · exact hs.isInert_of_mem c hc
    · exact htail.isInert_of_mem c hc
  rw [styledLine, hmessage, Console.ofMarkup_tagged h hfront.ne_bracket_backslash
    hs.ne_bracket_backslash (Console.tagless_of_not_mem htail.bracket_not_mem),
    Console.unescapeBrackets_of_not_mem htail.bracket_not_mem, hfront.shownPlain_eq, hs.shownPlain_eq,
    htail.shownPlain_eq, Except.map,
    Console.printedLine_of_le fun c hc => Console.le_of_isInert (hinert c hc)]

/-- Behind a tag any text without a bracket is well-formed. -/
theorem exists_styledLine_tagged (h : StyleTag tag name)
    (hmessage : message.toList = tagged tag s ++ tail) (hs : Verbatim s) (htail : '[' ∉ tail) :
    ∃ line, styledLine message = .ok line := by
  have hnil : ∀ c ∈ ([] : List Char), c ≠ '[' ∧ c ≠ '\\' := by simp
  have hmarkup := Console.ofMarkup_tagged h hnil hs.ne_bracket_backslash
    (Console.tagless_of_not_mem htail)
  rw [List.nil_append] at hmarkup
  exact ⟨_, by rw [styledLine, hmessage, hmarkup]; rfl⟩

end

theorem verbatim_nil : Verbatim [] := ⟨by decide, by decide⟩

theorem toList_errorMessage (text : String) : ("[bold red]Error:[/bold red] " ++ text).toList =
    tagged "bold red".toList "Error:".toList ++ ' ' :: text.toList := by
  have hlead : "[bold red]Error:[/bold red] ".toList =
      tagged "bold red".toList "Error:".toList ++ [' '] := by decide
  rw [String.toList_append, hlead, List.append_assoc, List.singleton_append]

theorem toList_savedMessage (path : String) : ("[bold green]✅ Saved[/bold green] " ++ path).toList =
    tagged "bold green".toList "✅ Saved".toList ++ ' ' :: path.toList := by
  have hlead : "[bold green]✅ Saved[/bold green] ".toList =
      tagged "bold green".toList "✅ Saved".toList ++ [' '] := by decide
  rw [String.toList_append, hlead, List.append_assoc, List.singleton_append]

theorem newline_not_mem_of_verbatim {text : List Char} (h : Verbatim text) : '\n' ∉ text :=
  fun hmem => absurd (h.isInert_of_mem _ hmem) (by decide)

theorem plainLine_of_verbatim {text : String} (h : Verbatim text.toList) :
    plainLine text = text ++ "\n" := by
  have hle : ∀ c ∈ text.toList, 0x20 ≤ c.toNat :=
    fun c hc => Console.le_of_isInert (h.isInert_of_mem c hc)
  rw [plainLine, Console.replaceEmoji_of_count_le h.colon, Console.printedLine_of_le hle,
    String.ofList_append, String.ofList_toList]

/-- A source file that is not UTF-8 is reported with what is wrong. -/
theorem fail_utf8 (r : Run) (fault : Utf8.Fault) : r.fail fault.message =
    { exit := 1, out := r.shown ("Error: " ++ fault.message ++ "\n"), files := r.files } := by
  have hmessage : ("[bold red]Error:[/bold red] " ++ fault.message).toList =
      [] ++ (tagged "bold red".toList "Error:".toList ++ ' ' :: fault.message.toList) :=
    toList_errorMessage fault.message
  have hline := styledLine_tagged boldRed hmessage verbatim_nil ⟨by decide, by decide⟩
    (Console.verbatim_message fault)
  have hout : String.ofList ([] ++ ("Error:".toList ++ ' ' :: fault.message.toList) ++ ['\n']) =
      "Error: " ++ fault.message ++ "\n" := by
    rw [← String.toList_inj]
    simp only [String.toList_ofList, String.toList_append]
    rfl
  rw [hout] at hline
  simp only [fail, finish, hline]
  rw [String.append_empty]

/-- What is printed above the reports of a file. -/
def heading (n : Nat) : String :=
  "❌ " ++ toString n ++ " illegal character(s) found:\n"

theorem verbatim_heading (n : Nat) :
    Verbatim ("❌ " ++ toString n ++ " illegal character(s) found:").toList := by
  rw [String.toList_append, String.toList_append, List.append_assoc]
  exact Verbatim.insert ⟨by decide, by decide⟩ fun _ => Console.isInert_of_mem_toString

theorem styledLine_heading (n : Nat) : styledLine
    ("[bold red]❌ " ++ toString n ++ " illegal character(s) found:[/bold red]") =
      .ok (heading n) := by
  have hmessage : ("[bold red]❌ " ++ toString n ++ " illegal character(s) found:[/bold red]").toList =
      [] ++ (tagged "bold red".toList ("❌ " ++ toString n ++
        " illegal character(s) found:").toList ++ []) := by
    simp only [String.toList_append, tagged, List.append_assoc, List.append_nil, List.nil_append]
    rfl
  rw [styledLine_tagged boldRed hmessage verbatim_nil (verbatim_heading n) verbatim_nil, heading]
  refine congrArg Except.ok ?_
  rw [← String.toList_inj]
  simp only [String.toList_ofList, String.toList_append, List.append_assoc, List.nil_append]
  rfl

/-- The hint below each report. -/
theorem styledLine_hint : styledLine ("    [dim]" ++ removalHint ++ "[/dim]") =
    .ok ("    " ++ removalHint ++ "\n") := by
  have hmessage : ("    [dim]" ++ removalHint ++ "[/dim]").toList =
      "    ".toList ++ (tagged "dim".toList removalHint.toList ++ []) := by
    simp only [String.toList_append, tagged]
    rfl
  rw [styledLine_tagged dim hmessage ⟨by decide, by decide⟩ ⟨by decide, by decide⟩ verbatim_nil]
  exact congrArg Except.ok (by decide)

/-- What is printed if there is nothing to report. -/
theorem styledLine_nothing : styledLine "[bold green]✅ No illegal characters[/bold green]" =
    .ok "✅ No illegal characters\n" := by
  have hmessage : "[bold green]✅ No illegal characters[/bold green]".toList =
      [] ++ (tagged "bold green".toList "✅ No illegal characters".toList ++ []) := by decide
  rw [styledLine_tagged boldGreen hmessage verbatim_nil ⟨by decide, by decide⟩ verbatim_nil]
  exact congrArg Except.ok (by decide)

/-- Every path without a bracket can be reported as saved. -/
theorem exists_styledLine_saved {path : String} (h : '[' ∉ path.toList) :
    ∃ line, styledLine ("[bold green]✅ Saved[/bold green] " ++ path) = .ok line := by
  have htail : '[' ∉ ' ' :: path.toList := by simp [h]
  exact exists_styledLine_tagged boldGreen (toList_savedMessage path) ⟨by decide, by decide⟩ htail

end Command.Run

end MonkeyScan
