import MonkeyScan.Proofs.Command.Inspection
import MonkeyScan.Proofs.Text.Utf8
import Mathlib.Algebra.Order.BigOperators.Group.List
import Mathlib.Algebra.Order.Group.Nat

/-!
# The printed reports of a file

Each diagnostic is printed on a line of its own, with a hint below. An emoji in place of a line makes
the report shorter, so a report is verbatim exactly if no line in it names one.
-/
namespace MonkeyScan

namespace Command

namespace Run
variable {found : List Diagnostic}

/-- The lines of a diagnostic if `shown` is printed of it, with the usual hint. -/
def reportedAs (shown : String) : String :=
  "  " ++ shown ++ "\n" ++ ("    " ++ removalHint ++ "\n")

/-- What the diagnostics of a file are reported as if `shown` is printed of each of them. -/
def reportAs (shown : Diagnostic → String) (found : List Diagnostic) : String :=
  if found = [] then "✅ No illegal characters\n"
  else heading found.length ++ String.join (found.map fun d => reportedAs (shown d))

theorem length_reportedAs (shown : String) :
    (reportedAs shown).length = shown.length + (reportedAs "").length := by
  simp only [reportedAs, String.length_append, String.length_empty]
  omega

/-- Every report ends its last line. -/
theorem lastLine_reportAs (shown : Diagnostic → String) (found : List Diagnostic) :
    lastLine (reportAs shown found).toList = [] := by
  obtain ⟨front, hfront⟩ : ∃ front, (reportAs shown found).toList = front ++ ['\n'] := by
    rcases List.eq_nil_or_concat' found with rfl | ⟨before, d, rfl⟩
    · have hnothing : "✅ No illegal characters\n".toList =
          "✅ No illegal characters".toList ++ ['\n'] := by decide
      exact ⟨_, hnothing⟩
    · have hhint : ("    " ++ removalHint ++ "\n").toList =
          ("    " ++ removalHint).toList ++ ['\n'] := by decide
      rw [reportAs, if_neg (by simp), List.map_append, List.map_singleton, String.join_append,
        String.join_cons, String.join_nil, String.append_empty, reportedAs, ← String.append_assoc,
        ← String.append_assoc, String.toList_append, hhint, ← List.append_assoc]
      exact ⟨_, rfl⟩
  rw [hfront]
  exact (textLines_append_newline front).2

/-- Every emoji makes a report shorter. -/
theorem length_reportAs_printed_lt {d : Diagnostic} (hd : d ∈ found) {emoji : String}
    (h : Console.numberEmoji? d.line = some emoji) :
    (reportAs Diagnostic.printed found).length < (reportAs Diagnostic.display found).length := by
  let length := fun (shown : Diagnostic → String) (d : Diagnostic) => (reportedAs (shown d)).length
  have hlines : (found.map (length Diagnostic.printed)).sum <
      (found.map (length Diagnostic.display)).sum := by
    refine List.sum_lt_sum _ _ (fun d _ => ?_) ⟨d, hd, ?_⟩
    · have hle := d.length_printed_le
      simp only [length, length_reportedAs d.printed, length_reportedAs d.display]
      omega
    · have hlt := Diagnostic.length_printed_lt h
      simp only [length, length_reportedAs d.printed, length_reportedAs d.display]
      omega
  have hlength : ∀ shown : Diagnostic → String, (reportAs shown found).length =
      (heading found.length).length + (found.map (length shown)).sum := by
    intro shown
    rw [reportAs, if_neg (List.ne_nil_of_mem hd), String.length_append, String.length_join,
      List.map_map]
    rfl
  rw [hlength, hlength]
  omega

/-- A report is verbatim exactly if no line of it names an emoji. -/
theorem reportAs_printed_eq_iff : reportAs Diagnostic.printed found =
    reportAs Diagnostic.display found ↔ ∀ d ∈ found, d.line ≠ 100 ∧ d.line ≠ 1234 := by
  constructor
  · intro hsame d hd
    rw [← Console.numberEmoji?_eq_none_iff, Option.eq_none_iff_forall_ne_some]
    intro emoji hemoji
    exact absurd (congrArg String.length hsame) (length_reportAs_printed_lt hd hemoji).ne
  · intro hlines
    have hshown : found.map (fun d => reportedAs d.printed) =
        found.map fun d => reportedAs d.display :=
      List.map_congr_left fun d hd => by rw [Diagnostic.printed_eq_display_iff.mpr (hlines d hd)]
    rw [reportAs, reportAs, hshown]

end Run

section
variable {e : Environment} {files : FileTree} {path : Path} {file : String} {bytes : List UInt8}
  {text : List Char} {found : List Diagnostic}

/-- What is printed for a file with these diagnostics. -/
theorem check_of_collect (hpath : Path.forSettings e.settingsFile e.home = .ok path)
    (hread : files.read file = .ok bytes) (hdecode : Utf8.decode bytes = .ok text)
    (hfile : ∀ c ∈ file.toList, 0x20 ≤ c.toNat ∧ c ≠ ':')
    (hcollect : ∀ s : Scanner,
      Diagnostic.collect file (s.tokenize (String.ofList (unifyLineEnds text))).1 = .ok found)
    (override : Option Level) (input : Input) :
    let checked := run e files (fileArguments override .check file) input
    checked.exit = (if found = [] then 0 else 1) ∧ checked.err = "" ∧
      checked.out = Console.shownOn e.columns (Run.reportAs Diagnostic.printed found) := by
  intro checked
  have hlines : found.map Run.reportText = found.map fun d => Run.reportedAs d.printed := by
    refine List.map_congr_left fun d hd => ?_
    obtain ⟨before, c, rfl⟩ := Diagnostic.exists_ofCharacter_of_mem (hcollect {}) d hd
    rw [Run.reportText, Diagnostic.plainLine_display hfile]
    rfl
  obtain ⟨hexit, herr, hout⟩ := run_check_of_decode hpath hread hdecode hcollect override input
  rw [Run.reportOn, hlines] at hout
  exact ⟨hexit, herr, hout⟩

/-- **Reports are verbatim but for two lines.** For each diagnostic, in order, what is printed is its
display, except that on the lines 100 and 1234 an emoji is printed in place of the line and of the
colons around it. So where the lines fit the console all of a report is verbatim if and only if no
diagnostic stands on these lines. -/
theorem check_prints_displays (hpath : Path.forSettings e.settingsFile e.home = .ok path)
    (hread : files.read file = .ok bytes) (hdecode : Utf8.decode bytes = .ok text)
    (hfile : ∀ c ∈ file.toList, 0x20 ≤ c.toNat ∧ c ≠ ':') (override : Option Level)
    (input : Input) :
    let checked := run e files (fileArguments override .check file) input
    ∃ found : List Diagnostic,
      (∀ s : Scanner,
        Diagnostic.collect file (s.tokenize (String.ofList (unifyLineEnds text))).1 = .ok found) ∧
      checked.exit = (if found = [] then 0 else 1) ∧ checked.err = "" ∧
      checked.out = Console.shownOn e.columns (Run.reportAs Diagnostic.printed found) ∧
      (∀ d ∈ found, d.printed = d.display ↔ d.line ≠ 100 ∧ d.line ≠ 1234) ∧
      (Console.Fits e.columns (Run.reportAs Diagnostic.printed found).toList →
        checked.out = Run.reportAs Diagnostic.printed found ∧
        (checked.out = Run.reportAs Diagnostic.display found ↔
          ∀ d ∈ found, d.line ≠ 100 ∧ d.line ≠ 1234)) := by
  intro checked
  obtain ⟨rows, found, -, hcollect, -⟩ :=
    exists_rows_found file (String.ofList (unifyLineEnds text))
  obtain ⟨hexit, herr, hout⟩ := check_of_collect hpath hread hdecode hfile hcollect override input
  refine ⟨found, hcollect, hexit, herr, hout, fun d _ => Diagnostic.printed_eq_display_iff,
    fun hfits => ?_⟩
  have hprinted := hout.trans (Console.shownOn_of_fits hfits (Run.lastLine_reportAs _ _))
  refine ⟨hprinted, ?_⟩
  rw [← Run.reportAs_printed_eq_iff]
  exact ⟨fun h => hprinted.symm.trans h, fun h => hprinted.trans h⟩

theorem check_prints_displays_second_line :
    let e : Environment := { settingsFile := some "config.json", home := "/" }
    let files : FileTree := ⟨.dir [("a b.mk", .file [0x61, 0x0a, 0x3a])], []⟩
    (run e files (fileArguments none .check "a b.mk") {}).out =
      Run.reportAs Diagnostic.display
        [⟨"Unexpected character ':'", "a b.mk", 2, 1, some removalHint⟩] := by
  intro e files
  have hpath : Path.forSettings (some "config.json") "/" = .ok ⟨.relative, ["config.json"]⟩ := rfl
  have hread : files.read "a b.mk" = .ok [0x61, 0x0a, 0x3a] :=
    FileTree.read_eq_ok.mpr ⟨["a b.mk"], rfl, rfl⟩
  have hdecode : Utf8.decode [0x61, 0x0a, 0x3a] = .ok ['a', '\n', ':'] := by decide
  have hfile : ∀ c ∈ "a b.mk".toList, 0x20 ≤ c.toNat ∧ c ≠ ':' :=
    List.all_iff_forall_prop.mp (by decide)
  obtain ⟨found, hcollect, -, -, -, -, hverbatim⟩ :=
    check_prints_displays (e := e) hpath hread hdecode hfile none {}
  have hfound : Except.ok [⟨"Unexpected character ':'", "a b.mk", 2, 1, some removalHint⟩] =
      Except.ok found := Eq.trans (by decide +kernel) (hcollect {})
  rw [← Except.ok.inj hfound] at hverbatim
  exact (hverbatim (by decide +kernel)).2.mpr (by decide)

/-- A foreign character on line 100 is reported without its line. -/
theorem check_replaces_line :
    let text := List.replicate 99 '\n' ++ ['@']
    let e : Environment := { settingsFile := some "config.json", home := "/" }
    let files : FileTree := ⟨.dir [("f.mk", .file (Utf8.encode text))], []⟩
    let checked := run e files (fileArguments none .check "f.mk") {}
    let d : Diagnostic := ⟨"Unexpected character '@'", "f.mk", 100, 1, some removalHint⟩
    (∀ s : Scanner, Diagnostic.collect "f.mk" (s.tokenize (String.ofList text)).1 = .ok [d]) ∧
    d.display = "f.mk:100:1: Unexpected character '@'" ∧
    checked.out = Run.heading 1 ++ "  f.mk💯1: Unexpected character '@'\n" ++
      ("    " ++ removalHint ++ "\n") ∧
    ¬ d.display.toList <:+: checked.out.toList := by
  intro text e files checked d
  have hpath : Path.forSettings (some "config.json") "/" = .ok ⟨.relative, ["config.json"]⟩ := rfl
  have hread : files.read "f.mk" = .ok (Utf8.encode text) :=
    FileTree.read_eq_ok.mpr ⟨["f.mk"], rfl, rfl⟩
  have hfile : ∀ c ∈ "f.mk".toList, 0x20 ≤ c.toNat ∧ c ≠ ':' :=
    List.all_iff_forall_prop.mp (by decide)
  have hunified : unifyLineEnds text = text := by decide +kernel
  have hfound : Diagnostic.collect "f.mk" ((({} : Scanner).tokenize (String.ofList text)).1) =
      .ok [d] := by decide +kernel
  have hcollect : ∀ s : Scanner,
      Diagnostic.collect "f.mk" (s.tokenize (String.ofList text)).1 = .ok [d] := fun s =>
    (congrArg _ (s.tokenize_unobserved {} _)).trans hfound
  obtain ⟨-, -, hout⟩ := check_of_collect (e := e) hpath hread (Utf8.decode_encode text) hfile
    (hunified.symm ▸ hcollect) none {}
  have hprinted : Run.reportAs Diagnostic.printed [d] = Run.heading 1 ++
      "  f.mk💯1: Unexpected character '@'\n" ++ ("    " ++ removalHint ++ "\n") := by
    decide +kernel
  have hfits : Console.Fits 1000 (Run.reportAs Diagnostic.printed [d]).toList := by
    decide +kernel
  have hchecked := (hout.trans (Console.shownOn_of_fits hfits (Run.lastLine_reportAs _ _))).trans
    hprinted
  refine ⟨hcollect, by decide, hchecked, ?_⟩
  rw [hchecked]
  decide +kernel

end

end Command

end MonkeyScan
