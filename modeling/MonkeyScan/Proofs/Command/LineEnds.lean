import MonkeyScan.Proofs.Command.Inspection
import MonkeyScan.Proofs.Scan.Boundary
import MonkeyScan.Proofs.Text.Utf8

/-!
# Line ends make no difference

A carriage return before a line feed is one more blank at the end of its line, where no token stands
behind it, so a scan does not notice it. A lone carriage return starts no line for a scan, but a file
is read with its line ends unified. So however the lines of a text end, the commands that inspect a
file show the same of it.
-/
namespace MonkeyScan

/-- How the end of a line is written. -/
inductive LineEnd
  | lineFeed
  | pair
  | carriageReturn
  deriving DecidableEq, Repr

def LineEnd.text : LineEnd → List Char
  | lineFeed => ['\n']
  | pair => ['\r', '\n']
  | carriageReturn => ['\r']

/-- A text with every line end written in one way. -/
def withLineEnds (e : LineEnd) (text : List Char) : List Char :=
  text.flatMap fun c => if c = '\n' then e.text else [c]

section
variable {e : LineEnd} {a b l rest lead before : List Char} {c : Char}

@[simp] theorem withLineEnds_nil (e : LineEnd) : withLineEnds e [] = [] := rfl

@[simp] theorem withLineEnds_append (e : LineEnd) (a b : List Char) :
    withLineEnds e (a ++ b) = withLineEnds e a ++ withLineEnds e b :=
  List.flatMap_append

@[simp] theorem withLineEnds_cons_newline (e : LineEnd) (l : List Char) :
    withLineEnds e ('\n' :: l) = e.text ++ withLineEnds e l :=
  List.flatMap_cons

theorem withLineEnds_cons_of_ne (hc : c ≠ '\n') :
    withLineEnds e (c :: l) = c :: withLineEnds e l := by
  rw [withLineEnds, List.flatMap_cons, if_neg hc]
  rfl

theorem withLineEnds_of_not_mem (h : '\n' ∉ l) : withLineEnds e l = l := by
  induction l with
  | nil => rfl
  | cons c l ih =>
    rw [List.mem_cons, not_or] at h
    rw [withLineEnds_cons_of_ne (Ne.symm h.1), ih h.2]

/-! ## Reading -/

theorem unifyLineEnds_cons_of_ne (hc : c ≠ '\r') :
    unifyLineEnds (c :: l) = c :: unifyLineEnds l := by
  rw [unifyLineEnds]
  · exact fun _ hc' _ => hc hc'
  · exact hc

theorem newline_not_mem_withLineEnds (l : List Char) :
    '\n' ∉ withLineEnds .carriageReturn l := by
  intro hmem
  obtain ⟨c, -, hc⟩ := List.mem_flatMap.mp hmem
  by_cases hline : c = '\n'
  · rw [if_pos hline] at hc
    exact absurd hc (by decide)
  · rw [if_neg hline, List.mem_singleton] at hc
    exact hline hc.symm

/-- **Unifying the line ends undoes how they were written.** -/
theorem unifyLineEnds_withLineEnds (e : LineEnd) (h : '\r' ∉ l) :
    unifyLineEnds (withLineEnds e l) = l := by
  induction l with
  | nil => rfl
  | cons c l ih =>
    rw [List.mem_cons, not_or] at h
    have hmore := ih h.2
    by_cases hc : c = '\n'
    · rw [hc, withLineEnds_cons_newline]
      cases e with
      | lineFeed => exact (unifyLineEnds_cons_of_ne (by decide)).trans (congrArg _ hmore)
      | pair => exact congrArg _ hmore
      | carriageReturn =>
        -- The next line end does not start with a line feed, so it is not taken for one of a pair.
        rw [LineEnd.text, List.singleton_append, unifyLineEnds, hmore]
        intro rest hrest
        exact newline_not_mem_withLineEnds l (hrest ▸ List.mem_cons_self)
    · rw [withLineEnds_cons_of_ne hc, unifyLineEnds_cons_of_ne (Ne.symm h.1), hmore]

/-! ## Scanning -/

/-- A carriage return before each line feed moves nothing that stands behind them. -/
theorem placeBehind_withLineEnds (before : List Char) :
    placeBehind (withLineEnds .pair before) = placeBehind before := by
  induction before using List.reverseRecOn with
  | nil => rfl
  | append_singleton before c ih =>
    by_cases hc : c = '\n'
    · have hpair : withLineEnds .pair (before ++ ['\n']) =
          withLineEnds .pair before ++ ['\r'] ++ ['\n'] := by simp [LineEnd.text]
      rw [hc, hpair, placeBehind_append_newline, placeBehind_append _ (by decide), ih,
        placeBehind_append_newline]
    · have hmem : '\n' ∉ [c] := by simpa using Ne.symm hc
      rw [withLineEnds_append, withLineEnds_of_not_mem hmem, placeBehind_append _ hmem, ih,
        placeBehind_append _ hmem]

theorem isBlank_of_mem_withLineEnds (h : ∀ c ∈ l, isBlank c) :
    ∀ c ∈ withLineEnds .pair l, isBlank c := by
  intro c hc
  obtain ⟨d, hd, hc⟩ := List.mem_flatMap.mp hc
  by_cases hline : d = '\n'
  · rw [if_pos hline] at hc
    have hall : (LineEnd.text .pair).all isBlank := by decide
    exact List.all_eq_true.mp hall c hc
  · rw [if_neg hline, List.mem_singleton] at hc
    exact hc ▸ h d hd

/-- A lexeme glues to what stands behind it or does not, whether or not a carriage return stands
before the line feeds there. -/
theorem glues_withLineEnds_iff : Glues l (withLineEnds .pair rest) ↔ Glues l rest := by
  cases rest with
  | nil => rfl
  | cons c rest =>
    by_cases hc : c = '\n'
    · have hfeed : ¬ Glues l (c :: rest) := not_glues_of_blank (b := c) rfl (by rw [hc]; rfl)
      have hreturn : ¬ Glues l (withLineEnds .pair (c :: rest)) := by
        rw [hc]
        exact not_glues_of_blank (b := '\r') rfl rfl
      exact iff_of_false hreturn hfeed
    · exact glues_congr (by rw [withLineEnds_cons_of_ne hc]; rfl)

namespace Scanner

/-- **A scan does not notice carriage returns before line feeds.** -/
theorem remaining_withLineEnds (s : Scanner) (before : List Char) {segments : List Segment}
    (h : Segmentation rest lead segments) :
    s.remaining (.behind (withLineEnds .pair before) (withLineEnds .pair rest)) =
      s.remaining (.behind before rest) := by
  induction segments generalizing before rest lead with
  | nil =>
    obtain rfl : rest = lead := by simpa using h.text_eq
    rw [s.remaining_of_blank h.lead_blank,
      s.remaining_of_blank (isBlank_of_mem_withLineEnds h.lead_blank), ← withLineEnds_append,
      placeBehind_withLineEnds]
  | cons g more ih =>
    obtain ⟨tail, rfl, hlex, hglue, htail⟩ := h.uncons
    have hlexeme : withLineEnds .pair g.lexeme = g.lexeme :=
      withLineEnds_of_not_mem hlex.newline_not_mem
    have hpaired := s.remaining_of_lexeme (withLineEnds .pair before)
      (isBlank_of_mem_withLineEnds h.lead_blank) hlex (mt glues_withLineEnds_iff.mp hglue)
    have hmore := ih (before ++ (lead ++ g.lexeme)) htail
    rw [withLineEnds_append, withLineEnds_append, hlexeme] at hmore
    rw [withLineEnds_append, withLineEnds_append, hlexeme, hpaired, hmore,
      s.remaining_of_lexeme _ h.lead_blank hlex hglue, ← withLineEnds_append,
      placeBehind_withLineEnds]

theorem tokenize_withLineEnds (s : Scanner) (text : String) :
    s.tokenize (String.ofList (withLineEnds .pair text.toList)) = s.tokenize text := by
  obtain ⟨lead, segments, h⟩ := exists_segmentation text.toList
  have htokens := s.remaining_withLineEnds [] h
  rw [withLineEnds_nil] at htokens
  have hsame : (s.tokenize (String.ofList (withLineEnds .pair text.toList))).1 =
      (s.tokenize text).1 := by
    rw [tokenize_eq_behind, tokenize_eq_behind, String.toList_ofList, htokens]
  refine Prod.ext hsame ?_
  rw [tokenize_log, tokenize_log, hsame]

end Scanner

end

/-! ## Files -/

namespace Diagnostic

/-- A diagnostic as the report on another file gives it. -/
def inFile (file : String) (d : Diagnostic) : Diagnostic := { d with file }

theorem ofToken_inFile {file : String} {t : Token} {d : Diagnostic} (h : ofToken file t = .ok d)
    (file' : String) : ofToken file' t = .ok (d.inFile file') := by
  obtain ⟨message, hmessage, rfl⟩ := eq_of_ofToken h
  rw [ofToken, hmessage]
  rfl

/-- A text has the same diagnostics in every file, the name of the file aside. -/
theorem exists_collect_inFile (text : String) :
    ∃ reports : List Diagnostic, ∀ (s : Scanner) (file : String),
      collect file (s.tokenize text).1 = .ok (reports.map (inFile file)) := by
  obtain ⟨reports, hcollect, -⟩ := exists_collect_tokenize {} "" text
  refine ⟨reports, fun s file => ?_⟩
  rw [s.tokenize_unobserved {} text]
  rw [collect_eq_ok_iff] at hcollect ⊢
  rw [List.forall₂_map_right_iff]
  exact hcollect.imp fun t d htoken => ofToken_inFile htoken file

end Diagnostic

namespace Command

/-- **Line ends make no difference.** A scan answers the same for a text whose line feeds have carriage
returns before them. And files that hold one text with its line ends written in any of the three ways
are shown alike: with the same rows of tokens by the one command, and by the other with the same
diagnostics, the names of the files aside, and the same status. -/
theorem line_ends_unnoticed (text : String) :
    (∀ s : Scanner, s.tokenize (String.ofList (withLineEnds .pair text.toList)) = s.tokenize text) ∧
    ('\r' ∉ text.toList → ∃ (rows : List Token) (reports : List Diagnostic),
      (∀ s : Scanner, (s.tokenize text).1.filter (fun t => t.kind ≠ .eof) = rows) ∧
      (∀ (s : Scanner) (file : String),
        Diagnostic.collect file (s.tokenize text).1 = .ok (reports.map (.inFile file))) ∧
      ∀ (lineEnd : LineEnd) (e : Environment) (path : Path) (files : FileTree) (file : String)
        (override : Option Level) (input : Input),
        Path.forSettings e.settingsFile e.home = .ok path →
        files.read file = .ok (Utf8.encode (withLineEnds lineEnd text.toList)) →
        let shown := run e files (fileArguments override .tokens file) input
        let checked := run e files (fileArguments override .check file) input
        shown.exit = 0 ∧ shown.err = "" ∧
        shown.out = Console.Table.text
          ⟨"Tokens", ["Type", "Literal", "Line", "Column"], rows.map Token.shownRow⟩ e.columns ∧
        checked.exit = (if reports = [] then 0 else 1) ∧ checked.err = "" ∧
        checked.out = Console.shownOn e.columns (
          if reports = [] then "✅ No illegal characters\n"
          else Run.heading reports.length ++
            String.join (reports.map fun d => Run.reportText (d.inFile file)))) := by
  refine ⟨fun s => s.tokenize_withLineEnds text, fun hreturn => ?_⟩
  obtain ⟨reports, hcollect⟩ := Diagnostic.exists_collect_inFile text
  refine ⟨_, reports, fun s => congrArg _ (s.tokenize_unobserved {} text), hcollect, ?_⟩
  intro lineEnd e path files file override input hpath hread shown checked
  have hunified := unifyLineEnds_withLineEnds lineEnd hreturn
  have hfound : ∀ s : Scanner, Diagnostic.collect file (s.tokenize (String.ofList (unifyLineEnds
      (withLineEnds lineEnd text.toList)))).1 = .ok (reports.map (.inFile file)) := by
    intro s
    rw [hunified, String.ofList_toList, hcollect]
  obtain ⟨hexit, herr, hout⟩ :=
    run_tokens_of_decode hpath hread (Utf8.decode_encode _) override input {}
  obtain ⟨hexit', herr', hout'⟩ :=
    run_check_of_decode hpath hread (Utf8.decode_encode _) hfound override input
  rw [hunified, String.ofList_toList] at hout
  simp only [Run.reportOn, List.map_eq_nil_iff, List.length_map, List.map_map] at hexit' hout'
  exact ⟨hexit, herr, hout, hexit', herr', hout'⟩

theorem line_ends_unnoticed_return_newline :
    let e : Environment := { settingsFile := some "config.json", home := "/" }
    let files : FileTree := ⟨.dir [("cr.mk", .file [0x61, 0x0d, 0x40, 0x0d]),
      ("crlf.mk", .file [0x61, 0x0d, 0x0a, 0x40, 0x0d, 0x0a])], []⟩
    ∃ (rows : List Token) (reports : List Diagnostic),
      rows = [⟨.ident, "a", 1, 1⟩, ⟨.illegal, "@", 2, 1⟩] ∧
      (run e files (fileArguments none .tokens "cr.mk") {}).out = (Run.tokenTable rows).text 1000 ∧
      (run e files (fileArguments none .tokens "crlf.mk") {}).out = (Run.tokenTable rows).text 1000 ∧
      reports ≠ [] ∧
      (run e files (fileArguments (some .debug) .check "cr.mk") {}).exit = 1 ∧
      (run e files (fileArguments (some .debug) .check "crlf.mk") {}).exit = 1 := by
  intro e files
  obtain ⟨rows, reports, hrows, hreports, hshown⟩ :=
    (line_ends_unnoticed "a\n@\n").2 (by decide +kernel)
  have hpath : Path.forSettings (some "config.json") "/" = .ok ⟨.relative, ["config.json"]⟩ := rfl
  have hreturn : Utf8.encode (withLineEnds .carriageReturn "a\n@\n".toList) =
      [0x61, 0x0d, 0x40, 0x0d] := by decide +kernel
  have hpair : Utf8.encode (withLineEnds .pair "a\n@\n".toList) =
      [0x61, 0x0d, 0x0a, 0x40, 0x0d, 0x0a] := by decide +kernel
  have hread : files.read "cr.mk" =
      .ok (Utf8.encode (withLineEnds .carriageReturn "a\n@\n".toList)) :=
    FileTree.read_eq_ok.mpr ⟨["cr.mk"], rfl, hreturn ▸ rfl⟩
  have hread' : files.read "crlf.mk" = .ok (Utf8.encode (withLineEnds .pair "a\n@\n".toList)) :=
    FileTree.read_eq_ok.mpr ⟨["crlf.mk"], rfl, hpair ▸ rfl⟩
  have hfound : reports ≠ [] := by
    rintro rfl
    have hnone := hreports {} "f.mk"
    revert hnone
    decide +kernel
  obtain ⟨-, -, hout, -⟩ := hshown .carriageReturn e _ files "cr.mk" none {} hpath hread
  obtain ⟨-, -, hout', -⟩ := hshown .pair e _ files "crlf.mk" none {} hpath hread'
  obtain ⟨-, -, -, hexit, -⟩ := hshown .carriageReturn e _ files "cr.mk" (some .debug) {} hpath hread
  obtain ⟨-, -, -, hexit', -⟩ := hshown .pair e _ files "crlf.mk" (some .debug) {} hpath hread'
  rw [if_neg hfound] at hexit hexit'
  exact ⟨rows, reports, (hrows {}).symm.trans (by decide +kernel), hout, hout', hfound, hexit, hexit'⟩

end Command

end MonkeyScan
