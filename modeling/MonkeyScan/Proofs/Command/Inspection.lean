import MonkeyScan.Proofs.Command.Messages
import MonkeyScan.Proofs.Command.Override
import MonkeyScan.Proofs.Command.Tables
import MonkeyScan.Proofs.Diagnostic.Printing
import MonkeyScan.Proofs.Scan.Tracing

/-!
# Two commands inspect one file

One command shows the tokens of a file and the other reports its illegal characters. They read the
file alike, whatever its bytes are: either both fail, in the same way, or the reports are those on
the rows of kind `Kind.illegal`, and the status of the second command says whether there are any.
-/
namespace MonkeyScan.Command

open Console (RoomFor ShowsTable LineFits shownOn)

/-! ## Asking for a file -/

/-- A file as the argument of a command. A name that looks like an option stands behind the end of
the options. -/
def operand (file : String) : List String :=
  if isSwitch file then ["--", file] else [file]

/-- The arguments that have a command inspect a file, maybe with an override of the level. -/
def fileArguments (override : Option Level) (name : Name) (file : String) : List String :=
  overrideSwitch.withValue (override.map Level.name) ++ name.text :: operand file

theorem parseArguments_operand (switches : List Switch) (file : String) :
    parseArguments switches true (operand file) = .ok ⟨[], [file]⟩ := by
  unfold operand
  by_cases hswitch : isSwitch file
  · rw [if_pos hswitch, parseArguments, if_pos rfl]
  · have hne : file ≠ "--" := by
      rintro rfl
      exact hswitch (by decide)
    rw [if_neg hswitch, parseArguments, if_neg hne, if_neg hswitch, if_pos rfl, parseArguments]
    rfl

section
variable {files : FileTree} {file : String} {bytes : List UInt8}

theorem unaskable_of_read (hread : files.read file = .ok bytes) (name : Name) :
    unaskable name ⟨[], [file]⟩ = none := by
  obtain ⟨place, hlocate, -⟩ := FileTree.read_eq_ok.mp hread
  have hnull : '\x00' ∉ file.toList := (FileTree.locate_eq_ok.mp hlocate).1
  cases name <;> simp [unaskable, Name.takesFile, hnull]

theorem takeFile_of_read (hread : files.read file = .ok bytes) :
    takeFile files [file] = .ok (file, []) := by
  have hnode : files.node file = .ok (.file bytes) :=
    FileTree.node_eq_ok.mpr (FileTree.read_eq_ok.mp hread)
  simp only [takeFile, judgeFile, hnode, Except.map]

/-- The command behind an override is read with its arguments. -/
theorem readArguments_fileArguments (override : Option Level) (name : Name) :
    readArguments files (fileArguments override name file) =
      readCommand files override name (operand file) := by
  have hne : fileArguments override name file ≠ [] := by
    cases override <;> exact List.cons_ne_nil _ _
  have hend : name.text ≠ "--" := by cases name <;> decide
  have hplain : isSwitch name.text = false := by cases name <;> decide
  have hname : Name.ofText? name.text = some name := by cases name <;> decide
  have hprogram : readProgram (fileArguments override name file) =
      .inr (override, name.text :: operand file) := readProgram_override hend hplain override _
  simp only [readArguments, hne, if_false, hprogram, hname]

theorem readCommand_operand {name : Name} {request : Request} (hread : files.read file = .ok bytes)
    (hrequest : requestOf files name ⟨[], [file]⟩ = .ok (request, [])) (override : Option Level) :
    readCommand files override name (operand file) = .request override request := by
  have hasked : Parsed.asked ⟨[], [file]⟩ = none := rfl
  simp only [readCommand, parseArguments_operand, hasked, Option.isSome_none, Bool.false_eq_true,
    if_false, unaskable_of_read hread, hrequest]

theorem readArguments_tokens (hread : files.read file = .ok bytes) (override : Option Level) :
    readArguments files (fileArguments override .tokens file) =
      .request override (.tokens file) := by
  have hrequest : requestOf files .tokens ⟨[], [file]⟩ = .ok (.tokens file, []) := by
    simp only [requestOf, takeFile_of_read hread, Except.map]
  rw [readArguments_fileArguments, readCommand_operand hread hrequest]

theorem readArguments_check (hread : files.read file = .ok bytes) (override : Option Level) :
    readArguments files (fileArguments override .check file) =
      .request override (.check file) := by
  have hrequest : requestOf files .check ⟨[], [file]⟩ = .ok (.check file, []) := by
    simp only [requestOf, takeFile_of_read hread, Except.map]
  rw [readArguments_fileArguments, readCommand_operand hread hrequest]

end

/-! ## What the commands answer -/

namespace Run
variable {r : Run} {file : String} {bytes : List UInt8} {text : List Char}

theorem readSource_of_read (hread : r.files.read file = .ok bytes) : r.readSource file =
    match Utf8.decode bytes with
    | .error fault => .error (.encoding fault)
    | .ok text => .ok (unifyLineEnds text) := by
  cases hdecode : Utf8.decode bytes with
  | error fault => simp only [readSource, hread, hdecode]
  | ok text => simp only [readSource, hread, hdecode]

/-- Neither command gets over bytes that are not UTF-8. -/
theorem tokens_check_of_encoding {fault : Utf8.Fault}
    (hsource : r.readSource file = .error (.encoding fault)) :
    let failed : Outcome :=
      { exit := 1, out := shownOn r.columns ("Error: " ++ fault.message ++ "\n"), files := r.files }
    r.tokens file = failed ∧ r.check file = failed := by
  simp only [tokens, check, hsource, SourceFault.message, fail_utf8]
  exact ⟨rfl, rfl⟩

/-- The table has one row for each token but the end token, under any setting of the scan. -/
theorem tokens_of_source (hsource : r.readSource file = .ok text) (s : Scanner) :
    (r.tokens file).exit = 0 ∧ (r.tokens file).err = "" ∧ (r.tokens file).out = (tokenTable
      ((s.tokenize (String.ofList text)).1.filter fun t => t.kind ≠ .eof)).text r.columns := by
  have hrows := (Scanner.drain_unobserved (r.scanner file) s (.ofText (String.ofList text))).1
  rw [s.filter_tokenize, ← hrows]
  simp only [tokens, hsource, and_self]

/-- The printed report of a diagnostic with the usual hint. -/
def reportText (d : Diagnostic) : String :=
  plainLine ("  " ++ d.display) ++ ("    " ++ removalHint ++ "\n")

/-- Diagnostics with the usual hint can always be printed. -/
theorem report_eq {found : List Diagnostic} (h : ∀ d ∈ found, d.suggestion = some removalHint) :
    report found = .ok (heading found.length ++ String.join (found.map reportText)) := by
  have hlines : found.mapM reportLines = .ok (found.map reportText) := by
    rw [Diagnostic.mapM_eq_ok_iff, List.forall₂_map_right_iff, List.forall₂_same]
    intro d hd
    rw [reportLines, h d hd, Option.getD_some, styledLine_hint]
    rfl
  rw [report, styledLine_heading, hlines]
  rfl

/-- What is reported of the diagnostics of a file, if there are any. -/
def reportOn (found : List Diagnostic) : String :=
  if found = [] then "✅ No illegal characters\n"
  else heading found.length ++ String.join (found.map reportText)

/-- The reports are those on the illegal tokens, and the status says whether there are any. -/
theorem check_of_source (hsource : r.readSource file = .ok text) {found : List Diagnostic}
    (hcollect : Diagnostic.collect file
      ((r.scanner file).tokenize (String.ofList text)).1 = .ok found) :
    (r.check file).exit = (if found = [] then 0 else 1) ∧ (r.check file).err = "" ∧
      (r.check file).out = shownOn r.columns (reportOn found) := by
  have hreport := report_eq (Diagnostic.suggestion_of_mem_collect hcollect)
  cases found with
  | nil =>
    simp only [check, hsource, hcollect, finish, styledLine_nothing, reportOn, if_true,
      String.append_empty]
    exact ⟨trivial, trivial, rfl⟩
  | cons d more =>
    simp only [check, hsource, hcollect, hreport, reportOn, reduceCtorEq, if_false]
    exact ⟨trivial, trivial, rfl⟩

end Run

section
variable {e : Environment} {files : FileTree} {path : Path} {file : String} {bytes : List UInt8}
  {text : List Char}

/-- A whole run shows the tokens of the text of a file. -/
theorem run_tokens_of_decode (hpath : Path.forSettings e.settingsFile e.home = .ok path)
    (hread : files.read file = .ok bytes) (hdecode : Utf8.decode bytes = .ok text)
    (override : Option Level) (input : Input) (s : Scanner) :
    let shown := run e files (fileArguments override .tokens file) input
    shown.exit = 0 ∧ shown.err = "" ∧ shown.out = (Run.tokenTable
      ((s.tokenize (String.ofList (unifyLineEnds text))).1.filter fun t => t.kind ≠ .eof)).text
        e.columns := by
  intro shown
  have hshown : shown = _ := run_of_request hpath (readArguments_tokens hread override) input
  have hsource := Run.readSource_of_read (r := e.started path files override) hread
  rw [hdecode] at hsource
  rw [hshown]
  exact Run.tokens_of_source hsource s

/-- A whole run reports the diagnostics of the text of a file. -/
theorem run_check_of_decode (hpath : Path.forSettings e.settingsFile e.home = .ok path)
    (hread : files.read file = .ok bytes) (hdecode : Utf8.decode bytes = .ok text)
    {found : List Diagnostic} (hcollect : ∀ s : Scanner,
      Diagnostic.collect file (s.tokenize (String.ofList (unifyLineEnds text))).1 = .ok found)
    (override : Option Level) (input : Input) :
    let checked := run e files (fileArguments override .check file) input
    checked.exit = (if found = [] then 0 else 1) ∧ checked.err = "" ∧
      checked.out = shownOn e.columns (Run.reportOn found) := by
  intro checked
  have hchecked : checked = _ := run_of_request hpath (readArguments_check hread override) input
  have hsource := Run.readSource_of_read (r := e.started path files override) hread
  rw [hdecode] at hsource
  rw [hchecked]
  exact Run.check_of_source hsource (hcollect _)

/-- Bytes that are not UTF-8 end both commands alike, whatever is overridden. -/
theorem run_tokens_check_of_fault (hpath : Path.forSettings e.settingsFile e.home = .ok path)
    (hread : files.read file = .ok bytes) {fault : Utf8.Fault}
    (hdecode : Utf8.decode bytes = .error fault) (override override' : Option Level)
    (input input' : Input) :
    let shown := run e files (fileArguments override .tokens file) input
    let checked := run e files (fileArguments override' .check file) input'
    shown = checked ∧ shown.exit = 1 ∧ shown.err = "" ∧
      shown.out = shownOn e.columns ("Error: " ++ fault.message ++ "\n") := by
  intro shown checked
  have hshown : shown = _ := run_of_request hpath (readArguments_tokens hread override) input
  have hchecked : checked = _ := run_of_request hpath (readArguments_check hread override') input'
  have hsource : ∀ override, (e.started path files override).readSource file =
      .error (.encoding fault) := by
    intro override
    rw [Run.readSource_of_read (r := e.started path files override) hread, hdecode]
  have htokens := (Run.tokens_check_of_encoding (hsource override)).1
  have hcheck := (Run.tokens_check_of_encoding (hsource override')).2
  simp only [Run.perform] at hshown hchecked
  rw [htokens] at hshown
  rw [hcheck] at hchecked
  exact ⟨hshown.trans hchecked.symm, by rw [hshown], by rw [hshown], by rw [hshown]; rfl⟩

end

/-! ## Single lines -/

/-- A decoding fault is told in one line. -/
theorem shownOn_fault {columns : Nat} {fault : Utf8.Fault}
    (hfits : LineFits columns ("Error: " ++ fault.message).toList) :
    shownOn columns ("Error: " ++ fault.message ++ "\n") = "Error: " ++ fault.message ++ "\n" := by
  have hmessage := (Console.verbatim_message fault).isInert_of_mem
  refine Console.shownOn_line ?_ hfits
  rw [String.toList_append, List.mem_append, not_or]
  refine ⟨by decide, fun hmem => ?_⟩
  exact absurd (hmessage '\n' (List.mem_cons_of_mem _ hmem)) (by decide)

theorem shownOn_nothing {columns : Nat} (h : 24 ≤ columns) :
    shownOn columns "✅ No illegal characters\n" = "✅ No illegal characters\n" := by
  have hlength : "✅ No illegal characters".toList.length ≤ 24 := by decide
  have hwidth : Console.width "✅ No illegal characters".toList ≤ 24 := by decide +kernel
  have hnew : '\n' ∉ "✅ No illegal characters".toList := by decide
  have hline : "✅ No illegal characters\n" = "✅ No illegal characters" ++ "\n" := rfl
  rw [hline]
  exact Console.shownOn_line hnew ⟨hlength.trans h, hwidth.trans h⟩

/-! ## Agreement -/

/-- Illegal tokens are among those that are shown. -/
theorem filter_illegal_shown (tokens : List Token) :
    (tokens.filter fun t => t.kind ≠ .eof).filter (fun t => t.kind = .illegal) =
      tokens.filter fun t => t.kind = .illegal := by
  rw [List.filter_filter]
  refine List.filter_congr fun t _ => ?_
  have hne : Kind.illegal ≠ Kind.eof := by decide
  by_cases hkind : t.kind = .illegal
  · simp [hkind, hne]
  · simp [hkind]

/-- A text has the same tokens and the same diagnostics under any setting of the scan, and the
diagnostics stand where the illegal tokens do. -/
theorem exists_rows_found (file text : String) :
    ∃ (rows : List Token) (found : List Diagnostic),
      (∀ s : Scanner, ((s.tokenize text).1.filter fun t => t.kind ≠ .eof) = rows) ∧
      (∀ s : Scanner, Diagnostic.collect file (s.tokenize text).1 = .ok found) ∧
      List.Forall₂ (fun t d => d.line = t.line ∧ d.column = t.column)
        (rows.filter fun t => t.kind = .illegal) found := by
  obtain ⟨found, hcollect, -⟩ := Diagnostic.exists_collect_tokenize {} file text
  have hany : ∀ s : Scanner, (s.tokenize text).1 = (({} : Scanner).tokenize text).1 :=
    fun s => s.tokenize_unobserved {} text
  refine ⟨_, found, fun s => congrArg _ (hany s), fun s => (hany s).symm ▸ hcollect, ?_⟩
  rw [filter_illegal_shown]
  exact (Diagnostic.collect_eq_ok_iff.mp hcollect).imp fun t d htoken =>
    (Diagnostic.place_of_ofToken htoken).2

section
variable {e : Environment} {files : FileTree} {path : Path} {file : String} {bytes : List UInt8}

/-- The lines that report a diagnostic of a file: its place with its message, and a hint. -/
def reportedLine (file : String) (d : Diagnostic) : List String :=
  ["  " ++ file ++ ":" ++ toString d.line ++ ":" ++ toString d.column ++ ": " ++ d.message,
    "    Remove or replace this character with valid Monkey syntax."]

/-- The lines that report the diagnostics of a file, below their number. -/
def reportedLines (file : String) (found : List Diagnostic) : List String :=
  ("❌ " ++ toString found.length ++ " illegal character(s) found:") ::
    found.flatMap (reportedLine file)

/-- What two runs that inspect one text answer. The one shows a row for each token. The diagnostics
of the other are as many as the illegal rows and stand at the same places, and there are none exactly
if its status is zero. On a console with room, a table shows its rows whole. A report is verbatim
there unless an emoji takes the place of a line or something in the name of the file. -/
structure Agree (columns : Nat) (file : String) (shown checked : Outcome) (rows : List Token)
    (found : List Diagnostic) : Prop where
  shown_exit : shown.exit = 0
  shown_err : shown.err = ""
  shown_out : shown.out = Console.Table.text
    ⟨"Tokens", ["Type", "Literal", "Line", "Column"], rows.map Token.shownRow⟩ columns
  shown_rows : RoomFor columns (["Type", "Literal", "Line", "Column"] :: rows.map Token.shownRow) →
    ShowsTable "Tokens" ["Type", "Literal", "Line", "Column"] (rows.map Token.shownRow) shown.out
  places : List.Forall₂ (fun t d => d.line = t.line ∧ d.column = t.column)
    (rows.filter fun t => t.kind = .illegal) found
  count : found.length = (rows.filter fun t => t.kind = .illegal).length
  checked_exit : checked.exit = 1 ↔ ∃ t ∈ rows, t.kind = .illegal
  checked_err : checked.err = ""
  checked_out : (∃ t ∈ rows, t.kind = .illegal) →
    checked.out = shownOn columns (String.join ((reportedLines file found).map Run.plainLine))
  checked_lines : (∃ t ∈ rows, t.kind = .illegal) → (∀ c ∈ file.toList, 0x20 ≤ c.toNat ∧ c ≠ ':') →
    (∀ d ∈ found, d.line ≠ 100 ∧ d.line ≠ 1234) →
    (∀ line ∈ reportedLines file found, LineFits columns line.toList) →
    checked.out = String.join ((reportedLines file found).map (· ++ "\n"))
  checked_nothing : (¬ ∃ t ∈ rows, t.kind = .illegal) → checked.exit = 0 ∧
    checked.out = shownOn columns "✅ No illegal characters\n" ∧
    (24 ≤ columns → checked.out = "✅ No illegal characters\n")

section
variable {found : List Diagnostic}

theorem plainLine_heading (n : Nat) : Run.plainLine
    ("❌ " ++ toString n ++ " illegal character(s) found:") = Run.heading n := by
  rw [Run.plainLine_of_verbatim (Run.verbatim_heading n), Run.heading, String.append_assoc]
  rfl

theorem plainLine_removalHint :
    Run.plainLine "    Remove or replace this character with valid Monkey syntax." =
      "    " ++ removalHint ++ "\n" :=
  (Run.plainLine_of_verbatim ⟨by decide, by decide⟩).trans (by decide)

theorem reportedLine_eq {d : Diagnostic} (hfile : d.file = file) : reportedLine file d =
    ["  " ++ d.display, "    Remove or replace this character with valid Monkey syntax."] := by
  simp only [reportedLine, Diagnostic.display, Scanner.place, hfile, String.append_assoc]

theorem join_map_reportedLine {d : Diagnostic} (hfile : d.file = file) :
    String.join ((reportedLine file d).map Run.plainLine) = Run.reportText d := by
  rw [reportedLine_eq hfile, List.map_cons, List.map_singleton, String.join_cons,
    String.join_cons, String.join_nil, String.append_empty, plainLine_removalHint, Run.reportText]

/-- The report is what is printed of these lines. -/
theorem join_map_reportedLines (hfile : ∀ d ∈ found, d.file = file) :
    String.join ((reportedLines file found).map Run.plainLine) =
      Run.heading found.length ++ String.join (found.map Run.reportText) := by
  have hreports : String.join ((found.flatMap (reportedLine file)).map Run.plainLine) =
      String.join (found.map Run.reportText) := by
    rw [List.map_flatMap]
    induction found with
    | nil => rfl
    | cons d more ih =>
      obtain ⟨hd, hmore⟩ := List.forall_mem_cons.mp hfile
      rw [List.flatMap_cons, String.join_append, join_map_reportedLine hd, ih hmore, List.map_cons,
        String.join_cons]
  rw [reportedLines, List.map_cons, String.join_cons, plainLine_heading, hreports]

/-- Where no emoji is printed, the lines are printed as they stand. -/
theorem plainLine_of_mem_reportedLines (hfile : ∀ c ∈ file.toList, 0x20 ≤ c.toNat ∧ c ≠ ':')
    (hfound : ∀ d ∈ found, ∃ before c, d = .ofCharacter file before c)
    (hlines : ∀ d ∈ found, d.line ≠ 100 ∧ d.line ≠ 1234) :
    ∀ line ∈ reportedLines file found, '\n' ∉ line.toList ∧ Run.plainLine line = line ++ "\n" := by
  have hverbatim : ∀ {line : String}, Console.Verbatim line.toList →
      '\n' ∉ line.toList ∧ Run.plainLine line = line ++ "\n" := fun h =>
    ⟨Run.newline_not_mem_of_verbatim h, Run.plainLine_of_verbatim h⟩
  rw [reportedLines, List.forall_mem_cons]
  refine ⟨hverbatim (Run.verbatim_heading _), fun line hline => ?_⟩
  obtain ⟨d, hd, hline⟩ := List.mem_flatMap.mp hline
  have hprinted := Diagnostic.printed_eq_display_iff.mpr (hlines d hd)
  obtain ⟨before, c, rfl⟩ := hfound d hd
  have hplace : (Diagnostic.ofCharacter file before c).file = file := rfl
  rw [reportedLine_eq hplace, List.mem_cons, List.mem_singleton] at hline
  rcases hline with rfl | rfl
  · have hle := Diagnostic.le_of_mem_display (fun c hc => (hfile c hc).1) before c
    refine ⟨?_, hprinted ▸ Diagnostic.plainLine_display hfile before c⟩
    rw [String.toList_append, List.mem_append, not_or]
    exact ⟨by decide, fun hmem => absurd (hle _ hmem) (by decide)⟩
  · exact hverbatim ⟨by decide, by decide⟩

end

/-- **The two commands agree on every file,** whatever its bytes are and whatever is overridden.
Bytes that are not UTF-8 end both runs with the same error and nothing else. Otherwise the one shows
a row for each token of the text but the end token, and the other reports the illegal rows. -/
theorem tokens_check_agree (hpath : Path.forSettings e.settingsFile e.home = .ok path)
    (hread : files.read file = .ok bytes) (override override' : Option Level)
    (input input' : Input) :
    let shown := run e files (fileArguments override .tokens file) input
    let checked := run e files (fileArguments override' .check file) input'
    (∀ fault, Utf8.decode bytes = .error fault →
      let line := "Error: " ++ fault.message
      shown = checked ∧ shown.exit = 1 ∧ shown.err = "" ∧
      shown.out = shownOn e.columns (line ++ "\n") ∧
      (LineFits e.columns line.toList → shown.out = line ++ "\n")) ∧
    ∀ text, Utf8.decode bytes = .ok text → ∃ (rows : List Token) (found : List Diagnostic),
      (∀ s : Scanner, ((s.tokenize (String.ofList (unifyLineEnds text))).1.filter
        fun t => t.kind ≠ .eof) = rows) ∧
      (∀ s : Scanner, Diagnostic.collect file
        (s.tokenize (String.ofList (unifyLineEnds text))).1 = .ok found) ∧
      Agree e.columns file shown checked rows found := by
  intro shown checked
  constructor
  · intro fault hdecode line
    obtain ⟨hsame, hexit, herr, hout⟩ :=
      run_tokens_check_of_fault hpath hread hdecode override override' input input'
    exact ⟨hsame, hexit, herr, hout, fun hfits => hout.trans (shownOn_fault hfits)⟩
  · intro text hdecode
    obtain ⟨rows, found, hrows, hcollect, hplaces⟩ :=
      exists_rows_found file (String.ofList (unifyLineEnds text))
    have hfound : found = [] ↔ ¬ ∃ t ∈ rows, t.kind = .illegal := by
      rw [← List.length_eq_zero_iff, ← hplaces.length_eq, List.length_eq_zero_iff,
        List.filter_eq_nil_iff]
      simp
    obtain ⟨hexit, herr, hout⟩ := run_tokens_of_decode hpath hread hdecode override input {}
    obtain ⟨hexit', herr', hout'⟩ := run_check_of_decode hpath hread hdecode hcollect override' input'
    have hshown : shown.out = (Run.tokenTable rows).text e.columns := hrows {} ▸ hout
    have hregular : (Run.tokenTable rows).Regular := hrows {} ▸ Run.regular_tokenTable {} _
    have hcharacters := Diagnostic.exists_ofCharacter_of_mem (hcollect {})
    have hfile : ∀ d ∈ found, d.file = file := fun d hd => by
      obtain ⟨before, c, rfl⟩ := hcharacters d hd
      rfl
    have hreport : found ≠ [] → checked.out =
        shownOn e.columns (String.join ((reportedLines file found).map Run.plainLine)) := by
      intro hsome
      rw [hout', Run.reportOn, if_neg hsome, join_map_reportedLines hfile]
    refine ⟨rows, found, hrows, hcollect, hexit, herr, hshown,
      fun hroom => hshown ▸ hregular.showsTable hroom, hplaces, hplaces.length_eq.symm, ?_, herr',
      fun hsome => hreport fun hnone => hfound.mp hnone hsome, ?_, fun hnone => ?_⟩
    · rw [hexit']
      by_cases hnone : found = []
      · simpa [hnone] using hfound.mp hnone
      · simpa [hnone] using not_not.mp (mt hfound.mpr hnone)
    · intro hsome hprintable hlines hfits
      have hplain := plainLine_of_mem_reportedLines hprintable hcharacters hlines
      rw [hreport fun hnone => hfound.mp hnone hsome,
        List.map_congr_left fun line hline => (hplain line hline).2]
      exact Console.shownOn_lines fun line hline => ⟨(hplain line hline).1, hfits line hline⟩
    · have hquiet : checked.out = shownOn e.columns "✅ No illegal characters\n" := by
        rw [hout', Run.reportOn, if_pos (hfound.mpr hnone)]
      exact ⟨by rw [hexit', if_pos (hfound.mpr hnone)], hquiet,
        fun hcolumns => hquiet.trans (shownOn_nothing hcolumns)⟩

/-- A word and a foreign character with a lone carriage return between them stand on two lines. -/
theorem tokens_check_agree_two_lines :
    let e : Environment := { settingsFile := some "config.json", home := "/" }
    let files : FileTree := ⟨.dir [("f.mk", .file [0x61, 0x0d, 0x40])], []⟩
    ∃ found, Agree 1000 "f.mk" (run e files (fileArguments none .tokens "f.mk") {})
      (run e files (fileArguments (some .debug) .check "f.mk") {})
      [⟨.ident, "a", 1, 1⟩, ⟨.illegal, "@", 2, 1⟩] found := by
  intro e files
  have hpath : Path.forSettings (some "config.json") "/" = .ok ⟨.relative, ["config.json"]⟩ := rfl
  have hread : files.read "f.mk" = .ok [0x61, 0x0d, 0x40] :=
    FileTree.read_eq_ok.mpr ⟨["f.mk"], rfl, rfl⟩
  have hdecode : Utf8.decode [0x61, 0x0d, 0x40] = .ok ['a', '\r', '@'] := by decide
  obtain ⟨rows, found, hrows, -, hagree⟩ :=
    (tokens_check_agree (e := e) hpath hread none (some .debug) {} {}).2 _ hdecode
  have hlines : rows = [⟨.ident, "a", 1, 1⟩, ⟨.illegal, "@", 2, 1⟩] :=
    (hrows {}).symm.trans (by decide +kernel)
  exact ⟨found, hlines ▸ hagree⟩

end

end MonkeyScan.Command
