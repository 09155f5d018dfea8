import MonkeyScan.Proofs.Command.Updates
import MonkeyScan.Proofs.Console.Plain
import MonkeyScan.Proofs.File.SettingsPath

/-!
# What is said about a save

A run that updates the settings says that it saved them, with the path of their file, or what fault
kept it from that. Both lines put a text behind a tag that is taken for markup with it. So a run is
faithful exactly where that text is plain. Otherwise it still saves and still ends with the status
that says so, unless the text is no well-formed markup. A line that does not fit the console is
broken.
-/
namespace MonkeyScan

namespace Command
open Console (Fits Plain StyleTag Verbatim shownOn tagged)

/-! ## Lines with a text behind a tag -/

/-- Behind the tag and a blank a text is printed as it stands exactly if it is plain. -/
theorem Run.styledLine_eq_ok_iff {message text words name : String} {tag : List Char}
    (h : StyleTag tag name) (hwords : Verbatim words.toList)
    (hmessage : message.toList = tagged tag words.toList ++ ' ' :: text.toList) :
    styledLine message = .ok (words ++ " " ++ text ++ "\n") ↔ Plain text.toList := by
  have hline : (words ++ " " ++ text ++ "\n").toList =
      words.toList ++ (' ' :: text.toList ++ ['\n']) := by
    simp only [String.toList_append, List.append_assoc]
    rfl
  rw [← Plain.cons_iff (c := ' ') (by decide), ← Console.printedLine_tagged_iff h hwords,
    styledLine, hmessage]
  cases Console.ofMarkup (tagged tag words.toList ++ ' ' :: text.toList) with
  | error fault => simp only [Except.map, reduceCtorEq]
  | ok shown =>
    simp only [Except.map, Except.ok.injEq]
    rw [← hline, ← String.toList_inj, String.toList_ofList]

/-- What a run says when a save fails. -/
def errorLine (fault : SystemFault) : Except Console.MarkupFault String :=
  Run.styledLine ("[bold red]Error:[/bold red] " ++ fault.message)

theorem savedLine_eq_ok_iff (path : Path) :
    savedLine path = .ok ("✅ Saved " ++ path.text ++ "\n") ↔ Plain path.text.toList :=
  Run.styledLine_eq_ok_iff Run.boldGreen ⟨by decide, by decide⟩ (Run.toList_savedMessage path.text)

theorem errorLine_eq_ok_iff (fault : SystemFault) :
    errorLine fault = .ok ("Error: " ++ fault.message ++ "\n") ↔ Plain fault.message.toList :=
  Run.styledLine_eq_ok_iff Run.boldRed ⟨by decide, by decide⟩
    (Run.toList_errorMessage fault.message)

/-- A styled line ends where it ends. -/
theorem Run.lastLine_of_styledLine {message text : String} (h : styledLine message = .ok text) :
    lastLine text.toList = [] := by
  rw [styledLine] at h
  cases hmarkup : Console.ofMarkup message.toList with
  | error fault =>
    rw [hmarkup] at h
    cases h
  | ok plain =>
    rw [hmarkup] at h
    cases h
    rw [String.toList_ofList, Console.printedLine]
    exact (textLines_append_newline _).2

/-- The outcome has the status and shows the line with the rest, unless the line is no well-formed
markup. -/
structure Outcome.Reports (outcome : Outcome) (columns exit : Nat)
    (line : Except Console.MarkupFault String) (rest : String) : Prop where
  shown : ∀ text, line = .ok text →
    outcome.exit = exit ∧ outcome.out = shownOn columns text ++ rest
  broken : ∀ fault, line = .error fault →
    outcome.exit = 1 ∧ outcome.out = "" ∧ outcome.fault = some (.markup fault)

theorem Run.finish_reports (r : Run) (exit : Nat) (message rest : String) :
    (r.finish exit message rest).Reports r.columns exit (styledLine message) rest := by
  unfold finish
  split
  · rename_i line hline
    rw [hline]
    exact ⟨fun text htext => ⟨rfl, by rw [← Except.ok.inj htext]; rfl⟩,
      fun fault hfault => (nomatch hfault)⟩
  · rename_i why hwhy
    rw [hwhy]
    exact ⟨fun text htext => (nomatch htext),
      fun fault hfault => ⟨rfl, rfl, by rw [Except.error.inj hfault]; rfl⟩⟩

namespace Outcome.Reports
variable {outcome : Outcome} {columns exit : Nat} {line : Except Console.MarkupFault String}
  {rest said : String}

/-- Where lines fit, something is said if and only if the line is just that. -/
theorem iff (h : outcome.Reports columns exit line rest)
    (hfits : ∀ text, line = .ok text → shownOn columns text = text) (hsaid : said ≠ "") :
    outcome.exit = exit ∧ outcome.out = said ++ rest ↔ line = .ok said := by
  constructor
  · rintro ⟨-, hout⟩
    cases hline : line with
    | ok text =>
      rw [(h.shown text hline).2, hfits text hline, String.append_left_inj] at hout
      rw [hout]
    | error fault =>
      rw [(h.broken fault hline).2.1, eq_comm, String.append_eq_empty_iff] at hout
      exact absurd hout.1 hsaid
  · intro hline
    obtain ⟨hexit, hout⟩ := h.shown said hline
    rw [hfits said hline] at hout
    exact ⟨hexit, hout⟩

/-- A failure is never taken for a success. -/
theorem exit_eq_one (h : outcome.Reports columns 1 line rest) : outcome.exit = 1 := by
  cases hline : line with
  | ok text => exact (h.shown text hline).1
  | error fault => exact (h.broken fault hline).1

end Outcome.Reports

/-! ## Runs that save -/

/-- An update whose save fails says what kept it. -/
theorem Run.config_of_fault (r : Run) {level : Option Level} {prompt : Option String}
    {fault : SystemFault} {after : FileTree} (hupdate : ¬ (level = none ∧ prompt = none))
    (hsave : StoredSettings.save ⟨r.stored.path, updated r.stored.settings level prompt⟩ r.files =
      (.error fault, after)) (hnull : fault.fault ≠ .nullCharacter) :
    r.config level prompt = ({ r with files := after } : Run).fail fault.message := by
  unfold updated at hsave
  simp only [config, if_neg hupdate, hsave, if_neg hnull]

section
variable {e : Environment} {files : FileTree} {path : Path} {arguments : List String}
  {override level : Option Level} {prompt : Option String}

/-- The settings that a run reads, with its override. -/
def settingsUnder (path : Path) (files : FileTree) (override : Option Level) : Settings :=
  updated (StoredSettings.create path {} files).1.settings override none

/-- A run that is asked to save something is the command on the settings that it reads. -/
theorem run_config (hpath : Path.forSettings e.settingsFile e.home = .ok path)
    (hrequest : readArguments files arguments = .request override (.config level prompt))
    (input : Input) : ∃ (r : Run) (log : List Record),
      r.stored = ⟨path, settingsUnder path files override⟩ ∧ r.files = files ∧
        r.columns = e.columns ∧ run e files arguments input = { r.config level prompt with log } := by
  have hstored : (e.started path files override).stored =
      ⟨path, settingsUnder path files override⟩ := by
    cases override <;> rfl
  exact ⟨_, _, hstored, rfl, rfl, run_of_request hpath hrequest input⟩

theorem saved_of_run (hpath : Path.forSettings e.settingsFile e.home = .ok path)
    (hrequest : readArguments files arguments = .request override (.config level prompt))
    (hupdate : ¬ (level = none ∧ prompt = none)) {saved : Settings} {after : FileTree}
    (hsaved : updated (settingsUnder path files override) level prompt = saved)
    (hsave : StoredSettings.save ⟨path, saved⟩ files = (.ok (), after)) (input : Input) :
    (run e files arguments input).files = after ∧
      (run e files arguments input).Reports e.columns 0 (savedLine path)
        ((Run.settingsTable saved).text e.columns) := by
  obtain ⟨r, log, hstored, hfiles, hcolumns, hrun⟩ := run_config hpath hrequest input
  subst hsaved
  have hdone : StoredSettings.save ⟨r.stored.path, updated r.stored.settings level prompt⟩ r.files =
      (.ok (), after) := by
    rw [hstored, hfiles]
    exact hsave
  have hconfig := r.config_of_save hupdate hdone
  rw [hstored] at hconfig
  have hreports := ({ r with files := after } : Run).finish_reports 0
    ("[bold green]✅ Saved[/bold green] " ++ path.text)
    ((Run.settingsTable (updated (settingsUnder path files override) level prompt)).text r.columns)
  rw [hrun, hconfig, ← hcolumns]
  exact ⟨Run.finish_files _ _ _ _, hreports.shown, hreports.broken⟩

theorem failed_of_run (hpath : Path.forSettings e.settingsFile e.home = .ok path)
    (hrequest : readArguments files arguments = .request override (.config level prompt))
    (hupdate : ¬ (level = none ∧ prompt = none)) {fault : SystemFault} {after : FileTree}
    (hsave : StoredSettings.save
      ⟨path, updated (settingsUnder path files override) level prompt⟩ files = (.error fault, after))
    (input : Input) : (run e files arguments input).files = after ∧
      (run e files arguments input).Reports e.columns 1 (errorLine fault) "" := by
  obtain ⟨r, log, hstored, hfiles, hcolumns, hrun⟩ := run_config hpath hrequest input
  have hnull : fault.fault ≠ .nullCharacter := fun hfault =>
    Path.noNull_of_forSettings hpath (FileTree.store_eq_nullCharacter hsave hfault)
  have hfailed : StoredSettings.save ⟨r.stored.path, updated r.stored.settings level prompt⟩ r.files =
      (.error fault, after) := by
    rw [hstored, hfiles]
    exact hsave
  have hconfig := r.config_of_fault hupdate hfailed hnull
  have hreports := ({ r with files := after } : Run).finish_reports 1
    ("[bold red]Error:[/bold red] " ++ fault.message) ""
  rw [hrun, hconfig, ← hcolumns]
  exact ⟨Run.finish_files _ _ _ _, hreports.shown, hreports.broken⟩

/-- What is said of a save that went through is its path exactly if that is plain. -/
theorem saved_faithful_iff {outcome : Outcome} {columns : Nat} {table : String}
    (h : outcome.Reports columns 0 (savedLine path) table)
    (hfits : ∀ text, savedLine path = .ok text → Fits columns text.toList) :
    outcome.exit = 0 ∧ outcome.out = "✅ Saved " ++ path.text ++ "\n" ++ table ↔
      Plain path.text.toList := by
  have hshown : ∀ text, savedLine path = .ok text → shownOn columns text = text := fun text hline =>
    Console.shownOn_of_fits (hfits text hline) (Run.lastLine_of_styledLine hline)
  rw [← savedLine_eq_ok_iff, h.iff hshown]
  simp [← String.toList_inj]

theorem failed_faithful_iff {outcome : Outcome} {columns : Nat} {fault : SystemFault}
    (h : outcome.Reports columns 1 (errorLine fault) "")
    (hfits : ∀ text, errorLine fault = .ok text → Fits columns text.toList) :
    outcome.out = "Error: " ++ fault.message ++ "\n" ↔ Plain fault.message.toList := by
  have hsaid : "Error: " ++ fault.message ++ "\n" ≠ "" := by simp [← String.toList_inj]
  have hshown : ∀ text, errorLine fault = .ok text → shownOn columns text = text := fun text hline =>
    Console.shownOn_of_fits (hfits text hline) (Run.lastLine_of_styledLine hline)
  have hiff := h.iff hshown hsaid
  rw [String.append_empty, and_iff_right h.exit_eq_one] at hiff
  rw [hiff, errorLine_eq_ok_iff]

/-- **What is said about a save.** A run with something to save saves the updated settings, with its
override. If that goes through, it ends with success and shows the path and the settings; if not, it
fails and shows the fault alone. The path, or the text of the fault, is said as it stands exactly if
it is plain, and so it is shown where the line fits the console. If it is no well-formed markup, the
run fails with no output, saved or not. -/
theorem saving_reported (hpath : Path.forSettings e.settingsFile e.home = .ok path)
    (hrequest : readArguments files arguments = .request override (.config level prompt))
    (hupdate : ¬ (level = none ∧ prompt = none)) (input : Input) :
    let saved := updated (settingsUnder path files override) level prompt
    let table := Console.Table.text ⟨"Settings", ["Key", "Value"], saved.shownRows⟩ e.columns
    let result := StoredSettings.save ⟨path, saved⟩ files
    let outcome := run e files arguments input
    outcome.files = result.2 ∧
    (result.1 = .ok () → outcome.Reports e.columns 0 (savedLine path) table ∧
      (savedLine path = .ok ("✅ Saved " ++ path.text ++ "\n") ↔ Plain path.text.toList) ∧
      ((∀ text, savedLine path = .ok text → Fits e.columns text.toList) →
        (outcome.exit = 0 ∧ outcome.out = "✅ Saved " ++ path.text ++ "\n" ++ table ↔
          Plain path.text.toList))) ∧
    ∀ fault, result.1 = .error fault →
      outcome.Reports e.columns 1 (errorLine fault) "" ∧ outcome.exit = 1 ∧
      (errorLine fault = .ok ("Error: " ++ fault.message ++ "\n") ↔ Plain fault.message.toList) ∧
      ((∀ text, errorLine fault = .ok text → Fits e.columns text.toList) →
        (outcome.out = "Error: " ++ fault.message ++ "\n" ↔ Plain fault.message.toList)) := by
  intro saved table result outcome
  obtain ⟨ended, after, hresult⟩ : ∃ ended after, result = (ended, after) := ⟨_, _, rfl⟩
  rw [hresult]
  cases ended with
  | ok done =>
    obtain ⟨hfiles, hreports⟩ := saved_of_run hpath hrequest hupdate rfl hresult input
    exact ⟨hfiles, fun _ => ⟨hreports, savedLine_eq_ok_iff path, saved_faithful_iff hreports⟩,
      fun fault hfault => (nomatch hfault)⟩
  | error fault =>
    obtain ⟨hfiles, hreports⟩ := failed_of_run hpath hrequest hupdate hresult input
    refine ⟨hfiles, fun hdone => (nomatch hdone), fun other hother => ?_⟩
    rw [← Except.error.inj hother]
    exact ⟨hreports, hreports.exit_eq_one, errorLine_eq_ok_iff fault, failed_faithful_iff hreports⟩

/-- A prompt is saved at a plain path, and where there is a directory the fault is told. -/
theorem saving_reported_plain :
    let e : Environment := { settingsFile := some "a:b.json", home := "/" }
    let arguments := configArguments none none (some "x")
    let outcome := run e {} arguments {}
    let refused := run e ⟨.dir [("a:b.json", .dir [])], []⟩ arguments {}
    (outcome.exit = 0 ∧ outcome.out =
      "✅ Saved " ++ "a:b.json" ++ "\n" ++ Console.Table.text
        ⟨"Settings", ["Key", "Value"], [["debug_level", "none"], ["prompt", "'x'"]]⟩ 1000) ∧
    refused.exit = 1 ∧ refused.out = "Error: " ++ "[Errno 21] Is a directory: 'a:b.json'" ++ "\n" := by
  intro e arguments outcome refused
  have hpath : Path.forSettings (some "a:b.json") "/" = .ok ⟨.relative, ["a:b.json"]⟩ := rfl
  have hupdate : ¬ ((none : Option Level) = none ∧ some "x" = none) := by simp
  obtain ⟨-, hsaved, -⟩ := saving_reported (e := e) hpath
    (readArguments_configArguments {} none none (some "x")) hupdate {}
  obtain ⟨-, -, hfailed⟩ := saving_reported (e := e) hpath
    (readArguments_configArguments ⟨.dir [("a:b.json", .dir [])], []⟩ none none (some "x")) hupdate {}
  obtain ⟨-, hline, hshown⟩ := hsaved (by decide +kernel)
  obtain ⟨-, hexit, hline', hshown'⟩ := hfailed ⟨.isDirectory, "a:b.json"⟩ (by decide +kernel)
  refine ⟨(hshown fun text htext => ?_).mpr (by decide +kernel), hexit,
    (hshown' fun text htext => ?_).mpr (by decide +kernel)⟩
  · rw [hline.mpr (by decide +kernel), Except.ok.injEq] at htext
    rw [← htext]
    decide +kernel
  · rw [hline'.mpr (by decide +kernel), Except.ok.injEq] at htext
    rw [← htext]
    decide +kernel

/-- A path with a part that is taken for a tag. -/
def taggedPath : Path := ⟨.relative, ["notes[b].json"]⟩

/-- So a save that goes through is not always reported with its path. -/
theorem saved_line_drops_tag :
    ¬ ∀ (e : Environment) (files after : FileTree) (path : Path) (prompt : String),
      Path.forSettings e.settingsFile e.home = .ok path →
      (∀ c ∈ path.text.toList, 0x20 ≤ c.toNat ∧ c.toNat < 0x7f) →
      (∀ text, savedLine path = .ok text → Fits e.columns text.toList) →
      StoredSettings.save ⟨path, updated (settingsUnder path files none) none (some prompt)⟩ files =
        (.ok (), after) →
      (run e files (configArguments none none (some prompt)) {}).exit = 0 ∧
        (run e files (configArguments none none (some prompt)) {}).out =
          "✅ Saved " ++ path.text ++ "\n" ++ (Run.settingsTable
            (updated (settingsUnder path files none) none (some prompt))).text e.columns := by
  intro hfaithful
  have hpath : Path.forSettings (some "notes[b].json") "/" = .ok taggedPath := rfl
  have hok : (({} : FileTree).store taggedPath (Utf8.encode
      (updated (settingsUnder taggedPath {} none) none (some "x")).written)).1.toBool := by
    decide +kernel
  have hascii : taggedPath.text.toList.all fun c => 0x20 ≤ c.toNat && c.toNat < 0x7f := by decide
  obtain ⟨after, hstore⟩ := exists_after_of_toBool hok
  obtain ⟨columns, hfits⟩ : ∃ columns, ∀ text, savedLine taggedPath = .ok text →
      Fits columns text.toList := by
    cases savedLine taggedPath with
    | error fault => exact ⟨0, fun text htext => (nomatch htext)⟩
    | ok line =>
      obtain ⟨columns, hline⟩ := Console.exists_fits line.toList
      exact ⟨columns, fun text htext => Except.ok.inj htext ▸ hline⟩
  let e : Environment := { columns, settingsFile := some "notes[b].json", home := "/" }
  have hsaid := hfaithful e {} after taggedPath "x" hpath (by simpa using hascii) hfits hstore
  obtain ⟨-, hreports⟩ := saved_of_run (e := e) hpath
    (readArguments_configArguments {} none none (some "x")) (by simp) rfl hstore {}
  exact absurd ((saved_faithful_iff hreports hfits).mp hsaid) (by decide +kernel)

end

end Command

end MonkeyScan
