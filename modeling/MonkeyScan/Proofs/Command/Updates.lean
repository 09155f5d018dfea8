import MonkeyScan.Proofs.Command.Messages
import MonkeyScan.Proofs.Command.Override
import MonkeyScan.Proofs.Command.Tables
import MonkeyScan.Proofs.File.Frame
import MonkeyScan.Proofs.Json.Bounds

/-!
# Updates accumulate

Each run that updates the settings reads them, changes what it is asked to and saves them all. Where
a save goes through, the settings that are read after a row of such runs are the last ones given,
and for what was never given the ones that were read at first, whatever the file held then. A run
shows what will be read after it. What it says about its success holds the path of the file, and
this ends the run if it is not well-formed styled text; the settings are saved by then. A file whose
JSON is within bounds at first is so after each run.
-/
namespace MonkeyScan.Command

open Console (ShowsTable shownOn)

/-- What a run is asked to change, if anything. -/
structure Update where
  level : Option Level := none
  prompt : Option String := none
  deriving DecidableEq, Repr

def Update.arguments (u : Update) : List String :=
  configArguments none u.level u.prompt

/-- The settings with the last level and the last prompt that updates give. -/
def accumulated (s : Settings) (updates : List Update) : Settings where
  level := (updates.reverse.findSome? Update.level).getD s.level
  prompt := (updates.reverse.findSome? Update.prompt).getD s.prompt

/-- The files that a row of runs leaves. -/
def filesAfter (e : Environment) (files : FileTree) (runs : List (Update × Input)) : FileTree :=
  runs.foldl (fun files asked => (run e files asked.1.arguments asked.2).files) files

/-- What a run says when it has saved the settings. -/
def savedLine (path : Path) : Except Console.MarkupFault String :=
  Run.styledLine ("[bold green]✅ Saved[/bold green] " ++ path.text)

theorem accumulated_cons (s : Settings) (u : Update) (more : List Update) :
    accumulated s (u :: more) = accumulated (updated s u.level u.prompt) more := by
  simp only [accumulated, updated, List.reverse_cons, List.findSome?_append,
    List.findSome?_singleton, Option.getD_or]

/-- The text of the file of a path, if there is one, nests no deeper than any interpreter reads and
holds no half of a surrogate pair. -/
def InBounds (path : Path) (files : FileTree) : Prop :=
  ∀ bytes text, files.read path.text = .ok bytes → Utf8.decode bytes = .ok text →
    Json.Bounded Json.deepestNesting false 0 (unifyLineEnds text)

/-- Files where a new client reads settings from a path, and a save to it goes through. -/
structure Ready (path : Path) (s : Settings) (files : FileTree) : Prop where
  read : ∀ logger, (StoredSettings.create path logger files).1 = ⟨path, s⟩
  inBounds : InBounds path files
  store : ∃ bytes after, files.store path bytes = (.ok (), after)

theorem inBounds_of_save {c : StoredSettings} {files after : FileTree}
    (hsave : c.save files = (.ok (), after)) :
    InBounds c.path after := by
  intro bytes text hread hdecode
  rw [(FileTree.store_spec hsave).1, Except.ok.injEq] at hread
  rw [← hread, Utf8.decode_encode, Except.ok.injEq] at hdecode
  rw [← hdecode, unifyLineEnds_of_not_mem c.settings.carriageReturn_not_mem_written,
    Settings.written_eq]
  exact Json.bounded_writtenObject (by decide) _

/-- An update whose save goes through says so and shows the updated settings. -/
theorem Run.config_of_save (r : Run) {level : Option Level} {prompt : Option String}
    {after : FileTree} (hupdate : ¬ (level = none ∧ prompt = none))
    (hsave : StoredSettings.save ⟨r.stored.path, updated r.stored.settings level prompt⟩ r.files =
      (.ok (), after)) :
    r.config level prompt = ({ r with files := after } : Run).finish 0
      ("[bold green]✅ Saved[/bold green] " ++ r.stored.path.text)
      ((settingsTable (updated r.stored.settings level prompt)).text r.columns) := by
  unfold updated at hsave
  simp only [config, if_neg hupdate, hsave, updated]

section
variable {e : Environment} {path : Path} {s : Settings} {files : FileTree}

/-- Whatever is saved there is read afterwards, and a save goes through again. -/
theorem Ready.exists_save (h : Ready path s files) (other : Settings) :
    ∃ after, StoredSettings.save ⟨path, other⟩ files = (.ok (), after) ∧ Ready path other after := by
  obtain ⟨bytes, written, hstore⟩ := h.store
  obtain ⟨after, hsave⟩ := FileTree.exists_store hstore (Utf8.encode other.written)
  have hheld : other.HeldIn path.text after :=
    StoredSettings.heldIn_of_save (c := ⟨path, other⟩) hsave
  have hinBounds : InBounds path after := inBounds_of_save (c := ⟨path, other⟩) hsave
  refine ⟨after, hsave, fun logger => ?_, hinBounds, ?_⟩
  · rw [StoredSettings.create_of_heldIn hheld]
  · obtain ⟨again, hagain⟩ := (FileTree.store_spec hsave).2
    exact ⟨_, again, hagain⟩

/-- The printed table of some settings has two rows, and shows them whole on a console with room. -/
structure ShowsSettings (columns : Nat) (s : Settings) (printed : String) : Prop where
  text_eq : printed = Console.Table.text ⟨"Settings", ["Key", "Value"], s.shownRows⟩ columns
  whole : s.FitsOn columns → ShowsTable "Settings" ["Key", "Value"] s.shownRows printed

theorem Run.showsSettings_settingsTable (columns : Nat) (s : Settings) :
    ShowsSettings columns s ((settingsTable s).text columns) :=
  ⟨rfl, showsTable_settings⟩

/-- What a run answers that is asked for an update, and the settings are `next` then. -/
structure Answers (e : Environment) (path : Path) (files : FileTree) (u : Update)
    (next : Settings) (outcome : Outcome) : Prop where
  ready : Ready path next outcome.files
  err : outcome.err = ""
  unchanged : u = {} → outcome.exit = 0 ∧ outcome.files = files ∧
    ShowsSettings e.columns next outcome.out
  saved : u ≠ {} → ∀ line, savedLine path = .ok line → outcome.exit = 0 ∧
    ∃ table, outcome.out = shownOn e.columns line ++ table ∧ ShowsSettings e.columns next table
  broken : u ≠ {} → ∀ fault, savedLine path = .error fault →
    outcome.exit = 1 ∧ outcome.out = "" ∧ outcome.fault = some (.markup fault)

/-- One run changes what it is asked to in the settings that are read where it starts. -/
theorem Ready.run (h : Ready path s files)
    (hpath : Path.forSettings e.settingsFile e.home = .ok path) (u : Update) (input : Input) :
    Answers e path files u (updated s u.level u.prompt) (run e files u.arguments input) := by
  have hrun := run_of_request hpath
    (readArguments_configArguments files none u.level u.prompt) input
  have hread := h.read {}
  let r : Run := ⟨e.program, e.columns, ⟨path, s⟩, s.configureLogging {}, files⟩
  have hstarted : e.started path files none = r := by
    simp only [Environment.started, Run.configure, hread, r]
  rw [hstarted] at hrun
  have houtcome : Command.run e files u.arguments input = { r.config u.level u.prompt with
    log := (StoredSettings.create path {} files).2 ++ (r.config u.level u.prompt).log } := hrun
  by_cases hnone : u = {}
  · -- Nothing is saved, and what was read is shown.
    obtain rfl := hnone
    have hconfig : r.config none none =
        { exit := 0, out := (Run.settingsTable s).text e.columns, files := files } := rfl
    rw [houtcome, hconfig]
    exact ⟨h, rfl, fun _ => ⟨rfl, rfl, Run.showsSettings_settingsTable _ _⟩,
      fun hne => absurd rfl hne, fun hne => absurd rfl hne⟩
  · -- The save goes through. Whether the line that says so can be printed decides the rest.
    obtain ⟨after, hsave, hready⟩ := h.exists_save (updated s u.level u.prompt)
    have hupdate : ¬ (u.level = none ∧ u.prompt = none) := by
      rintro ⟨hlevel, hprompt⟩
      exact hnone (by rw [← hlevel, ← hprompt])
    have hconfig : r.config u.level u.prompt = ({ r with files := after } : Run).finish 0
        ("[bold green]✅ Saved[/bold green] " ++ path.text)
        ((Run.settingsTable (updated s u.level u.prompt)).text e.columns) :=
      r.config_of_save hupdate hsave
    rw [houtcome, hconfig]
    refine ⟨?_, ?_, fun h => absurd h hnone, fun _ line hline => ?_, fun _ fault hfault => ?_⟩
    · rw [Run.finish_files]
      exact hready
    · rw [Run.finish]
      split <;> rfl
    · rw [savedLine] at hline
      simp only [Run.finish, hline]
      exact ⟨trivial, _, rfl, Run.showsSettings_settingsTable _ _⟩
    · rw [savedLine] at hfault
      simp only [Run.finish, hfault, Run.stop, and_self]

/-- A row of runs leaves the last ones given. -/
theorem Ready.filesAfter (h : Ready path s files)
    (hpath : Path.forSettings e.settingsFile e.home = .ok path) (runs : List (Update × Input)) :
    Ready path (accumulated s (runs.map Prod.fst)) (filesAfter e files runs) := by
  -- Each run starts from the settings and the files that the one before it has left.
  induction runs generalizing s files with
  | nil => exact h
  | cons first more ih =>
    rw [List.map_cons, accumulated_cons]
    exact ih (h.run hpath first.1 first.2).ready

theorem exists_after_of_toBool {result : Except SystemFault Unit × FileTree}
    (h : result.1.toBool) : ∃ after, result = (.ok (), after) := by
  obtain ⟨_ | ⟨⟩, after⟩ := result
  · cases h
  · exact ⟨after, rfl⟩

/-- **Updates accumulate.** Where a save to the settings file goes through, whatever the file holds
within bounds, a row of runs leaves there the last level and the last prompt given, and for what was
not given the one that was read at first. The next run answers by these, with its own update, and a
new client finds the same; the file stays within bounds. The run ends with success unless it has
saved and the path is not well-formed styled text; every path without a bracket is. -/
theorem updates_accumulate (hpath : Path.forSettings e.settingsFile e.home = .ok path)
    {bytes : List UInt8} {after : FileTree} (hstore : files.store path bytes = (.ok (), after))
    (hbounds : InBounds path files) (runs : List (Update × Input)) (u : Update) (input : Input) :
    let first := (StoredSettings.create path {} files).1.settings
    let now := accumulated first (runs.map Prod.fst)
    let there := filesAfter e files runs
    let outcome := run e there u.arguments input
    (∀ logger, (StoredSettings.create path logger there).1 = ⟨path, now⟩) ∧
    InBounds path there ∧
    Answers e path there u (updated now u.level u.prompt) outcome ∧
    (outcome.exit = 0 ↔ u = {} ∨ ∃ line, savedLine path = .ok line) ∧
    ('[' ∉ path.text.toList → outcome.exit = 0) := by
  intro first now there outcome
  have hready : Ready path first files := ⟨fun _ => rfl, hbounds, bytes, after, hstore⟩
  have hthere : Ready path now there := hready.filesAfter hpath runs
  have hanswers := hthere.run hpath u input
  have hexit : outcome.exit = 0 ↔ u = {} ∨ ∃ line, savedLine path = .ok line := by
    by_cases hnone : u = {}
    · exact ⟨fun _ => Or.inl hnone, fun _ => (hanswers.unchanged hnone).1⟩
    · cases hline : savedLine path with
      | ok line => simp [(hanswers.saved hnone line hline).1, outcome]
      | error fault => simp [hnone, (hanswers.broken hnone fault hline).1, outcome]
  exact ⟨hthere.read, hthere.inBounds, hanswers, hexit, fun hbracket =>
    hexit.mpr (Or.inr (Run.exists_styledLine_saved hbracket))⟩

/-- A level is saved where there was no file, and then an empty prompt. -/
theorem updates_accumulate_twice :
    let e : Environment := { settingsFile := some "config.json", home := "/" }
    let there := filesAfter e {} [(⟨some .debug, none⟩, {})]
    Answers e ⟨.relative, ["config.json"]⟩ there ⟨none, some ""⟩ ⟨.debug, ""⟩
      (run e there (Update.arguments ⟨none, some ""⟩) {}) ∧
    (run e there (Update.arguments ⟨none, some ""⟩) {}).exit = 0 := by
  intro e there
  have hpath : Path.forSettings (some "config.json") "/" = .ok ⟨.relative, ["config.json"]⟩ := rfl
  have hok : (({} : FileTree).store ⟨.relative, ["config.json"]⟩ []).1.toBool := by decide +kernel
  obtain ⟨after, hstore⟩ := exists_after_of_toBool hok
  have hbounds : InBounds ⟨.relative, ["config.json"]⟩ {} := by
    intro bytes text hread
    cases hread
  obtain ⟨-, -, hanswers, -, hexit⟩ := updates_accumulate (e := e) hpath hstore hbounds
    [(⟨some .debug, none⟩, {})] ⟨none, some ""⟩ {}
  exact ⟨hanswers, hexit (by decide)⟩

/-- A path that closes a style that was never opened. -/
def unmatchedPath : Path := ⟨.relative, ["notes[", "old].json"]⟩

/-- An update with this path fails, though its save goes through. -/
theorem unmatchedRun_exit :
    (run { settingsFile := some "notes[/old].json", home := "/" } {}
      (Update.arguments ⟨none, some "x"⟩) {}).exit = 1 := by
  decide +kernel

/-- So not every update ends with success where a save goes through. -/
theorem update_fails_after_save :
    ¬ ∀ (e : Environment) (files : FileTree) (path : Path) (bytes : List UInt8) (after : FileTree)
      (runs : List (Update × Input)) (u : Update) (input : Input),
      Path.forSettings e.settingsFile e.home = .ok path →
      files.store path bytes = (.ok (), after) →
      (run e (filesAfter e files runs) u.arguments input).exit = 0 := by
  intro hsucceeds
  have hok : (({} : FileTree).store unmatchedPath []).1.toBool := by decide +kernel
  obtain ⟨after, hstore⟩ := exists_after_of_toBool hok
  have hexit := hsucceeds { settingsFile := some "notes[/old].json", home := "/" } {} unmatchedPath
    [] after [] ⟨none, some "x"⟩ {} rfl hstore
  exact absurd (unmatchedRun_exit.symm.trans hexit) (by decide)

end

end MonkeyScan.Command
