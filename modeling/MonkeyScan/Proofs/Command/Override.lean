import MonkeyScan.Command.Run
import MonkeyScan.Proofs.Settings.RoundTrip

/-!
# What an override leaves in the settings file

An override of the level is put into the settings of its run, and a save writes all of these. So
it reaches the file exactly when the run saves a prompt and no level of its own: then the file ends
with the overriding level. A run that saves nothing, and one that saves a level, keep the override
to themselves.
-/
namespace MonkeyScan

namespace Command

/-! ## Reading the arguments -/

namespace Switch

/-- The arguments that give a switch its value, if there is one. -/
def withValue (s : Switch) : Option String → List String
  | none => []
  | some value => [s.name, value]

/-- The switch takes the argument behind its name for its value. -/
structure Takes (s : Switch) (switches : List Switch) : Prop where
  takesValue : s.takesValue = true
  listed : switches.find? (fun t => t.name = s.name) = some s
  notEnd : s.name ≠ "--"
  looks : isSwitch s.name = true
  whole : splitAttached s.name = (s.name, none)

variable {s : Switch} {switches : List Switch} {among : Bool}

/-- A value given to a switch in front is read with the rest, whatever it looks like. -/
theorem Takes.parseArguments (h : s.Takes switches) (value : Option String) (more : List String) :
    parseArguments switches among (s.withValue value ++ more) =
      (parseArguments switches among more).map fun p =>
        ⟨value.toList.map (s, ·) ++ p.given, p.rest⟩ := by
  cases value with
  | none =>
    cases hmore : Command.parseArguments switches among more <;> simp [withValue, hmore, Except.map]
  | some value =>
    simp only [withValue, List.cons_append, List.nil_append]
    rw [Command.parseArguments]
    simp only [h.notEnd, h.looks, h.whole, h.listed, h.takesValue, if_true, if_false]
    rfl

theorem overrideSwitch_takes : overrideSwitch.Takes Topic.program.switches :=
  ⟨by decide, by decide, by decide, by decide, by decide⟩

theorem setLevelSwitch_takes : setLevelSwitch.Takes (Topic.command .config).switches :=
  ⟨by decide, by decide, by decide, by decide, by decide⟩

theorem setPromptSwitch_takes : setPromptSwitch.Takes (Topic.command .config).switches :=
  ⟨by decide, by decide, by decide, by decide, by decide⟩

end Switch

/-- An option that was given the name of a level, or was not given, names that level, or none. -/
theorem Parsed.level?_eq_ok {p : Parsed} {s : Switch} {level : Option Level}
    (h : p.value? s = level.map Level.name) : p.level? s = .ok level := by
  cases level with
  | none => simp only [level?, h, Option.map_none]
  | some l => simp only [level?, h, Option.map_some, Level.ofName?_name l]

/-- The options of the program end at its command. -/
theorem readProgram_override {command : String} (hend : command ≠ "--")
    (hplain : isSwitch command = false) (override : Option Level) (more : List String) :
    readProgram (overrideSwitch.withValue (override.map Level.name) ++ command :: more) =
      .inr (override, command :: more) := by
  have hcommand : parseArguments Topic.program.switches false (command :: more) =
      .ok ⟨[], command :: more⟩ := by
    rw [parseArguments]
    simp only [hend, hplain, if_false, Bool.false_eq_true]
  have hasked : Parsed.asked ⟨(override.map Level.name).toList.map (overrideSwitch, ·),
      command :: more⟩ = none := by
    cases override <;> rfl
  have hlevel : Parsed.level? ⟨(override.map Level.name).toList.map (overrideSwitch, ·),
      command :: more⟩ overrideSwitch = .ok override := by
    apply Parsed.level?_eq_ok
    cases override <;> rfl
  simp only [readProgram, Switch.overrideSwitch_takes.parseArguments, hcommand, Except.map,
    List.append_nil, hasked, hlevel]

/-- The options that update the saved settings. -/
def updateArguments (level : Option Level) (prompt : Option String) : List String :=
  setLevelSwitch.withValue (level.map Level.name) ++ setPromptSwitch.withValue prompt

theorem readCommand_updateArguments (files : FileTree) (override level : Option Level)
    (prompt : Option String) : readCommand files override .config (updateArguments level prompt) =
      .request override (.config level prompt) := by
  let p : Parsed := ⟨(level.map Level.name).toList.map (setLevelSwitch, ·) ++
    prompt.toList.map (setPromptSwitch, ·), []⟩
  have hparse : parseArguments (Topic.command .config).switches true
      (updateArguments level prompt) = .ok p := by
    rw [updateArguments, ← List.append_nil (setPromptSwitch.withValue prompt),
      Switch.setLevelSwitch_takes.parseArguments, Switch.setPromptSwitch_takes.parseArguments,
      parseArguments]
    simp only [Except.map, List.append_nil, p]
  have hasked : p.asked = none := by
    cases level <;> cases prompt <;> rfl
  have hlevel : p.level? setLevelSwitch = .ok level := by
    apply Parsed.level?_eq_ok
    cases level <;> cases prompt <;> rfl
  have hprompt : p.value? setPromptSwitch = prompt := by
    cases level <;> cases prompt <;> rfl
  simp only [readCommand, hparse, hasked, Option.isSome_none, unaskable, Name.takesFile, requestOf,
    hlevel, hprompt, Except.map]
  rfl

/-- The arguments that show or update the saved settings, maybe with an override of the level. -/
def configArguments (override level : Option Level) (prompt : Option String) : List String :=
  overrideSwitch.withValue (override.map Level.name) ++
    Name.config.text :: updateArguments level prompt

/-- They are read as they are meant. -/
theorem readArguments_configArguments (files : FileTree) (override level : Option Level)
    (prompt : Option String) : readArguments files (configArguments override level prompt) =
      .request override (.config level prompt) := by
  have hne : configArguments override level prompt ≠ [] := by
    cases override <;> exact List.cons_ne_nil _ _
  have hprogram : readProgram (configArguments override level prompt) =
      .inr (override, Name.config.text :: updateArguments level prompt) :=
    readProgram_override (by decide) (by decide) override _
  have hname : Name.ofText? Name.config.text = some .config := by decide
  simp only [readArguments, hne, if_false, hprogram, hname, readCommand_updateArguments]

/-! ## What the run leaves -/

/-- The settings with those of the two that are given. -/
def updated (s : Settings) (level : Option Level) (prompt : Option String) : Settings :=
  ⟨level.getD s.level, prompt.getD s.prompt⟩

/-- The settings that a run leaves in the file that held `s`. -/
def leftBehind (s : Settings) (override level : Option Level) (prompt : Option String) : Settings :=
  if prompt = none then updated s level prompt
  else updated ⟨override.getD s.level, s.prompt⟩ level prompt

/-- The run leaves what was asked for, unless it saves a prompt under an override of another level
and no level of its own. -/
theorem leftBehind_eq_updated_iff (s : Settings) (override level : Option Level)
    (prompt : Option String) : leftBehind s override level prompt = updated s level prompt ↔
      prompt = none ∨ level ≠ none ∨ override.getD s.level = s.level := by
  cases prompt with
  | none => simp [leftBehind]
  | some p =>
    cases level with
    | none => simp [leftBehind, updated]
    | some l => simp [leftBehind, updated]

namespace Run
variable {r : Run} {level : Option Level} {prompt : Option String}

theorem finish_files (r : Run) (exit : Nat) (message after : String) :
    (r.finish exit message after).files = r.files := by
  unfold finish
  split <;> rfl

theorem fail_exit (r : Run) (message : String) : (r.fail message).exit = 1 := by
  unfold fail finish
  split <;> rfl

/-- An update that ends with success has saved the updated settings. -/
theorem save_of_config (hupdate : ¬ (level = none ∧ prompt = none))
    (h : (r.config level prompt).exit = 0) :
    StoredSettings.save { r.stored with settings := updated r.stored.settings level prompt }
      r.files = (.ok (), (r.config level prompt).files) := by
  unfold config at h ⊢
  simp only [if_neg hupdate] at h ⊢
  rcases hsave : StoredSettings.save
    { r.stored with settings := updated r.stored.settings level prompt } r.files with
    ⟨fault | done, files⟩
  · -- A failed save ends with another status, in each of the two ways it is reported.
    unfold updated at hsave
    by_cases hnull : fault.fault = .nullCharacter
    · simp [hsave, hnull, stop] at h
    · simp [hsave, hnull, fail_exit] at h
  · unfold updated at hsave
    simp only [hsave, finish_files]

end Run

section
variable {e : Environment} {files : FileTree} {path : Path} {s : Settings} {input : Input}

/-- A run that has started, with the settings that a new client reads, under an override. -/
def Environment.started (e : Environment) (path : Path) (files : FileTree)
    (override : Option Level) : Run :=
  (⟨e.program, e.columns, (StoredSettings.create path {} files).1, {}, files⟩ : Run).configure
    override

/-- A run that is asked for something does it where it has started. -/
theorem run_of_request (hpath : Path.forSettings e.settingsFile e.home = .ok path)
    {arguments : List String} {override : Option Level} {request : Request}
    (hrequest : readArguments files arguments = .request override request) (input : Input) :
    let outcome := (e.started path files override).perform input request
    run e files arguments input =
      { outcome with log := (StoredSettings.create path {} files).2 ++ outcome.log } := by
  simp only [run, Run.start, hpath, hrequest, Run.answer, bind, Except.bind, pure, Except.pure]
  rfl

/-- A run amid files that hold settings is the command on these, under the override. -/
theorem run_configArguments (hpath : Path.forSettings e.settingsFile e.home = .ok path)
    (hheld : s.HeldIn path.text files) (override level : Option Level) (prompt : Option String)
    (input : Input) : ∃ r : Run,
    r.stored = ⟨path, override.getD s.level, s.prompt⟩ ∧ r.files = files ∧
      run e files (configArguments override level prompt) input = r.config level prompt := by
  have hcreate : StoredSettings.create path {} files = (⟨path, s⟩, []) :=
    StoredSettings.create_of_heldIn hheld {}
  have hrun := run_of_request hpath
    (readArguments_configArguments files override level prompt) input
  refine ⟨e.started path files override, ?_, rfl, ?_⟩
  · cases override <;> simp [Environment.started, Run.configure, hcreate]
  · simpa [Run.perform, hcreate] using hrun

/-- A run that ends with success leaves its settings in the file. -/
theorem heldIn_of_run (hpath : Path.forSettings e.settingsFile e.home = .ok path)
    (hheld : s.HeldIn path.text files) (override level : Option Level) (prompt : Option String)
    (hexit : (run e files (configArguments override level prompt) input).exit = 0) :
    (leftBehind s override level prompt).HeldIn path.text
      (run e files (configArguments override level prompt) input).files := by
  obtain ⟨r, hstored, hfiles, hrun⟩ :=
    run_configArguments hpath hheld override level prompt input
  rw [hrun] at hexit ⊢
  by_cases hnone : level = none ∧ prompt = none
  · -- Nothing is saved, and the file still holds what it held.
    obtain ⟨rfl, rfl⟩ := hnone
    have hkept : (r.config none none).files = files := hfiles
    rw [hkept]
    exact hheld
  · have hsave := Run.save_of_config hnone hexit
    rw [hstored, hfiles] at hsave
    have hleft : updated ⟨override.getD s.level, s.prompt⟩ level prompt =
        leftBehind s override level prompt := by
      cases prompt with
      | some p => simp [leftBehind]
      | none =>
        cases level with
        | some l => simp [leftBehind, updated]
        | none => exact absurd ⟨rfl, rfl⟩ hnone
    rw [hleft] at hsave
    have hafter := StoredSettings.heldIn_of_save hsave
    exact hafter

/-- **What a run leaves in the settings file.** Amid files that hold settings, whatever is
overridden and updated, a run that ends with success leaves the settings `leftBehind`: every new
client finds them and logs nothing. They are what was asked for unless a prompt is saved under an
override of another level and without a level of its own. -/
theorem run_config_leaves (hpath : Path.forSettings e.settingsFile e.home = .ok path)
    (hheld : s.HeldIn path.text files) (override level : Option Level) (prompt : Option String)
    (hexit : (run e files (configArguments override level prompt) input).exit = 0) :
    (∀ logger, StoredSettings.create path logger
      (run e files (configArguments override level prompt) input).files =
        (⟨path, leftBehind s override level prompt⟩, [])) ∧
    (leftBehind s override level prompt = updated s level prompt ↔
      prompt = none ∨ level ≠ none ∨ override.getD s.level = s.level) := by
  have hafter := heldIn_of_run hpath hheld override level prompt hexit
  exact ⟨StoredSettings.create_of_heldIn hafter, leftBehind_eq_updated_iff s override level prompt⟩

end

/-- Files with the default settings in a file of the current directory. -/
def defaultFiles : FileTree :=
  ⟨.dir [("config.json", .file (Utf8.encode ({} : Settings).written))], []⟩

theorem heldIn_defaultFiles :
    ({} : Settings).HeldIn (Path.text ⟨.relative, ["config.json"]⟩) defaultFiles := by
  have htext : Path.text ⟨.relative, ["config.json"]⟩ = "config.json" := by decide
  have hlocate : defaultFiles.locate "config.json" = .ok ["config.json"] := rfl
  have hread : defaultFiles.read "config.json" = .ok (Utf8.encode ({} : Settings).written) :=
    FileTree.read_eq_ok.mpr ⟨["config.json"], hlocate, rfl⟩
  rw [htext]
  exact Settings.heldIn_of_read hread

/-- A run amid these files that saves the prompt `"x"` under the override `"debug"`. -/
def overriddenRun : Outcome :=
  run { settingsFile := some "config.json", home := "/" } defaultFiles
    (configArguments (some .debug) none (some "x")) {}

theorem overriddenRun_exit : overriddenRun.exit = 0 := by decide +kernel

/-- It ends with success and leaves the overriding level in the file. -/
theorem run_config_leaves_override : overriddenRun.exit = 0 ∧
    StoredSettings.create ⟨.relative, ["config.json"]⟩ {} overriddenRun.files =
      (⟨⟨.relative, ["config.json"]⟩, ⟨.debug, "x"⟩⟩, []) :=
  ⟨overriddenRun_exit, (run_config_leaves rfl heldIn_defaultFiles (some .debug) none (some "x")
    overriddenRun_exit).1 {}⟩

/-- So not every run with an override leaves just what was asked for. -/
theorem override_reaches_file :
    ¬ ∀ (e : Environment) (files : FileTree) (path : Path) (s : Settings) (input : Input)
      (override level : Option Level) (prompt : Option String),
      Path.forSettings e.settingsFile e.home = .ok path → s.HeldIn path.text files →
      (run e files (configArguments override level prompt) input).exit = 0 →
      (StoredSettings.create path {}
        (run e files (configArguments override level prompt) input).files).1.settings =
          updated s level prompt := by
  intro hkept
  have hupdated := hkept _ _ _ _ _ (some .debug) none (some "x") rfl heldIn_defaultFiles
    overriddenRun_exit
  have hheld := heldIn_of_run rfl heldIn_defaultFiles (some .debug) none (some "x")
    overriddenRun_exit
  rw [StoredSettings.create_of_heldIn hheld] at hupdated
  exact absurd hupdated (by decide)

end Command

end MonkeyScan
