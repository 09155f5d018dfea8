import MonkeyScan.Proofs.Settings.RoundTrip
import MonkeyScan.Settings.Operation

/-!
# Settings as untyped values

`Settings` are a level and a text by their type. Here they are any two JSON values, and operations
change them in place: what a file gives is stored first and judged afterwards, a level is looked up
in a table of names whenever its threshold is needed, and an operation that raises leaves what it
had changed by then. While the values are the name of a level and a text the two ways agree step by
step (`act_run`): the untyped operation raises what the typed one is refused or fails by, and ends
in the same situation.
-/
namespace MonkeyScan

namespace Situation

/-- What may happen: a client is made anew for a path, or does an operation, or others change the
files. -/
inductive Event
  | create (path : Path)
  | op (o : Op)

/-- The step of an event. -/
def react (s : Situation) : Event → Step
  | .create path => start path s.files s.logger
  | .op o => s.perform o

end Situation

namespace Level

/-- Only its name names a level. -/
theorem eq_name_of_ofJson? {value : Json} {l : Level} (h : ofJson? value = some l) :
    value = .str l.name := by
  cases value with
  | str name =>
    have hname : l.name = name := by simpa using List.find?_some h
    rw [hname]
  | _ => cases h

theorem lookupLevel_name (l : Level) : lookupLevel (.str l.name) = .ok (some l) :=
  congrArg Except.ok (ofName?_name l)

theorem eq_name_of_lookupLevel {value : Json} {l : Level} (h : lookupLevel value = .ok (some l)) :
    value = .str l.name := by
  cases value with
  | str name => exact eq_name_of_ofJson? (Except.ok.inj h)
  | _ => simp [lookupLevel, ofJson?] at h

end Level

namespace Settings

theorem setLevel_eq (s : Settings) (value : Json) : s.setLevel value =
    match lookupLevel value with
    | .error fault => .error fault
    | .ok none => .error (.unknownLevel value)
    | .ok (some level) => .ok { s with level } := by
  unfold setLevel
  rcases lookupLevel value with fault | _ | level <;> rfl

theorem shouldLog_eq (s : Settings) (value : Json) : s.shouldLog value =
    (lookupLevel value).map fun level =>
      s.level.shows ((level.map Level.threshold).getD Severity.debug.number) := by
  unfold shouldLog
  cases lookupLevel value <;> rfl

end Settings

/-- A client with its path and two values for settings, amid files and with a logger, and the
records that got through it so far. -/
structure Untyped where
  path : Path
  level : Json
  prompt : Json
  files : FileTree
  logger : Logger := {}
  log : List Record := []

namespace Untyped
open Situation (Event Answer Step)

/-- What an operation may raise. The last two stand for a level that the table lacks and for a
setting that is written though it is not a text. -/
inductive Raised
  | refused (fault : SettingFault)
  | failed (fault : SystemFault)
  | missing (level : Json)
  | notText

/-- An operation that changes the client in place. -/
abbrev Act := EStateM Raised Untyped

/-! ## The operations -/

/-- The names of the levels with their thresholds. -/
def thresholds : List (String × Nat) :=
  Level.all.map fun l => (l.name, l.threshold)

/-- The threshold that the table has for a value; collections cannot be looked up. -/
def lookUp (value : Json) : Act (Option Nat) :=
  match value with
  | .arr _ | .obj _ => throw (.refused (.collection value))
  | .str name => return thresholds.lookup name
  | _ => return none

/-- The threshold of the level, which has to be in the table. -/
def threshold : Act Nat := do
  let s ← get
  match ← lookUp s.level with
  | some number => return number
  | none => throw (.missing s.level)

def warn (c : Settings.Complaint) : Act Unit :=
  modify fun s => { s with log := s.log ++ s.logger.filter [c.record] }

/-- Store what an object gives for the settings, whatever it is. -/
def takeFields (fields : List (String × Json)) : Act Unit :=
  modify fun s => { s with
    level := (fields.lookup "debug_level").getD s.level
    prompt := (fields.lookup "prompt").getD s.prompt }

/-- Whether a value is in the table. It is looked up only if it is a text. -/
def isKnown (value : Json) : Act Bool :=
  match value with
  | .str _ => do return (← lookUp value).isSome
  | _ => return false

/-- Replace a level that is not in the table. -/
def repairLevel : Act Unit := do
  let s ← get
  unless ← isKnown s.level do
    warn (.unknownLevel s.level)
    modify fun s => { s with level := .str ({} : Settings).level.name }

/-- Replace a prompt that is not a text. -/
def repairPrompt : Act Unit := do
  match (← get).prompt with
  | .str _ => return
  | _ =>
    warn .promptNotText
    modify fun s => { s with prompt := .str ({} : Settings).prompt }

/-- Read the file. -/
def load : Act Unit := do
  let s ← get
  match s.files.read s.path.text with
  | .error .noEntry => return
  | .error fault => warn (.unreadable s.path.text (.system ⟨fault, s.path.text⟩))
  | .ok bytes =>
    match Settings.readBytes bytes with
    | .error why => warn (.unreadable s.path.text why)
    | .ok (.obj fields) =>
      takeFields fields
      repairLevel
      repairPrompt
    | .ok _ => warn (.notObject s.path.text)

/-- Make a client for a path. -/
def create (path : Path) : Act Unit := do
  modify fun s => { s with
    path, level := .str ({} : Settings).level.name, prompt := .str ({} : Settings).prompt }
  load

/-- Write the file. -/
def save : Act Unit := do
  let s ← get
  match s.level, s.prompt with
  | .str level, .str prompt =>
    let text := Json.writtenObject [("debug_level", level), ("prompt", prompt)]
    let (result, files) := s.files.store s.path (Utf8.encode text)
    set { s with files }
    match result with
    | .ok () => return
    | .error fault => throw (.failed fault)
  | _, _ => throw .notText

def setLevel (value : Json) : Act Unit := do
  match ← lookUp value with
  | some _ => modify fun s => { s with level := value }
  | none => throw (.refused (.unknownLevel value))

def setPrompt (value : Json) : Act Unit :=
  match value with
  | .str _ => modify fun s => { s with prompt := value }
  | _ => throw (.refused (.promptNotText value))

/-- Whether messages at the level that a value names are shown. -/
def shouldLog (value : Json) : Act Bool := do
  let least ← threshold
  let number ← lookUp value
  return least ≤ number.getD Severity.debug.number

/-- Set up the logger, and tell its threshold. -/
def configureLogging : Act Nat := do
  let number ← threshold
  modify fun s => { s with logger.threshold := some number }
  modify fun s => { s with
    logger.handlers :=
      if .console ∈ s.logger.handlers then s.logger.handlers else s.logger.handlers ++ [.console] }
  return number

/-- What happens at an event. -/
def act : Event → Act Answer
  | .create path => do create path; return .nothing
  | .op .load => do load; return .done
  | .op .save => do save; return .done
  | .op (.setPath text) => do modify fun s => { s with path := .ofText text }; return .nothing
  | .op (.setLevel value) => do setLevel value; return .nothing
  | .op (.setPrompt value) => do setPrompt value; return .nothing
  | .op (.shouldLog value) => return .flag (← shouldLog value)
  | .op .loggingLevel => return .number (← threshold)
  | .op .configureLogging => return .number (← configureLogging)
  | .op (.outside files) => do modify fun s => { s with files }; return .nothing

/-! ## Agreement with the typed operations -/

/-- A situation as an untyped client, with the records that got through so far. -/
def ofSituation (s : Situation) (log : List Record) : Untyped where
  path := s.stored.path
  level := .str s.stored.settings.level.name
  prompt := .str s.stored.settings.prompt
  files := s.files
  logger := s.logger
  log := log

/-- A typed step as the result of an untyped operation, behind the records so far. -/
def ofStep (log : List Record) (step : Step) : EStateM.Result Raised Untyped Answer :=
  match step.answer with
  | .refused fault => .error (.refused fault) (ofSituation step.after (log ++ step.log))
  | .failed fault => .error (.failed fault) (ofSituation step.after (log ++ step.log))
  | answer => .ok answer (ofSituation step.after (log ++ step.log))

theorem lookup_thresholds (name : String) :
    thresholds.lookup name = (Level.ofName? name).map Level.threshold := by
  unfold thresholds Level.ofName?
  induction Level.all with
  | nil => rfl
  | cons l more ih =>
    rw [List.map_cons, List.lookup_cons, List.find?_cons]
    by_cases hname : l.name = name
    · simp [hname]
    · have hname' : (name == l.name) = false := beq_eq_false_iff_ne.mpr (Ne.symm hname)
      simp [hname, hname', ih]

/-- Looking up a value finds the threshold of the level that it names. -/
theorem lookUp_run (value : Json) (s : Untyped) : (lookUp value).run s =
    match lookupLevel value with
    | .ok level => .ok (level.map Level.threshold) s
    | .error fault => .error (.refused fault) s := by
  cases value with
  | str name => exact congrArg (EStateM.Result.ok · s) (lookup_thresholds name)
  | _ => rfl

theorem lookUp_name_run (l : Level) (s : Untyped) :
    (lookUp (.str l.name)).run s = .ok (some l.threshold) s := by
  rw [lookUp_run, Level.lookupLevel_name]
  rfl

theorem threshold_run (t : Situation) (log : List Record) :
    threshold.run (ofSituation t log) =
      .ok t.stored.settings.level.threshold (ofSituation t log) := by
  have hlevel := lookUp_name_run t.stored.settings.level (ofSituation t log)
  simp only [threshold, EStateM.run_bind, EStateM.run_get]
  simp only [ofSituation] at hlevel ⊢
  simp only [hlevel, EStateM.run_pure]

theorem setLevel_run (t : Situation) (log : List Record) (value : Json) :
    (act (.op (.setLevel value))).run (ofSituation t log) =
      ofStep log (t.react (.op (.setLevel value))) := by
  simp only [act, setLevel, EStateM.run_bind, lookUp_run, Situation.react, Situation.perform,
    Settings.setLevel_eq]
  rcases hlevel : lookupLevel value with fault | _ | l
  · simp only [Situation.settle, ofStep, List.append_nil]
  · simp only [Option.map_none, EStateM.run_throw, Situation.settle, ofStep, List.append_nil]
  · obtain rfl := Level.eq_name_of_lookupLevel hlevel
    simp only [Option.map_some, EStateM.run_modify, EStateM.run_pure, Situation.settle, ofStep,
      ofSituation, List.append_nil]

theorem setPrompt_run (t : Situation) (log : List Record) (value : Json) :
    (act (.op (.setPrompt value))).run (ofSituation t log) =
      ofStep log (t.react (.op (.setPrompt value))) := by
  unfold ofStep
  cases value <;> simp only [Situation.react, Situation.perform, Settings.setPrompt,
    Situation.settle, List.append_nil] <;> rfl

theorem shouldLog_run (t : Situation) (log : List Record) (value : Json) :
    (act (.op (.shouldLog value))).run (ofSituation t log) =
      ofStep log (t.react (.op (.shouldLog value))) := by
  simp only [act, shouldLog, EStateM.run_bind, threshold_run, lookUp_run, Situation.react,
    Situation.perform, Settings.shouldLog_eq]
  rcases hlevel : lookupLevel value with fault | level
  · simp only [Except.map, ofStep, List.append_nil]
  · simp only [EStateM.run_pure, Except.map, Level.shows, ofStep, List.append_nil]

theorem configureLogging_run (t : Situation) (log : List Record) :
    (act (.op .configureLogging)).run (ofSituation t log) =
      ofStep log (t.react (.op .configureLogging)) := by
  simp only [act, configureLogging, EStateM.run_bind, threshold_run, EStateM.run_modify,
    EStateM.run_pure, ofStep, Situation.react, Situation.perform, List.append_nil]
  rfl

theorem save_run (t : Situation) (log : List Record) :
    (act (.op .save)).run (ofSituation t log) = ofStep log (t.react (.op .save)) := by
  have hwritten : Json.writtenObject [("debug_level", t.stored.settings.level.name),
      ("prompt", t.stored.settings.prompt)] = t.stored.settings.written :=
    t.stored.settings.written_eq.symm
  simp only [act, save, EStateM.run_bind, EStateM.run_get, Situation.react, Situation.perform,
    StoredSettings.save, ofSituation, hwritten]
  rcases t.files.store t.stored.path (Utf8.encode t.stored.settings.written) with ⟨_ | _, files⟩
  · simp only [EStateM.run_set, EStateM.run_throw, ofStep, ofSituation, List.append_nil]
  · simp only [EStateM.run_set, EStateM.run_pure, ofStep, ofSituation, List.append_nil]

/-! ### Loading -/

theorem warn_run (c : Settings.Complaint) (s : Untyped) :
    (warn c).run s = .ok () { s with log := s.log ++ s.logger.filter [c.record] } := rfl

theorem isKnown_run (value : Json) (s : Untyped) :
    (isKnown value).run s = .ok (Level.ofJson? value).isSome s := by
  cases value with
  | str name =>
    have hlookup : lookupLevel (.str name) = .ok (Level.ofJson? (.str name)) := rfl
    simp only [isKnown, EStateM.run_bind, lookUp_run, hlookup, EStateM.run_pure,
      Option.isSome_map]
  | _ => rfl

/-- A stored level is repaired the way a level is taken from a file, whatever there was before. -/
theorem repairLevel_run (old : Level) (s : Untyped) : repairLevel.run s =
    let (level, complaints) := Settings.takeLevel old (some s.level)
    .ok () { s with
      level := .str level.name
      log := s.log ++ s.logger.filter (complaints.map Settings.Complaint.record) } := by
  simp only [repairLevel, EStateM.run_bind, EStateM.run_get, isKnown_run, Settings.takeLevel]
  cases hlevel : Level.ofJson? s.level with
  | some level =>
    have hname : Json.str level.name = s.level := (Level.eq_name_of_ofJson? hlevel).symm
    simp only [Option.isSome_some, if_true, EStateM.run_pure, List.map_nil, Logger.filter,
      List.filter_nil, List.append_nil, hname]
  | none =>
    simp only [Option.isSome_none, Bool.false_eq_true, if_false, EStateM.run_bind, warn_run,
      EStateM.run_modify, List.map_cons, List.map_nil]

/-- A stored prompt is repaired the way a prompt is taken from a file. -/
theorem repairPrompt_run (old : String) (s : Untyped) : repairPrompt.run s =
    let (prompt, complaints) := Settings.takePrompt old (some s.prompt)
    .ok () { s with
      prompt := .str prompt
      log := s.log ++ s.logger.filter (complaints.map Settings.Complaint.record) } := by
  simp only [repairPrompt, EStateM.run_bind, EStateM.run_get]
  cases hprompt : s.prompt with
  | str prompt =>
    simp only [Settings.takePrompt, EStateM.run_pure, List.map_nil, Logger.filter,
      List.filter_nil, List.append_nil, ← hprompt]
  | _ =>
    simp only [Settings.takePrompt, EStateM.run_bind, warn_run, EStateM.run_modify, List.map_cons,
      List.map_nil]

/-- A level that a file does not give is taken as the old one was given. -/
theorem takeLevel_getD (old : Level) (value? : Option Json) :
    Settings.takeLevel old (some (value?.getD (.str old.name))) = Settings.takeLevel old value? := by
  cases value? with
  | some value => rfl
  | none =>
    have hname : Level.ofJson? (.str old.name) = some old := Level.ofName?_name old
    simp only [Option.getD_none, Settings.takeLevel, hname]

theorem takePrompt_getD (old : String) (value? : Option Json) :
    Settings.takePrompt old (some (value?.getD (.str old))) = Settings.takePrompt old value? := by
  cases value? <;> rfl

theorem filter_map_append (logger : Logger) (first more : List Settings.Complaint) :
    logger.filter ((first ++ more).map Settings.Complaint.record) =
      logger.filter (first.map Settings.Complaint.record) ++
        logger.filter (more.map Settings.Complaint.record) := by
  simp only [Logger.filter, List.map_append, List.filter_append]

/-- Values that are stored first and repaired then are the settings of the file. -/
theorem takeFields_run (t : Situation) (log : List Record) (fields : List (String × Json)) :
    (do takeFields fields; repairLevel; repairPrompt : Act Unit).run (ofSituation t log) =
      let (settings, complaints) :=
        t.stored.settings.takeJson t.stored.path.text (.obj fields)
      .ok () (ofSituation { t with stored := { t.stored with settings } }
        (log ++ t.logger.filter (complaints.map Settings.Complaint.record))) := by
  have hlevel := takeLevel_getD t.stored.settings.level (fields.lookup "debug_level")
  have hprompt := takePrompt_getD t.stored.settings.prompt (fields.lookup "prompt")
  simp only [takeFields, EStateM.run_bind, EStateM.run_modify,
    repairLevel_run t.stored.settings.level, repairPrompt_run t.stored.settings.prompt,
    Settings.takeJson, Json.field?, ofSituation, hlevel, hprompt, filter_map_append,
    List.append_assoc]

/-- Reading the file in place is reading it as a whole. -/
theorem load_run (t : Situation) (log : List Record) :
    load.run (ofSituation t log) =
      let (stored, new) := t.stored.load t.logger t.files
      .ok () (ofSituation { t with stored } (log ++ new)) := by
  have hwarn : ∀ c : Settings.Complaint, (warn c).run (ofSituation t log) =
      .ok () (ofSituation t (log ++ t.logger.filter [c.record])) := fun _ => rfl
  have hpath : (ofSituation t log).path = t.stored.path := rfl
  have hfiles : (ofSituation t log).files = t.files := rfl
  have hnothing : log ++ t.logger.filter [] = log := by
    simp only [Logger.filter, List.filter_nil, List.append_nil]
  simp only [load, EStateM.run_bind, EStateM.run_get, StoredSettings.load, Settings.loadFrom, hpath,
    hfiles]
  -- One case for each way out; only an object changes the settings.
  cases hread : t.files.read t.stored.path.text with
  | error fault =>
    cases fault with
    | noEntry => simp only [EStateM.run_pure, List.map_nil, hnothing]
    | _ => simp only [hwarn, List.map_cons, List.map_nil]
  | ok bytes =>
    cases hjson : Settings.readBytes bytes with
    | error why => simp only [hjson, hwarn, List.map_cons, List.map_nil]
    | ok value =>
      cases value with
      | obj fields => simp only [hjson, takeFields_run]
      | _ => simp only [hjson, hwarn, Settings.takeJson, List.map_cons, List.map_nil]

/-- A client is made anew whatever there was before. -/
theorem create_run (s : Untyped) (path : Path) : (act (.create path)).run s =
    let step := Situation.start path s.files s.logger
    .ok .nothing (ofSituation step.after (s.log ++ step.log)) := by
  have hload := load_run ⟨⟨path, {}⟩, s.files, s.logger⟩ s.log
  simp only [ofSituation] at hload
  simp only [act, create, EStateM.run_bind, EStateM.run_modify, hload, EStateM.run_pure,
    Situation.start, StoredSettings.create, ofSituation]

/-- **The two ways agree.** -/
theorem act_run (t : Situation) (log : List Record) (event : Event) :
    (act event).run (ofSituation t log) = ofStep log (t.react event) := by
  cases event with
  | create path => exact create_run (ofSituation t log) path
  | op o =>
    cases o with
    | load =>
      simp only [act, EStateM.run_bind, load_run, EStateM.run_pure, Situation.react,
        Situation.perform, ofStep]
    | save => exact save_run t log
    | setPath text =>
      simp only [act, EStateM.run_bind, EStateM.run_modify, EStateM.run_pure, Situation.react,
        Situation.perform, ofStep, ofSituation, List.append_nil]
    | setLevel value => exact setLevel_run t log value
    | setPrompt value => exact setPrompt_run t log value
    | shouldLog value => exact shouldLog_run t log value
    | loggingLevel =>
      simp only [act, EStateM.run_bind, threshold_run, EStateM.run_pure, Situation.react,
        Situation.perform, ofStep, Settings.loggingLevel, List.append_nil]
    | configureLogging => exact configureLogging_run t log
    | outside files =>
      simp only [act, EStateM.run_bind, EStateM.run_modify, EStateM.run_pure, Situation.react,
        Situation.perform, ofStep, ofSituation, List.append_nil]

end Untyped

end MonkeyScan
