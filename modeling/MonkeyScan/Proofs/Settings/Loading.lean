import MonkeyScan.Proofs.File.Missing
import MonkeyScan.Proofs.Json.Members
import MonkeyScan.Proofs.Settings.Saving

/-!
# The law of loading

What a load makes of settings, and what it complains of, is settled by the condition of the file: it
is missing, or it cannot be used, or it is an object. Each setting is then taken from the last value
that the object gives for its key, and from nothing else. A second load finds the first one done,
and complains again.
-/
namespace MonkeyScan

namespace Settings

/-- What the value for a key makes of a setting. Without one the setting stays; a value in which some
setting is written is that setting; any other is complained of, and stands for the default. -/
inductive Taken {α : Type} (written : α → Json) (default : α) (complaint : Json → Complaint)
    (old : α) : Option Json → α → List Complaint → Prop
  | absent : Taken written default complaint old none old []
  | valid (a : α) : Taken written default complaint old (some (written a)) a []
  | invalid (value : Json) (h : ∀ a, value ≠ written a) :
    Taken written default complaint old (some value) default [complaint value]

/-- What the value for the level makes of it: one of five names is a level. -/
def LevelTaken : Level → Option Json → Level → List Complaint → Prop :=
  Taken (fun l => .str l.name) .off .unknownLevel

/-- What the value for the prompt makes of it: every text is a prompt. -/
def PromptTaken : String → Option Json → String → List Complaint → Prop :=
  Taken .str ">> " fun _ => .promptNotText

section
variable {α : Type} {written : α → Json} {default : α} {complaint : Json → Complaint}
  {old new : α} {value? : Option Json} {complaints : List Complaint}

/-- What was taken is taken again. -/
theorem Taken.again (h : Taken written default complaint old value? new complaints) :
    Taken written default complaint new value? new complaints := by
  cases h with
  | absent => exact .absent
  | valid => exact .valid _
  | invalid value hvalue => exact .invalid value hvalue

end

theorem levelTaken_iff {old level : Level} {value? : Option Json} {complaints : List Complaint} :
    LevelTaken old value? level complaints ↔ takeLevel old value? = (level, complaints) := by
  constructor
  · intro h
    cases h with
    | absent => rfl
    | valid =>
      have hname : Level.ofJson? (.str level.name) = some level := Level.ofName?_name level
      simp only [takeLevel, hname]
    | invalid value hvalue =>
      have hnone : Level.ofJson? value = none := by
        cases hlevel : Level.ofJson? value with
        | none => rfl
        | some l => exact absurd (Level.eq_name_of_ofJson? hlevel) (hvalue l)
      simp only [takeLevel, hnone]
  · intro h
    cases value? with
    | none =>
      obtain ⟨rfl, rfl⟩ := Prod.mk.inj h
      exact .absent
    | some value =>
      cases hlevel : Level.ofJson? value with
      | none =>
        simp only [takeLevel, hlevel] at h
        obtain ⟨rfl, rfl⟩ := Prod.mk.inj h
        refine .invalid value fun l hl => ?_
        rw [hl, show Level.ofJson? (.str l.name) = some l from Level.ofName?_name l] at hlevel
        cases hlevel
      | some l =>
        simp only [takeLevel, hlevel] at h
        obtain ⟨rfl, rfl⟩ := Prod.mk.inj h
        rw [Level.eq_name_of_ofJson? hlevel]
        exact .valid l

theorem promptTaken_iff {old prompt : String} {value? : Option Json}
    {complaints : List Complaint} :
    PromptTaken old value? prompt complaints ↔ takePrompt old value? = (prompt, complaints) := by
  constructor
  · intro h
    cases h with
    | absent => rfl
    | valid => rfl
    | invalid value hvalue =>
      cases value with
      | str text => exact absurd rfl (hvalue text)
      | _ => rfl
  · intro h
    cases value? with
    | none =>
      obtain ⟨rfl, rfl⟩ := Prod.mk.inj h
      exact .absent
    | some value =>
      cases value with
      | str text =>
        obtain ⟨rfl, rfl⟩ := Prod.mk.inj h
        exact .valid text
      | _ =>
        obtain ⟨rfl, rfl⟩ := Prod.mk.inj h
        exact .invalid _ fun _ => by simp

/-- What a load from the file of a path makes of settings, and what it complains of, by the
condition of the file. -/
inductive Loads (s : Settings) (path : String) (files : FileTree) :
    Settings → List Complaint → Prop
  | missing (hmissing : files.Missing path) : Loads s path files s []
  | unopened {fault : FileFault} (hthere : ¬ files.Missing path)
    (hread : files.read path = .error fault) :
    Loads s path files s [.unreadable path (.system ⟨fault, path⟩)]
  | notUtf8 {bytes : List UInt8} {fault : Utf8.Fault} (hread : files.read path = .ok bytes)
    (hdecode : Utf8.decode bytes = .error fault) :
    Loads s path files s [.unreadable path (.encoding fault)]
  | notJson {bytes : List UInt8} {text : List Char} {fault : Json.Fault}
    (hread : files.read path = .ok bytes) (hdecode : Utf8.decode bytes = .ok text)
    (hparse : Json.parse (unifyLineEnds text) = .error fault) :
    Loads s path files s [.unreadable path (.json (unifyLineEnds text) fault)]
  | notObject {bytes : List UInt8} {text : List Char} {value : Json}
    (hread : files.read path = .ok bytes) (hdecode : Utf8.decode bytes = .ok text)
    (hparse : Json.parse (unifyLineEnds text) = .ok value) (hvalue : ∀ fields, value ≠ .obj fields) :
    Loads s path files s [.notObject path]
  | object {bytes : List UInt8} {text : List Char} {members : List (String × Json)}
    {level : Level} {prompt : String} {forLevel forPrompt : List Complaint}
    (hread : files.read path = .ok bytes) (hdecode : Utf8.decode bytes = .ok text)
    (hwrites : Json.Writes (unifyLineEnds text) members)
    (hlevel : LevelTaken s.level (members.reverse.lookup "debug_level") level forLevel)
    (hprompt : PromptTaken s.prompt (members.reverse.lookup "prompt") prompt forPrompt) :
    Loads s path files ⟨level, prompt⟩ (forLevel ++ forPrompt)

section
variable {s loaded : Settings} {path : String} {files : FileTree} {complaints : List Complaint}

/-- What was loaded is loaded again. -/
theorem Loads.again (h : s.Loads path files loaded complaints) :
    loaded.Loads path files loaded complaints := by
  cases h with
  | missing hmissing => exact .missing hmissing
  | unopened hthere hread => exact .unopened hthere hread
  | notUtf8 hread hdecode => exact .notUtf8 hread hdecode
  | notJson hread hdecode hparse => exact .notJson hread hdecode hparse
  | notObject hread hdecode hparse hvalue => exact .notObject hread hdecode hparse hvalue
  | object hread hdecode hwrites hlevel hprompt =>
    exact .object hread hdecode hwrites hlevel.again hprompt.again

theorem loadFrom_of_read {bytes : List UInt8} (hread : files.read path = .ok bytes) :
    s.loadFrom path files = match readBytes bytes with
      | .error why => (s, [.unreadable path why])
      | .ok value => s.takeJson path value := by
  cases hbytes : readBytes bytes with
  | error why => simp only [loadFrom, hread, hbytes]
  | ok value => simp only [loadFrom, hread, hbytes]

theorem readBytes_of_decode {bytes : List UInt8} {text : List Char}
    (hdecode : Utf8.decode bytes = .ok text) : readBytes bytes =
      (Json.parse (unifyLineEnds text)).mapError (.json (unifyLineEnds text)) := by
  simp only [readBytes, hdecode, bind, Except.bind, pure, Except.pure]
  cases Json.parse (unifyLineEnds text) <;> rfl

/-- An object is taken key by key, from the last values that its members give. -/
theorem takeJson_ofFields_iff {members : List (String × Json)} :
    s.takeJson path (.ofFields members) = (loaded, complaints) ↔ ∃ forLevel forPrompt,
      complaints = forLevel ++ forPrompt ∧
      LevelTaken s.level (members.reverse.lookup "debug_level") loaded.level forLevel ∧
      PromptTaken s.prompt (members.reverse.lookup "prompt") loaded.prompt forPrompt := by
  have htake : s.takeJson path (.ofFields members) =
      (⟨(takeLevel s.level (members.reverse.lookup "debug_level")).1,
        (takePrompt s.prompt (members.reverse.lookup "prompt")).1⟩,
        (takeLevel s.level (members.reverse.lookup "debug_level")).2 ++
          (takePrompt s.prompt (members.reverse.lookup "prompt")).2) := by
    rw [← Json.field?_ofFields, ← Json.field?_ofFields]
    rfl
  simp only [levelTaken_iff, promptTaken_iff, htake]
  constructor
  · intro h
    obtain ⟨rfl, rfl⟩ := Prod.mk.inj h
    exact ⟨_, _, rfl, rfl, rfl⟩
  · rintro ⟨forLevel, forPrompt, rfl, hlevel, hprompt⟩
    rw [hlevel, hprompt]

theorem loadFrom_of_fault {fault : FileFault} (hfault : fault ≠ .noEntry)
    (hread : files.read path = .error fault) :
    s.loadFrom path files = (s, [.unreadable path (.system ⟨fault, path⟩)]) := by
  rw [loadFrom, hread]
  cases fault <;> first | rfl | exact absurd rfl hfault

theorem Loads.loadFrom (h : s.Loads path files loaded complaints) :
    s.loadFrom path files = (loaded, complaints) := by
  cases h with
  | missing hmissing => simp only [Settings.loadFrom, FileTree.read_eq_noEntry_iff.mpr hmissing]
  | unopened hthere hread =>
    exact loadFrom_of_fault (fun h => hthere (FileTree.read_eq_noEntry_iff.mp (h ▸ hread))) hread
  | notUtf8 hread hdecode =>
    rw [loadFrom_of_read hread]
    simp only [readBytes, hdecode]
    rfl
  | notJson hread hdecode hparse =>
    rw [loadFrom_of_read hread, readBytes_of_decode hdecode, hparse]
    rfl
  | @notObject _ _ value hread hdecode hparse hvalue =>
    rw [loadFrom_of_read hread, readBytes_of_decode hdecode, hparse]
    cases value with
    | obj fields => exact absurd rfl (hvalue fields)
    | _ => rfl
  | object hread hdecode hwrites hlevel hprompt =>
    rw [loadFrom_of_read hread, readBytes_of_decode hdecode,
      Json.parse_eq_obj_iff.mpr ⟨_, hwrites, rfl⟩]
    exact takeJson_ofFields_iff.mpr ⟨_, _, rfl, hlevel, hprompt⟩

/-- Every condition of the file is covered. -/
theorem exists_loads (s : Settings) (path : String) (files : FileTree) :
    ∃ loaded complaints, s.Loads path files loaded complaints := by
  by_cases hmissing : files.Missing path
  · exact ⟨_, _, .missing hmissing⟩
  cases hread : files.read path with
  | error fault => exact ⟨_, _, .unopened hmissing hread⟩
  | ok bytes =>
    cases hdecode : Utf8.decode bytes with
    | error fault => exact ⟨_, _, .notUtf8 hread hdecode⟩
    | ok text =>
      cases hparse : Json.parse (unifyLineEnds text) with
      | error fault => exact ⟨_, _, .notJson hread hdecode hparse⟩
      | ok value =>
        by_cases hvalue : ∃ fields, value = .obj fields
        · obtain ⟨fields, rfl⟩ := hvalue
          obtain ⟨members, hwrites, -⟩ := Json.parse_eq_obj_iff.mp hparse
          exact ⟨_, _, .object hread hdecode hwrites (levelTaken_iff.mpr rfl)
            (promptTaken_iff.mpr rfl)⟩
        · exact ⟨_, _, .notObject hread hdecode hparse fun fields h => hvalue ⟨fields, h⟩⟩

/-- **A load is what the condition of the file makes it,** and nothing else. -/
theorem loads_iff :
    s.Loads path files loaded complaints ↔ s.loadFrom path files = (loaded, complaints) := by
  refine ⟨Loads.loadFrom, fun h => ?_⟩
  obtain ⟨loaded', complaints', hloads⟩ := s.exists_loads path files
  obtain ⟨rfl, rfl⟩ := Prod.mk.inj (h.symm.trans hloads.loadFrom)
  exact hloads

theorem Loads.unique {loaded' : Settings} {complaints' : List Complaint}
    (h : s.Loads path files loaded complaints) (h' : s.Loads path files loaded' complaints') :
    loaded' = loaded ∧ complaints' = complaints :=
  Prod.mk.inj ((loads_iff.mp h').symm.trans (loads_iff.mp h))

end

/-- Complaints are logged as warnings, all of one source. -/
theorem severity_source_of_mem_records {complaints : List Complaint} {r : Record}
    (h : r ∈ complaints.map Complaint.record) : r.severity = .warning ∧ r.source = source := by
  obtain ⟨c, -, rfl⟩ := List.mem_map.mp h
  exact ⟨rfl, rfl⟩

/-- All of them get through a logger that lets warnings through, and none through any other. -/
theorem filter_records (logger : Logger) (complaints : List Complaint) :
    logger.filter (complaints.map Complaint.record) =
      if logger.passes Severity.warning.number then complaints.map Complaint.record else [] := by
  have hpasses : ∀ r ∈ complaints.map Complaint.record,
      logger.passes r.severity.number = logger.passes Severity.warning.number := fun r hr => by
    rw [(severity_source_of_mem_records hr).1]
  unfold Logger.filter
  rw [List.filter_congr hpasses]
  by_cases hwarnings : logger.passes Severity.warning.number
  · simp [hwarnings]
  · simp [hwarnings]

end Settings

namespace Untyped
open Situation (Event)

/-- The client with settings that were loaded, and the records of that. -/
def withLoaded (s : Untyped) (settings : Settings) (complaints : List Settings.Complaint) :
    Untyped :=
  { s with
    level := .str settings.level.name
    prompt := .str settings.prompt
    log := s.log ++ s.logger.filter (complaints.map Settings.Complaint.record) }

/-- A load of a typed client does what the condition of the file says, and nothing else. -/
theorem load_run_of_loads {t : Situation} {log : List Record} {loaded : Settings}
    {complaints : List Settings.Complaint}
    (h : t.stored.settings.Loads t.stored.path.text t.files loaded complaints) :
    (act (.op .load)).run (ofSituation t log) =
      .ok .done ((ofSituation t log).withLoaded loaded complaints) := by
  rw [act_run]
  simp only [Situation.react, Situation.perform, StoredSettings.load, h.loadFrom, ofStep,
    ofSituation, withLoaded]

/-- **A load follows the condition of the file,** for every client that was made, whatever has
happened since. It never raises and changes no file. The settings that it ends with, and its
complaints, are those that `Settings.Loads` allows, the only ones; each complaint is handed to the
logger as a warning. A second load ends with the same settings and complains of the same. -/
theorem load_follows_file (s : Untyped) (path : Path) (events : List Event) :
    let now := s.after (.create path :: events)
    ∃ (settings loaded : Settings) (complaints : List Settings.Complaint),
      now.level = .str settings.level.name ∧ now.prompt = .str settings.prompt ∧
      settings.Loads now.path.text now.files loaded complaints ∧
      (∀ loaded' complaints', settings.Loads now.path.text now.files loaded' complaints' →
        loaded' = loaded ∧ complaints' = complaints) ∧
      StoredSettings.load ⟨now.path, settings⟩ now.logger now.files =
        (⟨now.path, loaded⟩, now.logger.filter (complaints.map Settings.Complaint.record)) ∧
      (∀ r ∈ complaints.map Settings.Complaint.record,
        r.severity = .warning ∧ r.source = "monkey.config") ∧
      (∀ logger : Logger, logger.filter (complaints.map Settings.Complaint.record) =
        if logger.passes Severity.warning.number
        then complaints.map Settings.Complaint.record else []) ∧
      (act (.op .load)).run now = .ok .done (now.withLoaded loaded complaints) ∧
      (act (.op .load)).run (now.withLoaded loaded complaints) =
        .ok .done ((now.withLoaded loaded complaints).withLoaded loaded complaints) := by
  intro now
  obtain ⟨t, log, hnow⟩ := exists_ofSituation_after s path events
  have hnow' : now = ofSituation t log := hnow
  rw [hnow']
  obtain ⟨loaded, complaints, hloads⟩ :=
    t.stored.settings.exists_loads t.stored.path.text t.files
  refine ⟨t.stored.settings, loaded, complaints, rfl, rfl, hloads, fun _ _ => hloads.unique, ?_,
    fun _ => Settings.severity_source_of_mem_records, fun logger =>
    Settings.filter_records logger complaints, load_run_of_loads hloads, ?_⟩
  · have hload := hloads.loadFrom
    simp only [StoredSettings.load, ofSituation, hload]
  · -- The client after the first load is a typed one again, with the loaded settings.
    exact load_run_of_loads (t := { t with stored := { t.stored with settings := loaded } })
      hloads.again

end Untyped

end MonkeyScan
