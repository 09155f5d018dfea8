import MonkeyScan.Proofs.File.Fault
import MonkeyScan.Proofs.Settings.Untyped

/-!
# Settings stay valid

Untyped settings are valid when the level is the name of a level and the prompt a text. A client is
made with valid ones, and every event leaves them valid, raised or not. The table has a threshold
for every valid level and a valid client is written as two texts, so what an operation may raise
comes from its argument or from the files.
-/
namespace MonkeyScan

/-- Lists and objects, which cannot be looked up. -/
def Json.isCollection : Json → Bool
  | .arr _ | .obj _ => true
  | _ => false

theorem lookupLevel_of_isCollection {value : Json} (h : value.isCollection) :
    lookupLevel value = .error (.collection value) := by
  cases value <;> first | rfl | cases h

theorem lookupLevel_of_not_isCollection {value : Json} (h : ¬ value.isCollection) :
    lookupLevel value = .ok (Level.ofJson? value) := by
  cases value <;> first | rfl | exact absurd rfl h

namespace Situation

/-- The situation that events lead to, and the records that get through the logger meanwhile. -/
def course (t : Situation) : List Event → Situation × List Record
  | [] => (t, [])
  | event :: more =>
    let step := t.react event
    let (last, log) := step.after.course more
    (last, step.log ++ log)

end Situation

namespace Untyped
open Situation (Event)

/-- The level is the name of a level, and the prompt is a text. -/
structure Valid (s : Untyped) : Prop where
  level : ∃ l : Level, s.level = .str l.name
  prompt : ∃ text, s.prompt = .str text

theorem valid_ofSituation (t : Situation) (log : List Record) : (ofSituation t log).Valid :=
  ⟨⟨_, rfl⟩, ⟨_, rfl⟩⟩

/-! ## Single events -/

/-- What a client may rely on: which operations go through, and what the others raise. One that is
refused for its argument leaves everything as it was. -/
structure Safe (s : Untyped) : Prop where
  valid : s.Valid
  create : ∀ path, ∃ after, (act (.create path)).run s = .ok .nothing after
  load : ∃ after, (act (.op .load)).run s = .ok .done after
  save : ∀ raised after, (act (.op .save)).run s = .error raised after →
    '\x00' ∉ s.path.text.toList →
      ∃ fault, raised = .failed fault ∧ fault.fault.numbered.isSome
  setPath : ∀ text, (act (.op (.setPath text))).run s = .ok .nothing { s with path := .ofText text }
  loggingLevel : ∃ l : Level, s.level = .str l.name ∧
    (act (.op .loggingLevel)).run s = .ok (.number l.threshold) s
  configureLogging : ∃ l : Level, s.level = .str l.name ∧
    ∃ logger, (act (.op .configureLogging)).run s = .ok (.number l.threshold) { s with logger }
  shouldLog : ∀ value : Json, ¬ value.isCollection →
    ∃ shown, (act (.op (.shouldLog value))).run s = .ok (.flag shown) s
  shouldLog_collection : ∀ value : Json, value.isCollection →
    (act (.op (.shouldLog value))).run s = .error (.refused (.collection value)) s
  setLevel : ∀ l : Level,
    (act (.op (.setLevel (.str l.name)))).run s = .ok .nothing { s with level := .str l.name }
  setLevel_collection : ∀ value : Json, value.isCollection →
    (act (.op (.setLevel value))).run s = .error (.refused (.collection value)) s
  setLevel_unknown : ∀ value : Json, ¬ value.isCollection → (∀ l : Level, value ≠ .str l.name) →
    (act (.op (.setLevel value))).run s = .error (.refused (.unknownLevel value)) s
  setPrompt : ∀ text,
    (act (.op (.setPrompt (.str text)))).run s = .ok .nothing { s with prompt := .str text }
  setPrompt_notText : ∀ value : Json, (∀ text, value ≠ .str text) →
    (act (.op (.setPrompt value))).run s = .error (.refused (.promptNotText value)) s

section
variable (t : Situation) (log : List Record)

theorem save_raises {raised : Raised} {after : Untyped}
    (h : (act (.op .save)).run (ofSituation t log) = .error raised after)
    (hpath : '\x00' ∉ (ofSituation t log).path.text.toList) :
    ∃ fault, raised = .failed fault ∧ fault.fault.numbered.isSome := by
  rw [act_run] at h
  rcases hsave : t.stored.save t.files with ⟨fault | _, files⟩
  · simp only [Situation.react, Situation.perform, hsave, ofStep, EStateM.Result.error.injEq] at h
    refine ⟨fault, h.1.symm, ?_⟩
    have hnull : fault.fault ≠ .nullCharacter := fun hfault =>
      hpath (FileTree.store_eq_nullCharacter hsave hfault)
    cases hfault : fault.fault <;> first | rfl | exact absurd hfault hnull
  · simp [Situation.react, Situation.perform, hsave, ofStep] at h

theorem setLevel_name (l : Level) : (act (.op (.setLevel (.str l.name)))).run (ofSituation t log) =
    .ok .nothing { ofSituation t log with level := .str l.name } := by
  rw [act_run]
  simp only [Situation.react, Situation.perform, Settings.setLevel_eq, Level.lookupLevel_name,
    Situation.settle, ofStep, ofSituation, List.append_nil]

theorem setLevel_unknown {value : Json} (hvalue : ¬ value.isCollection)
    (hname : ∀ l : Level, value ≠ .str l.name) :
    (act (.op (.setLevel value))).run (ofSituation t log) =
      .error (.refused (.unknownLevel value)) (ofSituation t log) := by
  have hlevel : Level.ofJson? value = none := by
    cases hlevel : Level.ofJson? value with
    | none => rfl
    | some l => exact absurd (Level.eq_name_of_ofJson? hlevel) (hname l)
  simp only [act_run, Situation.react, Situation.perform, Settings.setLevel_eq,
    lookupLevel_of_not_isCollection hvalue, hlevel, Situation.settle, ofStep, List.append_nil]

theorem setPrompt_notText {value : Json} (hvalue : ∀ text, value ≠ .str text) :
    (act (.op (.setPrompt value))).run (ofSituation t log) =
      .error (.refused (.promptNotText value)) (ofSituation t log) := by
  rw [act_run]
  cases value with
  | str text => exact absurd rfl (hvalue text)
  | _ => simp only [Situation.react, Situation.perform, Settings.setPrompt, Situation.settle,
      ofStep, List.append_nil]

/-- What the operations of a typed client answer and raise. -/
theorem safe_ofSituation : (ofSituation t log).Safe where
  valid := valid_ofSituation t log
  create path := ⟨_, create_run (ofSituation t log) path⟩
  load := ⟨_, act_run t log (.op .load)⟩
  save raised after := save_raises t log
  setPath text := rfl
  loggingLevel := by
    refine ⟨t.stored.settings.level, rfl, ?_⟩
    simp only [act_run, Situation.react, Situation.perform, Settings.loggingLevel, ofStep,
      List.append_nil]
  configureLogging := by
    refine ⟨t.stored.settings.level, rfl, t.stored.settings.configureLogging t.logger, ?_⟩
    rw [act_run]
    simp only [Situation.react, Situation.perform, Settings.loggingLevel, ofStep, ofSituation,
      List.append_nil]
  shouldLog value hvalue := by
    refine ⟨t.stored.settings.level.shows
      (((Level.ofJson? value).map Level.threshold).getD Severity.debug.number), ?_⟩
    simp only [act_run, Situation.react, Situation.perform, Settings.shouldLog_eq,
      lookupLevel_of_not_isCollection hvalue, Except.map, ofStep, List.append_nil]
  shouldLog_collection value hvalue := by
    simp only [act_run, Situation.react, Situation.perform, Settings.shouldLog_eq,
      lookupLevel_of_isCollection hvalue, Except.map, ofStep, List.append_nil]
  setLevel := setLevel_name t log
  setLevel_collection value hvalue := by
    simp only [act_run, Situation.react, Situation.perform, Settings.setLevel_eq,
      lookupLevel_of_isCollection hvalue, Situation.settle, ofStep, List.append_nil]
  setLevel_unknown value := setLevel_unknown t log
  setPrompt text := by
    rw [act_run]
    simp only [Situation.react, Situation.perform, Settings.setPrompt, Situation.settle, ofStep,
      ofSituation, List.append_nil]
  setPrompt_notText value := setPrompt_notText t log

end

/-! ## Rows of events -/

/-- What an event leaves, raised or not. -/
def next (s : Untyped) (event : Event) : Untyped :=
  match (act event).run s with
  | .ok _ after => after
  | .error _ after => after

/-- What a row of events leaves. -/
def after (s : Untyped) (events : List Event) : Untyped :=
  events.foldl next s

theorem next_ofSituation (t : Situation) (log : List Record) (event : Event) :
    (ofSituation t log).next event =
      ofSituation (t.react event).after (log ++ (t.react event).log) := by
  unfold next
  rw [act_run, ofStep]
  cases (t.react event).answer <;> rfl

theorem after_ofSituation (t : Situation) (log : List Record) (events : List Event) :
    (ofSituation t log).after events =
      ofSituation (t.course events).1 (log ++ (t.course events).2) := by
  induction events generalizing t log with
  | nil => simp only [after, List.foldl_nil, Situation.course, List.append_nil]
  | cons event more ih =>
    have hmore := ih (t.react event).after (log ++ (t.react event).log)
    rw [← next_ofSituation, List.append_assoc] at hmore
    exact hmore

/-- **Settings stay valid.** Whatever there was before, from the making of a client on every row of
events leaves it safe, and where the typed client is: the next event answers or raises what it does
there. -/
theorem safe_after (s : Untyped) (path : Path) (events : List Event) :
    let now := s.after (.create path :: events)
    let first := Situation.start path s.files s.logger
    let (last, log) := first.after.course events
    now.Safe ∧ now = ofSituation last (s.log ++ first.log ++ log) ∧
      ∀ event, (act event).run now = ofStep now.log (last.react event) := by
  have hcreate : s.next (.create path) =
      ofSituation (Situation.start path s.files s.logger).after
        (s.log ++ (Situation.start path s.files s.logger).log) := by
    rw [next, create_run]
  have hnow : s.after (.create path :: events) = ofSituation
      ((Situation.start path s.files s.logger).after.course events).1
      (s.log ++ (Situation.start path s.files s.logger).log ++
        ((Situation.start path s.files s.logger).after.course events).2) := by
    rw [after, List.foldl_cons, hcreate]
    exact after_ofSituation _ _ events
  rw [hnow]
  exact ⟨safe_ofSituation _ _, rfl, fun event => act_run _ _ event⟩

end Untyped

end MonkeyScan
