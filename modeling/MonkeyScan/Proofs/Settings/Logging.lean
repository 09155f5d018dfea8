import MonkeyScan.Proofs.Settings.Untyped
import Mathlib.Logic.Function.Basic

/-!
# One logger, set up by many clients

Any number of clients keep settings of their own and set up the same logger from them, in any order
and as often as they like. Each time the logger takes the threshold of the client's settings, so it
lets through the records that these show. Its handlers stay as they were, and a console is added
behind them only if there is none; so it is added the first time or never.
-/
namespace MonkeyScan

namespace Level

/-- The severity of what is logged at a level; nothing is logged at the one that is off. -/
def severity? : Level → Option Severity
  | off => none
  | error => some .error
  | warning => some .warning
  | info => some .info
  | debug => some .debug

/-- Settings and loggers count alike. -/
theorem number_of_severity? {l : Level} {severity : Severity} (h : l.severity? = some severity) :
    severity.number = l.threshold := by
  cases l <;> cases h <;> rfl

end Level

/-- The console, where handlers lack one. -/
def missingConsole (handlers : List Handler) : List Handler :=
  if .console ∈ handlers then [] else [.console]

/-- Where the console has been added none is missing. -/
theorem missingConsole_append (handlers : List Handler) :
    missingConsole (handlers ++ missingConsole handlers) = [] := by
  refine if_pos ?_
  unfold missingConsole
  split <;> simp [*]

/-- The logger has the threshold of the settings, and it lets a record through if they show the
level that the record was logged at. -/
structure Logger.Follows (logger : Logger) (s : Settings) : Prop where
  threshold_eq : logger.threshold = some s.loggingLevel
  mem_filter_iff : ∀ records, ∀ r ∈ records, ∀ l : Level, l.severity? = some r.severity →
    (r ∈ logger.filter records ↔ s.shouldLog (.str l.name) = .ok true)

namespace Settings

theorem shouldLog_name (s : Settings) (l : Level) :
    s.shouldLog (.str l.name) = .ok (s.level.shows l.threshold) := by
  rw [shouldLog_eq, Level.lookupLevel_name]
  rfl

theorem configureLogging_handlers (s : Settings) (logger : Logger) :
    (s.configureLogging logger).handlers = logger.handlers ++ missingConsole logger.handlers := by
  unfold configureLogging missingConsole
  split <;> simp

theorem configureLogging_follows (s : Settings) (logger : Logger) :
    (s.configureLogging logger).Follows s where
  threshold_eq := rfl
  mem_filter_iff := by
    intro records r hr l hl
    have hpasses : (s.configureLogging logger).passes r.severity.number =
        s.level.shows l.threshold := by
      rw [Level.number_of_severity? hl]
      rfl
    rw [Logger.filter, List.mem_filter, hpasses, shouldLog_name, Except.ok.injEq]
    exact and_iff_right hr

end Settings

/-! ## Single events -/

namespace Situation

/-- Whether the logger is set up at an event. -/
def Event.configures : Event → Bool
  | .op .configureLogging => true
  | _ => false

theorem Event.eq_of_configures {event : Event} (h : event.configures = true) :
    event = .op .configureLogging := by
  unfold configures at h
  split at h
  · rfl
  · cases h

/-- No other event touches the logger. -/
theorem react_logger (t : Situation) (event : Event) : (t.react event).after.logger =
    if event.configures then t.stored.settings.configureLogging t.logger else t.logger := by
  have hsettle : ∀ result, (t.settle result).after.logger = t.logger := by
    intro result
    cases result <;> rfl
  cases event with
  | create path => rfl
  | op o =>
    cases o with
    | save =>
      simp only [react, perform, Event.configures]
      split <;> rfl
    | setLevel value => exact hsettle _
    | setPrompt value => exact hsettle _
    | shouldLog value =>
      simp only [react, perform, Event.configures]
      split <;> rfl
    | _ => rfl

theorem handlers_react (t : Situation) (event : Event) :
    (t.react event).after.logger.handlers = t.logger.handlers ++
      if event.configures then missingConsole t.logger.handlers else [] := by
  rw [react_logger]
  split
  · exact t.stored.settings.configureLogging_handlers t.logger
  · exact (List.append_nil _).symm

end Situation

/-! ## Many clients -/

/-- Clients under their names, amid the same files and with the same logger. One of them is shared:
it is meant where none is named. -/
structure Clients (ι : Type*) where
  stored : ι → StoredSettings
  shared : ι
  files : FileTree
  logger : Logger := {}

namespace Clients
open Situation (Event Step)
variable {ι : Type*} [DecidableEq ι]

/-- The client that is meant. -/
def meant (s : Clients ι) (name : Option ι) : ι :=
  name.getD s.shared

/-- What a client sees. -/
def situation (s : Clients ι) (name : Option ι) : Situation :=
  ⟨s.stored (s.meant name), s.files, s.logger⟩

/-- The step of an event that happens to a client. -/
def react (s : Clients ι) (name : Option ι) (event : Event) : Step × Clients ι :=
  let step := (s.situation name).react event
  (step, { s with
    stored := Function.update s.stored (s.meant name) step.after.stored
    files := step.after.files
    logger := step.after.logger })

/-- What events leave, each of which happens to some client. -/
def after (s : Clients ι) (events : List (Option ι × Event)) : Clients ι :=
  events.foldl (fun s happening => (s.react happening.1 happening.2).2) s

/-- Setting up the logger changes nothing else, and not the client that it is set up for. -/
theorem react_configureLogging (s : Clients ι) (name : Option ι) :
    let settings := (s.stored (s.meant name)).settings
    (s.react name (.op .configureLogging)).1.answer = .number settings.loggingLevel ∧
      (s.react name (.op .configureLogging)).2 =
        { s with logger := settings.configureLogging s.logger } := by
  intro settings
  refine ⟨rfl, ?_⟩
  show ({ s with
    stored := Function.update s.stored (s.meant name) (s.stored (s.meant name))
    logger := settings.configureLogging s.logger } : Clients ι) = _
  rw [Function.update_eq_self]

/-- Over any row of events a console is added once at most, and only where it was missing before. -/
theorem handlers_after (s : Clients ι) (events : List (Option ι × Event)) :
    (s.after events).logger.handlers = s.logger.handlers ++
      if events.any (·.2.configures) then missingConsole s.logger.handlers else [] := by
  induction events generalizing s with
  | nil => exact (List.append_nil _).symm
  | cons happening more ih =>
    obtain ⟨name, event⟩ := happening
    have hfirst : (s.react name event).2.logger.handlers = s.logger.handlers ++
        if event.configures then missingConsole s.logger.handlers else [] :=
      (s.situation name).handlers_react event
    calc ((s.react name event).2.after more).logger.handlers
      _ = (s.react name event).2.logger.handlers ++
          if more.any (·.2.configures) then missingConsole (s.react name event).2.logger.handlers
          else [] := ih _
      _ = s.logger.handlers ++
          if event.configures || more.any (·.2.configures) then missingConsole s.logger.handlers
          else [] := by
        rw [hfirst]
        cases event.configures with
        | false => rw [if_neg Bool.false_ne_true, List.append_nil, Bool.false_or]
        | true => rw [if_pos rfl, missingConsole_append, ite_self, List.append_nil, Bool.true_or,
            if_pos rfl]

/-- **The logger stays in order.** Whatever happens to whichever clients, the handlers that there
were at first stay in front, and behind them comes a console if there was none and the logger has
been set up since. Setting it up for a client, named or not, goes through, makes the logger follow
the settings of this client and changes nothing else. No other event touches it. -/
theorem logging_stable (start : Clients ι) (events : List (Option ι × Event)) :
    let initial := start.logger.handlers
    let now := start.after events
    now.logger.handlers = initial ++
      (if .console ∈ initial then []
        else if events.any (·.2.configures) then [.console] else []) ∧
    ∀ name event,
      let settings := (now.stored (now.meant name)).settings
      let (step, next) := now.react name event
      if event.configures then
        step.answer = .number settings.loggingLevel ∧
        next = { now with logger := next.logger } ∧
        next.logger.Follows settings
      else next.logger = now.logger := by
  intro initial now
  constructor
  · have hhandlers := start.handlers_after events
    rw [missingConsole] at hhandlers
    show (start.after events).logger.handlers = _
    rw [hhandlers]
    split <;> split <;> rfl
  · intro name event settings
    dsimp only
    by_cases hevent : event.configures
    · rw [if_pos hevent, Event.eq_of_configures hevent]
      obtain ⟨hanswer, hnext⟩ := now.react_configureLogging name
      rw [hnext]
      exact ⟨hanswer, rfl, settings.configureLogging_follows now.logger⟩
    · rw [if_neg hevent]
      have hlogger := (now.situation name).react_logger event
      rwa [if_neg hevent] at hlogger

/-- Two clients in turn, and then the shared one under its own name, whose level has changed. -/
example :
    let clients : Bool → StoredSettings := fun quiet =>
      ⟨.ofText "settings", { level := if quiet then .error else .debug }⟩
    let start : Clients Bool := ⟨clients, false, {}, { handlers := [.installed "file"] }⟩
    (start.after [(some true, .op .configureLogging), (none, .op .configureLogging),
      (none, .op (.setLevel (.str "info"))), (some false, .op .configureLogging)]).logger =
      ⟨some 20, [.installed "file", .console]⟩ := by
  decide

end Clients

end MonkeyScan
