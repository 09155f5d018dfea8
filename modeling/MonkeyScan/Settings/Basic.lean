import MonkeyScan.Json.Value
import MonkeyScan.Level
import MonkeyScan.Log

/-!
# Settings

Settings are a log level and a prompt. Clients may offer any value for either; what is not a
level or not a text is refused with its cause and nothing changes. A logger is set up from
settings by giving it their threshold and, once, a console.
-/
namespace MonkeyScan

/-- The settings of a user. -/
structure Settings where
  level : Level := .off
  prompt : String := ">> "
  deriving DecidableEq, Repr

/-- Why an offered value is refused. -/
inductive SettingFault
  | collection (value : Json)
  | unknownLevel (value : Json)
  | promptNotText (value : Json)
  deriving Repr

def SettingFault.message : SettingFault → String
  | .collection value => "unhashable type: '" ++ value.typeName ++ "'"
  | .unknownLevel value => "unknown debug level: " ++ value.display
  | .promptNotText value => "prompt must be a string, not " ++ value.typeName

namespace Level

/-- The level that a value names. -/
def ofJson? : Json → Option Level
  | .str s => ofName? s
  | _ => none

end Level

/-- The level that is looked up for a value; collections cannot be looked up. -/
def lookupLevel (value : Json) : Except SettingFault (Option Level) :=
  match value with
  | .arr _ | .obj _ => .error (.collection value)
  | _ => .ok (Level.ofJson? value)

namespace Settings

/-- The settings with the level that a value names. -/
def setLevel (s : Settings) (value : Json) : Except SettingFault Settings := do
  match ← lookupLevel value with
  | some level => return { s with level }
  | none => throw (.unknownLevel value)

/-- The settings with a prompt. -/
def setPrompt (s : Settings) (value : Json) : Except SettingFault Settings :=
  match value with
  | .str prompt => .ok { s with prompt }
  | _ => .error (.promptNotText value)

/-- Whether messages at the level that a value names are shown; any other value counts as the
least severe one. -/
def shouldLog (s : Settings) (value : Json) : Except SettingFault Bool := do
  let level ← lookupLevel value
  return s.level.shows ((level.map Level.threshold).getD Severity.debug.number)

/-- The threshold that a logger takes from the settings. -/
def loggingLevel (s : Settings) : Nat :=
  s.level.threshold

/-- Set up a logger: it takes the threshold, and a console if it has none. -/
def configureLogging (s : Settings) (logger : Logger) : Logger where
  threshold := some s.loggingLevel
  handlers :=
    if .console ∈ logger.handlers then logger.handlers else logger.handlers ++ [.console]

end Settings

end MonkeyScan
