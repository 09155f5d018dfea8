import MonkeyScan.File.Tree
import MonkeyScan.Json.Reader
import MonkeyScan.Settings.Basic
import MonkeyScan.Text.Lines
import MonkeyScan.Text.Utf8

/-!
# Settings kept in a file

The file holds a JSON object with the two settings. Reading is lenient: a missing file changes
nothing, what cannot be read or is not an object is ignored with a warning, and each setting is
taken on its own, its default standing in for a value of the wrong kind. Writing makes the
directories of the file and puts down exactly the two settings.
-/
namespace MonkeyScan

namespace Settings

/-- The text of the file. -/
def written (s : Settings) : List Char :=
  "\x7b\n  \"debug_level\": ".toList ++ Json.writtenText s.level.name ++
    ",\n  \"prompt\": ".toList ++ Json.writtenText s.prompt ++ "\n\x7d".toList

/-- Why a file is not a JSON document. -/
inductive Unreadable
  | system (fault : SystemFault)
  | encoding (fault : Utf8.Fault)
  | json (text : List Char) (fault : Json.Fault)

def Unreadable.message : Unreadable → String
  | .system fault => fault.message
  | .encoding fault => fault.message
  | .json text fault => fault.message text

/-- What is wrong with the file, or with a setting in it. -/
inductive Complaint
  | unreadable (path : String) (why : Unreadable)
  | notObject (path : String)
  | unknownLevel (value : Json)
  | promptNotText

def Complaint.message : Complaint → String
  | .unreadable path why => "ignoring unreadable config " ++ path ++ ": " ++ why.message
  | .notObject path => "ignoring config " ++ path ++ ": expected a JSON object"
  | .unknownLevel value => "unknown debug_level " ++ value.display ++ ", using 'none'"
  | .promptNotText => "prompt must be a string, using " ++ quoted ({} : Settings).prompt

/-- The source name of the warnings about a settings file. -/
def source : String := "monkey.config"

/-- The warning that a complaint is logged as. -/
def Complaint.record (c : Complaint) : Record :=
  ⟨.warning, source, c.message⟩

/-- The level after reading: the old one if the file has none, the default for a bad value. -/
def takeLevel (old : Level) : Option Json → Level × List Complaint
  | none => (old, [])
  | some value =>
    match Level.ofJson? value with
    | some level => (level, [])
    | none => (({} : Settings).level, [.unknownLevel value])

/-- The prompt after reading: the old one if the file has none, the default for a bad value. -/
def takePrompt (old : String) : Option Json → String × List Complaint
  | none => (old, [])
  | some (.str prompt) => (prompt, [])
  | some _ => (({} : Settings).prompt, [.promptNotText])

/-- The settings after reading a JSON value from the file of a path. -/
def takeJson (s : Settings) (path : String) (value : Json) : Settings × List Complaint :=
  match value with
  | .obj _ =>
    let (level, c₁) := takeLevel s.level (value.field? "debug_level")
    let (prompt, c₂) := takePrompt s.prompt (value.field? "prompt")
    (⟨level, prompt⟩, c₁ ++ c₂)
  | _ => (s, [.notObject path])

/-- The JSON value of a file's bytes: UTF-8 with any line ends. -/
def readBytes (bytes : List UInt8) : Except Unreadable Json := do
  let text ← match Utf8.decode bytes with
    | .ok text => pure (unifyLineEnds text)
    | .error fault => throw (.encoding fault)
  match Json.parse text with
  | .ok value => return value
  | .error fault => throw (.json text fault)

/-- The settings after reading the file of a path, and the complaints about it. -/
def loadFrom (s : Settings) (path : String) (files : FileTree) : Settings × List Complaint :=
  match files.read path with
  | .error .noEntry => (s, [])
  | .error fault => (s, [.unreadable path (.system ⟨fault, path⟩)])
  | .ok bytes =>
    match readBytes bytes with
    | .error why => (s, [.unreadable path why])
    | .ok value => s.takeJson path value

end Settings

/-- Settings with the path of the file that they are kept in. -/
structure StoredSettings where
  path : Path
  settings : Settings := {}
  deriving DecidableEq, Repr

namespace StoredSettings

/-- The settings after reading the file, and the records that get through the logger. -/
def load (c : StoredSettings) (logger : Logger) (files : FileTree) : StoredSettings × List Record :=
  let (settings, complaints) := c.settings.loadFrom c.path.text files
  ({ c with settings }, logger.filter (complaints.map Settings.Complaint.record))

/-- Default settings, and then what the file of a path says. -/
def create (path : Path) (logger : Logger) (files : FileTree) : StoredSettings × List Record :=
  load ⟨path, {}⟩ logger files

/-- Write the file. The tree is the one left behind, also by a failure. -/
def save (c : StoredSettings) (files : FileTree) : Except SystemFault Unit × FileTree :=
  files.store c.path (Utf8.encode c.settings.written)

end StoredSettings

end MonkeyScan
