import MonkeyScan.Settings.Stored

/-!
# Operations on stored settings

Stored settings live amid files, which anyone may change at any time, and a logger. A client
works on them by operations. A refused or failed operation answers with its cause, and a refused
one leaves everything as it was.
-/
namespace MonkeyScan

/-- Stored settings amid the files and with the logger they may be set up for. -/
structure Situation where
  stored : StoredSettings
  files : FileTree
  logger : Logger := {}

namespace Situation

/-- What a client may do, and what may happen to the files. -/
inductive Op
  | load
  | save
  | setPath (text : String)
  | setLevel (value : Json)
  | setPrompt (value : Json)
  | shouldLog (value : Json)
  | loggingLevel
  | configureLogging
  | outside (files : FileTree)

/-- What an operation answers. -/
inductive Answer
  | nothing
  | done
  | flag (b : Bool)
  | number (n : Nat)
  | refused (fault : SettingFault)
  | failed (fault : SystemFault)

/-- An answer with the records that got through the logger and the situation it leaves. -/
structure Step where
  answer : Answer
  log : List Record := []
  after : Situation

/-- Make settings for a path amid files. -/
def start (path : Path) (files : FileTree) (logger : Logger) : Step :=
  let (stored, log) := StoredSettings.create path logger files
  ⟨.nothing, log, ⟨stored, files, logger⟩⟩

/-- Take new settings, unless they are refused. -/
def settle (s : Situation) : Except SettingFault Settings → Step
  | .ok settings => ⟨.nothing, [], { s with stored := { s.stored with settings } }⟩
  | .error fault => ⟨.refused fault, [], s⟩

/-- Do one operation. -/
def perform (s : Situation) : Op → Step
  | .load =>
    let (stored, log) := s.stored.load s.logger s.files
    ⟨.done, log, { s with stored }⟩
  | .save =>
    match s.stored.save s.files with
    | (.ok (), files) => ⟨.done, [], { s with files }⟩
    | (.error fault, files) => ⟨.failed fault, [], { s with files }⟩
  | .setPath text => ⟨.nothing, [], { s with stored := { s.stored with path := .ofText text } }⟩
  | .setLevel value => s.settle (s.stored.settings.setLevel value)
  | .setPrompt value => s.settle (s.stored.settings.setPrompt value)
  | .shouldLog value =>
    match s.stored.settings.shouldLog value with
    | .ok shown => ⟨.flag shown, [], s⟩
    | .error fault => ⟨.refused fault, [], s⟩
  | .loggingLevel => ⟨.number s.stored.settings.loggingLevel, [], s⟩
  | .configureLogging =>
    let logger := s.stored.settings.configureLogging s.logger
    ⟨.number s.stored.settings.loggingLevel, [], { s with logger }⟩
  | .outside files => ⟨.nothing, [], { s with files }⟩

end Situation

end MonkeyScan
