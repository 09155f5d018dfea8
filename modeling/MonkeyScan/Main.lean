import MonkeyScan.Command.Run

/-!
# The program

The outer layer: it looks at the files that the arguments and the settings name, lets the library
decide, and carries out what was decided. An interactive session is held line by line.
-/
namespace MonkeyScan.Program

def placeText (place : List String) : String :=
  "/" ++ "/".intercalate place

/-- What stands at a place, as far as it can be read. -/
def look (place : List String) : IO (Option Node) := do
  try
    let bytes ← IO.FS.readBinFile (placeText place)
    return some (.file bytes.toList)
  catch e =>
    match e with
    | .noFileOrDirectory .. => return none
    | .inappropriateType _ code _ => return if code = 21 then some (.dir []) else none
    | _ => return none

/-- Look at every place that a path passes through, and add what is there to the tree. -/
def survey (tree : FileTree) (path : String) : IO FileTree := do
  let mut place := if path.toList.head? = some '/' then [] else tree.current
  let mut found := tree
  for component in (splitSlashes path.toList).map String.ofList do
    place := FileTree.enter place component
    if (found.root.get? place).isNone then
      if let some node ← look place then
        found := { found with root := found.root.put place node }
  return found

/-- Make the directories and write the file that a run has added on the way to a path. -/
def commit (before after : FileTree) (path : String) : IO Unit := do
  let mut place := if path.toList.head? = some '/' then [] else after.current
  for component in (splitSlashes path.toList).map String.ofList do
    place := FileTree.enter place component
    match before.root.get? place, after.root.get? place with
    | none, some (.dir _) => IO.FS.createDirAll (placeText place)
    | some (.file old), some (.file new) =>
      if old ≠ new then IO.FS.writeBinFile (placeText place) ⟨new.toArray⟩
    | none, some (.file new) => IO.FS.writeBinFile (placeText place) ⟨new.toArray⟩
    | _, _ => pure ()

def report (log : List Record) : IO Unit := do
  for r in log do
    IO.eprintln (r.severity.name ++ " " ++ r.source ++ ": " ++ r.text)

def carryOut (writes : List Session.Write) : IO Unit := do
  let output ← IO.getStdout
  for w in writes do
    match w with
    | .text s => output.putStr s
    | .flush => output.flush

/-- Hold a session over the standard input; `pending` has been read and not yet answered. -/
partial def converse (r : Command.Run) (pending : List Char) : IO Unit := do
  carryOut (Session.ask r.prompt)
  let text ← if pending.isEmpty then
      (fun s => unifyLineEnds s.toList) <$> (← IO.getStdin).getLine
    else pure pending
  if text.isEmpty then return
  let (line, more) := splitLine text
  match Session.respond r.sessionScanner line with
  | none => return
  | some (writes, log) =>
    report log
    carryOut writes
    converse r more

/-- Do what the arguments ask, on the files as they were found. -/
def proceed (r : Command.Run) (settingsPath : String) (arguments : List String) : IO UInt32 := do
  match Command.readArguments r.files arguments with
  | .request override .repl =>
    IO.print (r.shown Command.Run.greeting)
    converse (r.configure override) []
    return 0
  | reading =>
    let outcome := r.answer {} reading
    report outcome.log
    commit r.files outcome.files settingsPath
    IO.print outcome.out
    IO.eprint outcome.err
    if let some fault := outcome.fault then IO.eprintln fault.message
    return outcome.exit.toUInt32

def execute (arguments : List String) : IO UInt32 := do
  let home := (← IO.getEnv "HOME").getD "/"
  let columns := ((← IO.getEnv "COLUMNS").bind String.toNat?).getD 80
  let environment : Command.Environment :=
    { columns, settingsFile := ← IO.getEnv "MONKEY_CONFIG", home }
  let here := (← IO.FS.realPath ".").toString
  let mut files ← survey { current := (Path.ofText here).parts } here
  if let .ok path := Path.forSettings environment.settingsFile home then
    files ← survey files path.text
  for path in arguments do
    files ← survey files path
  match Command.Run.start environment files with
  | .error fault =>
    IO.eprintln fault.message
    return 1
  | .ok (r, log) =>
    report log
    proceed r r.stored.path.text arguments

end MonkeyScan.Program

def main (arguments : List String) : IO UInt32 :=
  MonkeyScan.Program.execute arguments
