import MonkeyScan.Command.Page
import MonkeyScan.File.Tree

/-!
# Reading the arguments

Arguments are read from left to right. One that starts with a dash and is longer than that names
an option, up to an equals sign; `"--"` ends the options. The program's own options come before
its command, the options of a command anywhere. An option that takes a value takes what follows
the equals sign, or else the next argument, whatever it looks like. Requests for help or the
version come first, then the values that were given are judged, then what is missing, and last
what is too much.
-/
namespace MonkeyScan.Command

inductive UsageFault
  | unknownSwitch (name : String)
  | noValueTaken (name : String)
  | valueMissing (name : String)
  | notALevel (name value : String)
  | missingCommand
  | unknownCommand (name : String)
  | fileMissing
  | fileNotFound (path : String)
  | fileIsDirectory (path : String)
  | tooMany (arguments : List String)
  deriving DecidableEq, Repr

def UsageFault.message : UsageFault → String
  | .unknownSwitch name => "No such option " ++ quoted name ++ "."
  | .noValueTaken name => "Option " ++ quoted name ++ " does not take a value."
  | .valueMissing name => "Option " ++ quoted name ++ " requires an argument."
  | .notALevel name value =>
    "Invalid value for " ++ quoted name ++ ": " ++ quoted value ++ " is not one of " ++
      ", ".intercalate (Level.all.map fun l => quoted l.name) ++ "."
  | .missingCommand => "Missing command."
  | .unknownCommand name => "No such command " ++ quoted name ++ "."
  | .fileMissing => "Missing argument 'FILE'."
  | .fileNotFound path => "Invalid value for 'FILE': File " ++ quoted path ++ " does not exist."
  | .fileIsDirectory path => "Invalid value for 'FILE': File " ++ quoted path ++ " is a directory."
  | .tooMany [argument] => "Got unexpected extra argument (" ++ argument ++ ")"
  | .tooMany arguments => "Got unexpected extra arguments (" ++ " ".intercalate arguments ++ ")"

/-- Whether the refusal recalls how the command is called. What is wrong about the value of an
option, there being one or not, is said on its own. -/
def UsageFault.recallsUsage : UsageFault → Bool
  | .noValueTaken _ | .valueMissing _ => false
  | _ => true

/-- Options as they were given, each with its value, and the arguments left over. -/
structure Parsed where
  given : List (Switch × String)
  rest : List String

/-- An option's name, and the value that an equals sign attaches to it. -/
def splitAttached (argument : String) : String × Option String :=
  let chars := argument.toList
  let name := String.ofList (chars.takeWhile (· ≠ '='))
  match chars.dropWhile (· ≠ '=') with
  | [] => (name, none)
  | _ :: value => (name, some (String.ofList value))

def isSwitch (argument : String) : Bool :=
  match argument.toList with
  | '-' :: _ :: _ => true
  | _ => false

/-- How an unknown option is named: in full after two dashes, by its first letter after one. -/
def unknownName (argument name : String) : String :=
  match argument.toList with
  | '-' :: '-' :: _ => name
  | chars => String.ofList (chars.take 2)

/-- Split arguments into options and the rest. Where options may not stand among other arguments
the first of those ends them. -/
def parseArguments (switches : List Switch) (among : Bool) :
    List String → Except UsageFault Parsed
  | [] => .ok ⟨[], []⟩
  | argument :: more =>
    if argument = "--" then .ok ⟨[], more⟩
    else if isSwitch argument then
      let (name, attached) := splitAttached argument
      match switches.find? fun s => s.name = name with
      | none => .error (.unknownSwitch (unknownName argument name))
      | some switch =>
        let add (value : String) (p : Parsed) : Parsed := ⟨(switch, value) :: p.given, p.rest⟩
        if switch.takesValue then
          match attached with
          | some value => (parseArguments switches among more).map (add value)
          | none =>
            match more with
            | value :: after => (parseArguments switches among after).map (add value)
            | [] => .error (.valueMissing name)
        else if attached.isSome then .error (.noValueTaken name)
        else (parseArguments switches among more).map (add "")
    else if among then
      (parseArguments switches among more).map fun p => ⟨p.given, argument :: p.rest⟩
    else .ok ⟨[], argument :: more⟩

namespace Parsed

/-- The first request for help or for the version. -/
def asked (p : Parsed) : Option Role :=
  (p.given.map fun g => g.1.role).find? fun r => r = .showHelp ∨ r = .showVersion

/-- The value of an option, the last one if it was repeated. -/
def value? (p : Parsed) (switch : Switch) : Option String :=
  p.given.reverse.lookup switch

def level? (p : Parsed) (switch : Switch) : Except UsageFault (Option Level) :=
  match p.value? switch with
  | none => .ok none
  | some value =>
    match Level.ofName? value with
    | some level => .ok (some level)
    | none => .error (.notALevel switch.name value)

end Parsed

/-- What the program is asked to do. -/
inductive Request
  | tokens (file : String)
  | check (file : String)
  | repl
  | config (level : Option Level) (prompt : Option String)
  deriving DecidableEq, Repr

inductive Reading
  | page (t : Topic)
  | version
  | noArguments
  | refused (t : Topic) (fault : UsageFault)
  | broken (fault : SystemFault)
  | request (override : Option Level) (r : Request)
  deriving DecidableEq, Repr

/-- A file argument that the files cannot be asked for, as it holds a null character. -/
def unaskable (name : Name) (p : Parsed) : Option SystemFault :=
  match name.takesFile, p.rest with
  | true, path :: _ => if '\x00' ∈ path.toList then some ⟨.nullCharacter, path⟩ else none
  | _, _ => none

/-- Judge a file argument by what stands at its path. -/
def judgeFile (files : FileTree) (path : String) : Except UsageFault String :=
  match files.node path with
  | .ok (.file _) => .ok path
  | .ok (.dir _) => .error (.fileIsDirectory path)
  | .error _ => .error (.fileNotFound path)

/-- A file argument and what is left behind it. -/
def takeFile (files : FileTree) (rest : List String) : Except UsageFault (String × List String) :=
  match rest with
  | [] => .error .fileMissing
  | path :: more => (judgeFile files path).map (·, more)

/-- The request of a command, and the arguments that are too much. -/
def requestOf (files : FileTree) (name : Name) (p : Parsed) :
    Except UsageFault (Request × List String) :=
  match name with
  | .tokens => (takeFile files p.rest).map fun (path, more) => (.tokens path, more)
  | .check => (takeFile files p.rest).map fun (path, more) => (.check path, more)
  | .repl => .ok (.repl, p.rest)
  | .config => (p.level? setLevelSwitch).map fun level =>
      (.config level (p.value? setPromptSwitch), p.rest)

def readCommand (files : FileTree) (override : Option Level) (name : Name)
    (arguments : List String) : Reading :=
  let topic := Topic.command name
  match parseArguments topic.switches true arguments with
  | .error fault => .refused topic fault
  | .ok p =>
    if p.asked.isSome then .page topic
    else match unaskable name p with
      | some fault => .broken fault
      | none =>
        match requestOf files name p with
        | .error fault => .refused topic fault
        | .ok (request, []) => .request override request
        | .ok (_, extra) => .refused topic (.tooMany extra)

/-- Read the program's own options: either they settle what to do, or they leave an override of
the level and a command with its arguments. -/
def readProgram (arguments : List String) : Reading ⊕ (Option Level × List String) :=
  match parseArguments Topic.program.switches false arguments with
  | .error fault => .inl (.refused .program fault)
  | .ok p =>
    match p.asked with
    | some .showVersion => .inl .version
    | some _ => .inl (.page .program)
    | none =>
      match p.level? overrideSwitch with
      | .error fault => .inl (.refused .program fault)
      | .ok override => .inr (override, p.rest)

/-- Read all arguments. An unknown command that looks like an option is read once more as one. -/
def readArguments (files : FileTree) (arguments : List String) : Reading :=
  if arguments = [] then .noArguments
  else match readProgram arguments with
    | .inl reading => reading
    | .inr (_, []) => .refused .program .missingCommand
    | .inr (override, command :: more) =>
      match Name.ofText? command with
      | some name => readCommand files override name more
      | none =>
        match if isSwitch command then readProgram (command :: more) else .inr (none, []) with
        | .inl reading => reading
        | .inr _ => .refused .program (.unknownCommand command)

end MonkeyScan.Command
