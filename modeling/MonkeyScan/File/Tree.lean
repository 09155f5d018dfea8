import MonkeyScan.File.Path
import MonkeyScan.Text.Quoted

/-!
# Files and directories

A tree of directories and files with a current directory. A text is followed component by
component: every component, the empty one and `"."` included, needs a directory to start from,
and `".."` goes up. Names and whole texts have a greatest length, and none has a null character.
Directories are made from the outermost on, so a failure may leave some of them behind; nothing else
is changed by a failure.
-/
namespace MonkeyScan

/-- A file with its bytes, or a directory with its entries. -/
inductive Node
  | file (bytes : List UInt8)
  | dir (entries : List (String × Node))
  deriving Repr, Inhabited

/-- Why the files refuse an operation. -/
inductive FileFault
  | noEntry
  | exists
  | notDirectory
  | isDirectory
  | nameTooLong
  | nullCharacter
  deriving DecidableEq, Repr

/-- The number and the text of a fault; a null character is refused before the files are asked. -/
def FileFault.numbered : FileFault → Option (Nat × String)
  | .noEntry => some (2, "No such file or directory")
  | .exists => some (17, "File exists")
  | .notDirectory => some (20, "Not a directory")
  | .isDirectory => some (21, "Is a directory")
  | .nameTooLong => some (36, "File name too long")
  | .nullCharacter => none

/-- A fault with the path it concerns. -/
structure SystemFault where
  fault : FileFault
  path : String
  deriving DecidableEq, Repr

def SystemFault.message (f : SystemFault) : String :=
  match f.fault.numbered with
  | some (number, text) => "[Errno " ++ toString number ++ "] " ++ text ++ ": " ++ quoted f.path
  | none => "embedded null byte"

namespace Node

/-- The entry of a name replaced, or added at the end. -/
def setEntry (entries : List (String × Node)) (name : String) (node : Node) :
    List (String × Node) :=
  match entries with
  | [] => [(name, node)]
  | (n, old) :: more => if n = name then (n, node) :: more else (n, old) :: setEntry more name node

/-- The node that a list of names leads to. -/
def get? : Node → List String → Option Node
  | node, [] => some node
  | .file _, _ :: _ => none
  | .dir entries, name :: more =>
    match entries.lookup name with
    | some node => node.get? more
    | none => none

/-- The tree with a node put where a list of names leads. -/
def put : Node → List String → Node → Node
  | _, [], new => new
  | .file bytes, _ :: _, _ => .file bytes
  | .dir entries, name :: more, new =>
    .dir (setEntry entries name (((entries.lookup name).getD (.dir [])).put more new))

end Node

/-- All files, and the directory that relative paths start from. -/
structure FileTree where
  root : Node := .dir []
  current : List String := []
  deriving Repr

namespace FileTree

/-- The place that a component leads to. -/
def enter (place : List String) (component : String) : List String :=
  if component = "" ∨ component = "." then place
  else if component = ".." then place.dropLast
  else place ++ [component]

/-- The most bytes that the name of a file may have. -/
def longestName : Nat := 255

/-- The most bytes that a text may have. -/
def longestText : Nat := 4095

/-- Follow components from a place. The last one need not exist. -/
def follow (t : FileTree) (place : List String) : List String → Except FileFault (List String)
  | [] => .ok place
  | component :: more =>
    match t.root.get? place with
    | none => .error .noEntry
    | some (.file _) => .error .notDirectory
    | some (.dir _) =>
      if longestName < component.utf8ByteSize then .error .nameTooLong
      else t.follow (enter place component) more

/-- The place that a text leads to. -/
def locate (t : FileTree) (path : String) : Except FileFault (List String) :=
  if '\x00' ∈ path.toList then .error .nullCharacter
  else if path = "" then .error .noEntry
  else if longestText < path.utf8ByteSize then .error .nameTooLong
  else
    let start := if path.toList.head? = some '/' then [] else t.current
    t.follow start ((splitSlashes path.toList).map String.ofList)

/-- What stands where a text leads. -/
def node (t : FileTree) (path : String) : Except FileFault Node := do
  let place ← t.locate path
  match t.root.get? place with
  | some node => return node
  | none => throw .noEntry

/-- Whether a text leads to a directory. -/
def isDir (t : FileTree) (path : String) : Bool :=
  match t.node path with
  | .ok (.dir _) => true
  | _ => false

/-- The bytes of a file. -/
def read (t : FileTree) (path : String) : Except FileFault (List UInt8) := do
  match ← t.node path with
  | .file bytes => return bytes
  | .dir _ => throw .isDirectory

/-- The tree with a file written, in a directory that is there. -/
def write (t : FileTree) (path : String) (bytes : List UInt8) : Except FileFault FileTree := do
  let place ← t.locate path
  match t.root.get? place with
  | some (.dir _) => throw .isDirectory
  | _ => return { t with root := t.root.put place (.file bytes) }

/-- The tree with one more directory. -/
def makeDir (t : FileTree) (path : String) : Except FileFault FileTree := do
  let place ← t.locate path
  match t.root.get? place with
  | some _ => throw .exists
  | none => return { t with root := t.root.put place (.dir []) }

/-- Make a directory unless it is there. -/
def ensureDir (t : FileTree) (path : String) : Except SystemFault FileTree :=
  match t.makeDir path with
  | .ok after => .ok after
  | .error fault => if fault ≠ .noEntry ∧ t.isDir path then .ok t else .error ⟨fault, path⟩

/-- Make a directory and all that it lies in, unless they are there. The tree is the one left
behind, also by a failure. -/
def makeDirs (t : FileTree) (p : Path) : Except SystemFault Unit × FileTree :=
  match t.ensureDir p.text with
  | .ok after => (.ok (), after)
  | .error fault =>
    if fault.fault = .noEntry ∧ p.parts ≠ [] then
      match t.makeDirs p.parent with
      | (.ok (), outer) =>
        match outer.ensureDir p.text with
        | .ok after => (.ok (), after)
        | .error fault => (.error fault, outer)
      | failed => failed
    else (.error fault, t)
termination_by p.parts.length
decreasing_by
  rename_i h
  have := List.length_pos_iff.2 h.2
  simp only [Path.parent, List.length_dropLast]
  omega

/-- Write a file at a path, making its directories first. -/
def store (t : FileTree) (p : Path) (bytes : List UInt8) : Except SystemFault Unit × FileTree :=
  match t.makeDirs p.parent with
  | (.ok (), made) =>
    match made.write p.text bytes with
    | .ok after => (.ok (), after)
    | .error fault => (.error ⟨fault, p.text⟩, made)
  | failed => failed

end FileTree

end MonkeyScan
