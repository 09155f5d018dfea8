/-!
# Paths

A path is the class of its leading slashes and the list of its components. Empty components and
`"."` are dropped when a text is read, `".."` stays. Exactly two leading slashes are a class of
their own, three or more count as one. The text of a path is its canonical form.
-/
namespace MonkeyScan

/-- Where a path starts. -/
inductive Anchor
  | relative
  | root
  | doubleRoot
  deriving DecidableEq, Repr

/-- A path in canonical form. -/
structure Path where
  anchor : Anchor
  parts : List String
  deriving DecidableEq, Repr

/-- Why the environment leads to no path. -/
inductive PathFault
  | noHome
  | nullCharacter
  deriving DecidableEq, Repr

def PathFault.message : PathFault → String
  | .noHome => "Could not determine home directory."
  | .nullCharacter => "embedded null byte"

/-- The components of a text between its slashes, empty ones included. -/
def splitSlashes : List Char → List (List Char)
  | [] => [[]]
  | c :: rest =>
    if c = '/' then [] :: splitSlashes rest
    else match splitSlashes rest with
      | first :: more => (c :: first) :: more
      | [] => [[c]]

namespace Anchor

/-- The class of a text's leading slashes. -/
def ofText (text : List Char) : Anchor :=
  match (text.takeWhile (· = '/')).length with
  | 0 => relative
  | 2 => doubleRoot
  | _ => root

/-- How an anchor is written. -/
def text : Anchor → String
  | relative => ""
  | root => "/"
  | doubleRoot => "//"

end Anchor

namespace Path

/-- Whether a component takes part in a path. -/
def isPart (component : List Char) : Bool :=
  component ≠ [] && component ≠ ['.']

/-- The path that a text names. -/
def ofText (text : String) : Path :=
  ⟨.ofText text.toList, ((splitSlashes text.toList).filter isPart).map String.ofList⟩

/-- The canonical text; the empty relative path is the current directory. -/
def text (p : Path) : String :=
  if p.anchor = .relative ∧ p.parts = [] then "."
  else p.anchor.text ++ "/".intercalate p.parts

/-- The path without its last component; a path without components is its own parent. -/
def parent (p : Path) : Path :=
  { p with parts := p.parts.dropLast }

/-- The path with further components. -/
def append (p : Path) (parts : List String) : Path :=
  { p with parts := p.parts ++ parts }

/-- The home directory, whose trailing slashes do not count; nothing but slashes is the root. A
text that starts with a tilde names no directory. -/
def ofHome (home : String) : Except PathFault Path :=
  match (home.toList.reverse.dropWhile (· = '/')).reverse with
  | [] => .ok ⟨.root, []⟩
  | '~' :: _ => .error .noHome
  | kept => .ok (.ofText (String.ofList kept))

/-- A first component `"~"` of a relative path stands for the home directory. With more behind the
tilde it asks for the home of someone else, which is not known. -/
def expandHome (home : String) (p : Path) : Except PathFault Path :=
  match p.anchor, p.parts with
  | .relative, first :: more =>
    if first = "~" then (ofHome home).map (·.append more)
    else if first.toList.head? = some '~' then .error .noHome
    else .ok p
  | _, _ => .ok p

/-- Where the settings are kept: the file named by the environment, unless that is unset or
empty, and otherwise a file in the home directory. Neither can hold a null character. -/
def forSettings (named : Option String) (home : String) : Except PathFault Path :=
  if '\x00' ∈ (named.getD "").toList ∨ '\x00' ∈ home.toList then .error .nullCharacter
  else match named with
    | none | some "" => (ofHome home).map (·.append [".monkey", "config.json"])
    | some name => (ofText name).expandHome home

end Path

end MonkeyScan
