import MonkeyScan.Console.Color
import MonkeyScan.Text.Strip

/-!
# Styles

A style turns attributes on or off, sets the colours of the text and of what lies behind it, and
may link to an address. It is written by words in any order, of which a later one overrides an
earlier one, and two texts are the same style if they have the same normal form. A text that is no
style stands for itself, in lower case.
-/
namespace MonkeyScan.Console

/-- What a style may turn on or off. -/
inductive Attribute
  | bold
  | dim
  | italic
  | underline
  | blink
  | blink2
  | reverse
  | conceal
  | strike
  | underline2
  | frame
  | encircle
  | overline
  deriving DecidableEq, Repr

namespace Attribute

/-- The attributes in the order of the normal form. -/
def all : List Attribute :=
  [bold, dim, italic, underline, blink, blink2, reverse, conceal, strike, underline2, frame,
    encircle, overline]

def name : Attribute → String
  | bold => "bold"
  | dim => "dim"
  | italic => "italic"
  | underline => "underline"
  | blink => "blink"
  | blink2 => "blink2"
  | reverse => "reverse"
  | conceal => "conceal"
  | strike => "strike"
  | underline2 => "underline2"
  | frame => "frame"
  | encircle => "encircle"
  | overline => "overline"

def abbreviations : List (String × Attribute) := [
  ("b", bold), ("d", dim), ("i", italic), ("u", underline), ("r", reverse), ("c", conceal),
  ("s", strike), ("uu", underline2), ("o", overline)]

def ofName? (name : String) : Option Attribute :=
  match all.find? fun a => a.name = name with
  | some a => some a
  | none => abbreviations.lookup name

end Attribute

/-- A style; of the settings of an attribute the first one counts. -/
structure Style where
  attributes : List (Attribute × Bool) := []
  color : Option String := none
  background : Option String := none
  link : Option String := none
  deriving DecidableEq, Repr

def wordsOf (s : List Char) : List (List Char) :=
  let (last, words) := s.foldr (fun c (word, words) =>
    if isStripped c then ([], if word = [] then words else word :: words)
    else (c :: word, words)) (([], []) : List Char × List (List Char))
  if last = [] then words else last :: words

namespace Style

def words (s : Style) : List String :=
  let attributes := Attribute.all.flatMap fun a =>
    match s.attributes.lookup a with
    | some true => [a.name]
    | some false => ["not", a.name]
    | none => []
  let background := match s.background with
    | some color => ["on", color]
    | none => []
  let link := match s.link with
    | some address => ["link", address]
    | none => []
  attributes ++ s.color.toList ++ background ++ link

def text (s : Style) : String :=
  if s.words = [] then "none" else " ".intercalate s.words

/-- A style with what further words say, unless one of them says nothing of the kind. A word that
names a role takes the word behind it. -/
def add (s : Style) : List (List Char) → Except PartFault (Option Style)
  | [] => .ok (some s)
  | word :: more =>
    let name := String.ofList (lower word)
    if name = "on" then
      match more with
      | color :: after => do
        match ← readColor color with
        | some color => add { s with background := some color } after
        | none => return none
      | [] => .ok none
    else if name = "not" then
      match more with
      | turnedOff :: after =>
        match Attribute.ofName? (String.ofList turnedOff) with
        | some a => add { s with attributes := (a, false) :: s.attributes } after
        | none => .ok none
      | [] => .ok none
    else if name = "link" then
      match more with
      | address :: after => add { s with link := some (String.ofList address) } after
      | [] => .ok none
    else
      match Attribute.ofName? name with
      | some a => add { s with attributes := (a, true) :: s.attributes } more
      | none => do
        match ← readColor word with
        | some color => add { s with color := some color } more
        | none => return none

/-- The style that a text describes. -/
def ofText? (s : List Char) : Except PartFault (Option Style) :=
  if strip s = "none".toList then .ok (some {}) else add {} (wordsOf s)

/-- The form in which the names of styles are compared. -/
def normalForm (s : List Char) : Except PartFault String := do
  match ← ofText? s with
  | some style => return style.text
  | none => return String.ofList (lower (strip s))

end Style

end MonkeyScan.Console
