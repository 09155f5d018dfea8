import MonkeyScan.Json.Numeral

/-!
# Reading JSON

A recursive-descent reader over the characters of a text. Scalars are read first, then values,
items and fields by mutual recursion, and a whole text has nothing but space around its value.
`NaN` and the infinities are accepted. Recursion is bounded by twice the length of the text:
a value inside a collection is behind its bracket, and only the step from the items of a
collection to the first of them consumes nothing. So no text nests too deeply to be read here; that
an interpreter gives up at the depth of its own stack is left out.
-/
namespace MonkeyScan.Json

/-- The unread characters and the offset of the first. -/
structure Tail where
  rest : List Char
  offset : Nat

namespace Tail

/-- Leave `n` characters behind. -/
def drop (n : Nat) (t : Tail) : Tail :=
  ⟨t.rest.drop n, t.offset + n⟩

def isSpace (c : Char) : Bool :=
  c == ' ' || c == '\t' || c == '\n' || c == '\r'

def skipSpace (t : Tail) : Tail :=
  t.drop (t.rest.takeWhile isSpace).length

def fail {α : Type} (t : Tail) (cause : Cause) : Except Fault α :=
  .error (.found cause t.offset)

end Tail

/-- The values that are written as words. -/
def words : List (List Char × Json) := [
  ("null".toList, .null), ("true".toList, .bool true), ("false".toList, .bool false),
  ("NaN".toList, .float .nan), ("Infinity".toList, .float (.infinite false)),
  ("-Infinity".toList, .float (.infinite true))]

/-- A value that is neither a text nor a collection. -/
def readScalar (t : Tail) : Except Fault (Json × Tail) :=
  match words.find? fun w => w.1.isPrefixOf t.rest with
  | some (word, v) => .ok (v, t.drop word.length)
  | none =>
    match numeralAt t.rest with
    | some n => n.value.map (·, t.drop n.length)
    | none => t.fail .expectedValue

/-- A text, from its opening quote on. An unterminated one is reported at that quote. -/
def readText (t : Tail) : Except Fault (String × Tail) :=
  match readPieces (t.offset + 1) (t.rest.drop 1) with
  | .ok (pieces, rest, offset) => .ok (String.ofList (joined pieces), ⟨rest, offset⟩)
  | .error (.unterminated, _) => t.fail (.text .unterminated)
  | .error (fault, offset) => .error (.found (.text fault) offset)

mutual

/-- A value at the head of the text. -/
def readValue : Nat → Tail → Except Fault (Json × Tail)
  | 0, t => t.fail .expectedValue
  | fuel + 1, t =>
    match t.rest with
    | '"' :: _ => (readText t).map fun (s, after) => (.str s, after)
    | '[' :: _ =>
      let inside := (t.drop 1).skipSpace
      if inside.rest.head? = some ']' then .ok (.arr [], inside.drop 1)
      else (readItems fuel inside).map fun (items, after) => (.arr items, after)
    | '{' :: _ =>
      let inside := (t.drop 1).skipSpace
      if inside.rest.head? = some '}' then .ok (.obj [], inside.drop 1)
      else (readFields fuel inside).map fun (fields, after) => (.ofFields fields, after)
    | _ => readScalar t

/-- The items of an array, up to its closing bracket. -/
def readItems : Nat → Tail → Except Fault (List Json × Tail)
  | 0, t => t.fail .expectedValue
  | fuel + 1, t => do
    let (v, after) ← readValue fuel t
    let mark := after.skipSpace
    match mark.rest.head? with
    | some ']' => return ([v], mark.drop 1)
    | some ',' =>
      let (more, after) ← readItems fuel (mark.drop 1).skipSpace
      return (v :: more, after)
    | _ => mark.fail .expectedComma

/-- The fields of an object, up to its closing brace. -/
def readFields : Nat → Tail → Except Fault (List (String × Json) × Tail)
  | 0, t => t.fail .expectedName
  | fuel + 1, t => do
    if t.rest.head? ≠ some '"' then t.fail .expectedName
    let (name, after) ← readText t
    let colon := after.skipSpace
    if colon.rest.head? ≠ some ':' then colon.fail .expectedColon
    let (v, after) ← readValue fuel (colon.drop 1).skipSpace
    let mark := after.skipSpace
    match mark.rest.head? with
    | some '}' => return ([(name, v)], mark.drop 1)
    | some ',' =>
      let (more, after) ← readFields fuel (mark.drop 1).skipSpace
      return ((name, v) :: more, after)
    | _ => mark.fail .expectedComma

end

/-- The value of a whole text, with nothing but space around it. -/
def parse (text : List Char) : Except Fault Json := do
  let start : Tail := ⟨text, 0⟩
  if text.head? = some '\ufeff' then start.fail .byteOrderMark
  let (v, after) ← readValue (2 * text.length + 1) start.skipSpace
  let tail := after.skipSpace
  if tail.rest ≠ [] then tail.fail .extraData
  return v

end MonkeyScan.Json
