import MonkeyScan.Console.Literal.Number
import MonkeyScan.Console.Literal.Quotes
import MonkeyScan.Text.Identifier

/-!
# Symbols of an expression

A text falls into names, words of the notation, numbers, quoted texts and marks. Blanks and
comments separate them, a line end is a symbol outside brackets only, and a backslash at the end of
a line joins it to the next. Reading stops at the first fault. Some faults are noticed only by who
asks for the symbol in their place.
-/
namespace MonkeyScan.Console.Literal

inductive SymbolKind
  | name
  | word
  | number
  | quoted (q : QuotedText)
  | mark
  | lineEnd
  | indent
  | dedent
  | finish
  deriving DecidableEq, Repr

/-- Words that may follow a number at once and are looked at to their end for that. -/
def wordsBehindNumber : List String := ["and", "else", "for", "or", "not"]

/-- Whether the text ends where the end of a symbol is looked for, given what follows it. That of a
name, a number or a mark shows only by what comes next. Behind two quotes a third one is looked for,
and behind a number a word. -/
def SymbolKind.looksAtEnd (kind : SymbolKind) (rest : List Char) : Bool :=
  match kind with
  | name | word | mark | indent | dedent | finish => rest.isEmpty
  | number => rest.isEmpty || String.ofList rest ∈ wordsBehindNumber
  | quoted q => rest.isEmpty && q.content.isEmpty && !q.isBlock
  | lineEnd => false

/-- A symbol with its text, how many brackets are open behind it, the line and the columns it stands
at, and whether the text ended where its own end was looked for. -/
structure Symbol where
  kind : SymbolKind
  text : String
  depth : Nat
  line : Nat
  extent : Extent
  atEnd : Bool
  deriving DecidableEq, Repr

/-- Why the symbols end before the text does: the fault, whether it is noticed at once or only by
who asks for the next symbol, and the brackets that are open, last one first, with their lines. -/
structure Stop where
  fault : SyntaxFault
  atOnce : Bool
  opened : List (Char × Nat)
  deriving DecidableEq, Repr

def reservedWords : List String := [
  "False", "None", "True", "and", "as", "assert", "async", "await", "break", "class", "continue",
  "def", "del", "elif", "else", "except", "finally", "for", "from", "global", "if", "import", "in",
  "is", "lambda", "nonlocal", "not", "or", "pass", "raise", "return", "try", "while", "with",
  "yield"]

/-- The marks of three characters, and then those of two. -/
def longMarks : List String := [
  "**=", "//=", "<<=", ">>=", "!=", "%=", "&=", "**", "*=", "+=", "-=", "->", "//", "/=", ":=",
  "<<", "<=", "<>", "==", ">=", ">>", "@=", "^=", "|="]

/-- How many brackets may be open. -/
def deepest : Nat := 200

/-- The bracket that closes another. -/
def closingOf? (opening : Char) : Option Char :=
  match opening with
  | '(' => some ')'
  | '[' => some ']'
  | '\x7b' => some '\x7d'
  | _ => none

/-- Where the reading of symbols is: the rest of the text, its position, that of the whole text, the
brackets that are open, whether a line starts, whether that line has no symbols, the columns of the
levels of indentation, innermost first, and how many levels have ended without a symbol yet. For
these a column counts tabs up to every eighth place, and beside it stands what it is with tabs as
single places. -/
structure Place where
  rest : List Char
  position : Position
  origin : Position
  opened : List (Char × Nat) := []
  fresh : Bool := true
  blank : Bool := false
  indents : List (Nat × Nat) := []
  ended : Nat := 0

namespace Place

def past (p : Place) (text rest : List Char) : Place :=
  { p with rest, position := p.position.past text }

/-- Go on to where the rest of the text is a given one. -/
def upTo (p : Place) (rest : List Char) : Place :=
  p.past (p.rest.take (p.rest.length - rest.length)) rest

/-- The columns of a symbol that ends at a position. What starts on the first line and ends on
another one is placed as if that line had nothing before the text. -/
def extentTo (p : Place) (behind : Position) : Extent :=
  if p.position.line = p.origin.line ∧ behind.line ≠ p.origin.line then
    ⟨p.position.column - p.origin.column, behind.column⟩
  else ⟨p.position.column, behind.column⟩

def symbolTo (p behind : Place) (kind : SymbolKind) (text : List Char) : Symbol :=
  { kind, text := String.ofList text, depth := p.opened.length, line := p.position.line
    extent := p.extentTo behind.position, atEnd := kind.looksAtEnd behind.rest }

/-- A symbol, and the place behind it. -/
def emit (p : Place) (kind : SymbolKind) (text : List Char) (rest : List Char) :
    Except Stop (Option Symbol × Place) :=
  let behind := p.past text rest
  .ok (some (p.symbolTo behind kind text), behind)

/-- Stop with a fault that is noticed at once. -/
def refuse {α : Type} (p : Place) (fault : SyntaxFault) : Except Stop α :=
  .error ⟨fault, true, p.opened⟩

/-- Stop with a fault that is noticed by who asks for the next symbol. -/
def halt {α : Type} (p : Place) (fault : SyntaxFault) : Except Stop α :=
  .error ⟨fault, false, p.opened⟩

/-- Stop at the end of the text. -/
def haltAtEnd {α : Type} (p : Place) : Except Stop α :=
  match p.opened with
  | [] => p.halt .endsEarly
  | (opening, _) :: _ => p.halt (.neverClosed opening)

/-- Go on behind a backslash, where the line must end and another one must follow. -/
def joinLine (p : Place) (rest : List Char) : Except Stop Place :=
  match rest with
  | ['\n'] => p.haltAtEnd
  | '\n' :: next => .ok (p.past ['\\', '\n'] next)
  | _ => p.halt .strayBackslash

/-- Read text from its letters on, given what is behind its opening quote. -/
def readQuoted (p : Place) (q : QuotedText) (letters : List Char) (quote : Char) (s : List Char) :
    Except Stop (Option Symbol × Place) :=
  match closeQuote quote p.position.line s with
  | .error fault => p.refuse fault
  | .ok (isBlock, content, rest) =>
    let behind := p.upTo rest
    let start := ⟨p.position.line, (p.extentTo behind.position).start⟩
    let opening := letters.length + if isBlock then 3 else 1
    let kind := .quoted { q with start, opening, isBlock, content }
    .ok (some (p.symbolTo behind kind []), behind)

/-- Read a name, a reserved word, or the letters before a quote and the text behind it. -/
def readWord (p : Place) : Except Stop (Option Symbol × Place) :=
  let word := p.rest.takeWhile isNameChar
  let rest := p.rest.drop word.length
  let text := String.ofList word
  let name := match (if word.all (·.toNat < 128) then none else misplaced? word) with
    | some c => p.refuse (.badCharacter c)
    | none => p.emit (if text ∈ reservedWords then .word else .name) word rest
  match rest with
  | c :: after =>
    if c = '"' ∨ c = '\'' then
      match QuotedText.ofPrefix? word with
      | some q => p.readQuoted q word c after
      | none => name
    else name
  | [] => name

def readNumber (p : Place) : Except Stop (Option Symbol × Place) :=
  match afterNumber p.rest with
  | .error fault => p.refuse fault
  | .ok rest => p.emit .number (p.rest.take (p.rest.length - rest.length)) rest

def openBracket (p : Place) (c : Char) (rest : List Char) : Except Stop (Option Symbol × Place) :=
  if deepest ≤ p.opened.length then p.refuse .tooDeep
  else
    let inside := { p with opened := (c, p.position.line) :: p.opened }
    inside.emit .mark [c] rest

def closeBracket (p : Place) (c : Char) (rest : List Char) : Except Stop (Option Symbol × Place) :=
  match p.opened with
  | [] => p.refuse (.unmatched c)
  | (opening, line) :: outer =>
    if closingOf? opening = some c then
      let outside := { p with opened := outer }
      outside.emit .mark [c] rest
    else p.refuse (.mismatched c opening (if line = p.position.line then none else some line))

/-- Read a line end: a symbol, unless the line holds none or brackets are open. -/
def endLine (p : Place) (rest : List Char) : Except Stop (Option Symbol × Place) :=
  let next := { p.past ['\n'] rest with fresh := true }
  if p.blank ∨ p.opened ≠ [] then .ok (none, next)
  else .ok (some (p.symbolTo p .lineEnd []), next)

def readMark (p : Place) (c : Char) (rest : List Char) : Except Stop (Option Symbol × Place) :=
  match longMarks.find? fun m => m.toList.isPrefixOf p.rest with
  | some m =>
    (p.emit .mark m.toList (p.rest.drop m.length)).map fun (symbol, behind) =>
      (symbol.map fun s => { s with atEnd := s.atEnd && m.length < 3 }, behind)
  | none =>
    if (closingOf? c).isSome then p.openBracket c rest
    else if c ∈ [')', ']', '\x7d'] then p.closeBracket c rest
    else if isPrintable c then p.emit .mark [c] rest
    else p.refuse (.badCharacter c)

/-- Read one point or three of them. A second point is known not to be one of three only by what
follows it. -/
def readPoint (p : Place) (rest : List Char) : Except Stop (Option Symbol × Place) :=
  let (text, more, atEnd) := match rest with
    | '.' :: '.' :: more => (['.', '.', '.'], more, false)
    | _ => (['.'], rest, rest.isEmpty || rest = ['.'])
  (p.emit .mark text more).map fun (symbol, behind) =>
    (symbol.map fun s => { s with atEnd }, behind)

def readEnd (p : Place) : Except Stop (Option Symbol × Place) :=
  if p.opened = [] then p.emit .finish [] [] else p.haltAtEnd

def isSeparator (c : Char) : Bool :=
  c == ' ' || c == '\t' || c == '\x0c'

def deepestIndent : Nat := 100

/-- Read the blanks at the start of a line, from a column on. A form feed starts anew. Lines may be
joined there, and the column before the first backslash that is not at the margin counts, which is
`held`. The answer is the column, the same with tabs as single places, and what follows. -/
def readBlanks (p : Place) (column narrow held : Nat) :
    List Char → Except Stop (Nat × Nat × List Char)
  | [] => .ok (if held = 0 then column else held, if held = 0 then narrow else held, [])
  | c :: rest =>
    if c = ' ' then readBlanks p (column + 1) (narrow + 1) held rest
    else if c = '\t' then readBlanks p ((column / 8 + 1) * 8) (narrow + 1) held rest
    else if c = '\x0c' then readBlanks p 0 0 held rest
    else if c = '\\' then
      match rest with
      | '\n' :: next =>
        if next = [] then p.haltAtEnd
        else readBlanks p column narrow (if held = 0 then column else held) next
      | _ => p.halt .strayBackslash
    else
      .ok (if held = 0 then column else held, if held = 0 then narrow else held, c :: rest)

/-- Compare the indentation of a line with the levels there are. -/
def indent (p : Place) (column narrow : Nat) : Except Stop (Option Symbol × Place) :=
  let (top, topNarrow) := p.indents.headD (0, 0)
  if column = top then
    if narrow = topNarrow then .ok (none, p) else p.halt .mixedIndent
  else if top < column then
    if deepestIndent ≤ p.indents.length + 1 then p.halt .indentTooDeep
    else if narrow ≤ topNarrow then p.halt .mixedIndent
    else
      let inside := { p with indents := (column, narrow) :: p.indents }
      inside.emit .indent [] p.rest
  else
    let outer := p.indents.dropWhile fun level => column < level.1
    let (level, levelNarrow) := outer.headD (0, 0)
    if column ≠ level then p.halt .unevenDedent
    else if narrow ≠ levelNarrow then p.halt .mixedIndent
    else .ok (none, { p with indents := outer, ended := p.indents.length - outer.length })

/-- Read the start of a line. A line without symbols has no indentation, and neither has one inside
brackets. -/
def startLine (p : Place) : Except Stop (Option Symbol × Place) := do
  let (column, narrow, rest) ← p.readBlanks 0 0 0 p.rest
  let behind := { p.upTo rest with fresh := false, blank := false }
  if behind.rest.head?.any fun c => c == '#' || c == '\n' then
    return (none, { behind with blank := true })
  else if behind.opened ≠ [] then return (none, behind)
  else behind.indent column narrow

/-- One step of reading: a symbol or none, and the place behind. -/
def step (p : Place) : Except Stop (Option Symbol × Place) :=
  if p.fresh then p.startLine
  else if p.ended ≠ 0 then
    let next := { p with ended := p.ended - 1 }
    next.emit .dedent [] p.rest
  else match p.rest with
    | [] => p.readEnd
    | c :: rest =>
      if isSeparator c then .ok (none, p.past [c] rest)
      else if c = '#' then .ok (none, p.upTo (rest.dropWhile (· ≠ '\n')))
      else if isNameStart c then p.readWord
      else if c = '\n' then p.endLine rest
      else if c.isDigit ∨ c = '.' ∧ rest.head?.any Char.isDigit then p.readNumber
      else if c = '.' then p.readPoint rest
      else if c = '"' ∨ c = '\'' then p.readQuoted {} [] c rest
      else if c = '\\' then (p.joinLine rest).map fun next => (none, next)
      else p.readMark c rest

/-- The symbols from a place on, and why they end if that is not the end of the text. The number
bounds the steps. -/
def symbols : Nat → Place → List Symbol × Option Stop
  | 0, _ => ([], none)
  | steps + 1, p =>
    match p.step with
    | .error stop => ([], some stop)
    | .ok (none, next) => symbols steps next
    | .ok (some s, next) =>
      if s.kind = .finish then ([s], none)
      else
        let (more, stop) := symbols steps next
        (s :: more, stop)

end Place

/-- The symbols of a text that starts at a position, and why they end if that is not the end of the
text. Each character takes a step at most, and each line two more, one to start it and one for a
level of indentation that has ended. -/
def symbolsOf (origin : Position) (text : List Char) : List Symbol × Option Stop :=
  Place.symbols (3 * text.length + 3) { rest := text, position := origin, origin }

end MonkeyScan.Console.Literal
