import MonkeyScan.Console.Literal.Expr
import MonkeyScan.Console.Literal.Quotes

/-!
# Text with places to be filled in

Formatted text falls into literal stretches and fields. A field stands in braces: an expression, an
equals sign to show it as written, a conversion and a format, of which only the expression must be
there. A format is formatted text again, with fields of its own, but none deeper. Outside formats a
brace is written twice to stand for itself. The expressions are read in the order of the text, each
as soon as its end is known.
-/
namespace MonkeyScan.Console.Literal

def isBrace (c : Char) : Bool :=
  c == '\x7b' || c == '\x7d'

/-- A literal stretch, whether a brace written twice ends it, and what follows. -/
structure Stretch where
  text : List Char
  doubled : Bool
  rest : List Char
  deriving DecidableEq, Repr

/-- Where the reading of a stretch is: in plain text, behind a backslash, where the name of a
character may open, or inside such a name. -/
inductive StretchPlace
  | plain
  | escaped
  | beforeName
  | name
  deriving DecidableEq, Repr

def Stretch.atBrace (inFormat : Bool) (text : List Char) (brace : Char) (rest : List Char) :
    Except FieldFault Stretch :=
  if inFormat then .ok ⟨text, false, brace :: rest⟩
  else if rest.head? = some brace then .ok ⟨text ++ [brace], true, rest.drop 1⟩
  else if brace = '\x7d' then .error .loneBrace
  else .ok ⟨text, false, brace :: rest⟩

/-- The stretch at the head of a text, given what was read of it, last character first. Braces in
the name of a character do not end it, where escapes count. -/
def readStretch (raw inFormat : Bool) (place : StretchPlace) (before : List Char) :
    List Char → Except FieldFault Stretch
  | [] => .ok ⟨before.reverse, false, []⟩
  | c :: rest =>
    match place with
    | .name => readStretch raw inFormat (if c = '\x7d' then .plain else .name) (c :: before) rest
    | .beforeName =>
      readStretch raw inFormat (if c = '\x7b' then .name else .plain) (c :: before) rest
    | .escaped =>
      if isBrace c then Stretch.atBrace inFormat before.reverse c rest
      else readStretch raw inFormat (if c = 'N' then .beforeName else .plain) (c :: before) rest
    | .plain =>
      if isBrace c then Stretch.atBrace inFormat before.reverse c rest
      else
        readStretch raw inFormat (if c = '\\' ∧ !raw then .escaped else .plain) (c :: before) rest

def deepestField : Nat := 200

/-- Whether a character starts what may follow the expression of a field. -/
def endsFieldText (c : Char) : Bool :=
  c ∈ ['!', ':', '\x7d', '=', '<', '>']

/-- Whether a bracket closes another. -/
def closes (closing opening : Char) : Bool :=
  (opening, closing) ∈ [('(', ')'), ('[', ']'), ('\x7b', '\x7d')]

/-- The text of the expression of a field and what follows it, given what was read of it, last
character first, the quote that is open, with whether it takes three to close it, and the brackets
that are open, last one first. -/
def readFieldText (before : List Char) (quote : Option (Char × Bool)) (opened : List Char)
    (s : List Char) : Except FieldFault (List Char × List Char) :=
  match s with
  | [] =>
    if quote.isSome then .error .unterminated
    else match opened with
      | bracket :: _ => .error (.unmatched bracket)
      | [] => .ok (before.reverse, [])
  | c :: rest =>
    if c = '\\' then .error .backslash
    else match quote with
      | some (mark, tripled) =>
        if c ≠ mark then readFieldText (c :: before) quote opened rest
        else if !tripled then readFieldText (c :: before) none opened rest
        else if [c, c].isPrefixOf rest then
          readFieldText (c :: c :: c :: before) none opened (rest.drop 2)
        else readFieldText (c :: before) quote opened rest
      | none =>
        if c = '\'' ∨ c = '"' then
          if [c, c].isPrefixOf rest then
            readFieldText (c :: c :: c :: before) (some (c, true)) opened (rest.drop 2)
          else readFieldText (c :: before) (some (c, false)) opened rest
        else if c = '#' then .error .comment
        else if c = '(' ∨ c = '[' ∨ c = '\x7b' then
          if deepestField ≤ opened.length then .error .tooDeep
          else readFieldText (c :: before) none (c :: opened) rest
        else if opened = [] ∧ endsFieldText c then
          if c ≠ ':' ∧ c ≠ '\x7d' ∧ rest.head? = some '=' then
            readFieldText ('=' :: c :: before) none opened (rest.drop 1)
          else if c = '<' ∨ c = '>' then readFieldText (c :: before) none opened rest
          else .ok (before.reverse, s)
        else if c = ')' ∨ c = ']' ∨ c = '\x7d' then
          match opened with
          | [] => .error (.unmatched c)
          | bracket :: outer =>
            if closes c bracket then readFieldText (c :: before) none outer rest
            else .error (.mismatched c bracket)
        else readFieldText (c :: before) none opened rest
termination_by s.length
decreasing_by all_goals (simp only [List.length_cons, List.length_drop]; omega)

def isFieldBlank (c : Char) : Bool :=
  c == ' ' || c == '\t' || c == '\n' || c == '\x0c'

/-- Whether a character is skipped behind the equals sign of a field. -/
def isSkipped (c : Char) : Bool :=
  c == ' ' || (0x9 ≤ c.toNat && c.toNat ≤ 0xd)

/-- What follows the equals sign of a field, if there is one, and the blanks behind it. -/
def afterShown (s : List Char) : List Char :=
  match s with
  | '=' :: rest => rest.dropWhile isSkipped
  | _ => s

def afterConversion (s : List Char) : Except FieldFault (List Char) :=
  match s with
  | ['!'] => .error .unclosed
  | '!' :: c :: rest => if c ∈ ['s', 'r', 'a'] then .ok rest else .error .conversion
  | _ => .ok s

/-- Why quoted text is refused: a fault of its own, or one of the expression of a field. A fault of
its own is at a place or else at the last symbol that was asked for. -/
inductive TextFault
  | own (fault : SyntaxFault) (place : Option Nat)
  | nested (fault : ReadFault)
  deriving DecidableEq, Repr

def TextFault.ofField (why : FieldFault) : TextFault :=
  .own (.field why) none

def readFieldExpr (judge : List Char → Except ReadFault Expr) (text rest : List Char) :
    Except TextFault Expr :=
  match rest with
  | [] => .error (.ofField .unclosed)
  | next :: _ =>
    if text.all isFieldBlank then
      .error (.ofField (if next = '\x7d' then .empty else .emptyBefore next))
    else (judge text).mapError .nested

mutual

/-- Read formatted text: its parts, and what follows it. Inside a format, it ends at a brace. The
numbers bound the steps and count the formats around the text; `judge` is for the expressions, each
with what follows the brace before it. -/
def readFormatted (judge : List Char → List Char → Except ReadFault Expr) (raw : Bool)
    (steps formats : Nat) (s : List Char) : Except TextFault (List Expr × List Char) :=
  match steps with
  | 0 => .error (.nested .exhausted)
  | steps + 1 => do
    let stretch ← (readStretch raw (formats ≠ 0) .plain [] s).mapError .ofField
    if !raw then (checkText stretch.text).mapError (.own · none)
    let literal := if stretch.text = [] then [] else [Expr.text]
    if stretch.doubled then
      let (parts, rest) ← readFormatted judge raw steps formats stretch.rest
      return (literal ++ parts, rest)
    else match stretch.rest with
      | '\x7b' :: inside =>
        let (field, after) ← readField judge raw steps formats inside
        let (parts, rest) ← readFormatted judge raw steps formats after
        return (literal ++ field :: parts, rest)
      | rest =>
        if formats ≠ 0 ∧ rest.head? ≠ some '\x7d' then throw (.ofField .unclosed)
        return (literal, rest)

/-- Read a field from behind its opening brace, and what follows it. -/
def readField (judge : List Char → List Char → Except ReadFault Expr) (raw : Bool)
    (steps formats : Nat) (s : List Char) : Except TextFault (Expr × List Char) :=
  match steps with
  | 0 => .error (.nested .exhausted)
  | steps + 1 => do
    if 2 ≤ formats then throw (.ofField .nestedTooDeep)
    let (text, ending) ← (readFieldText [] none [] s).mapError .ofField
    let e ← readFieldExpr (judge · s) text ending
    let shown := afterShown ending
    if shown = [] then throw (.ofField .unclosed)
    let converted ← (afterConversion shown).mapError .ofField
    let (format, rest) ← match converted with
      | [':'] => throw (.ofField .unclosed)
      | ':' :: format => do
        let (parts, rest) ← readFormatted judge raw steps (formats + 1) format
        pure ([Expr.formatted parts], rest)
      | rest => pure ([], rest)
    match rest with
    | '\x7d' :: after => return (.compound .field (e :: format), after)
    | _ => throw (.ofField .unclosed)

end

/-- Whether the line of a field ends before its expression starts. -/
def startsBlank (inside : List Char) : Bool :=
  (inside.dropWhile fun c => isFieldBlank c && c != '\n').head? = some '\n'

/-- The position of a field, given what follows its opening brace. One whose line ends before its
expression is placed where its line starts, or where the text does if it starts on the same one. -/
def QuotedText.fieldStart (q : QuotedText) (inside : List Char) : Position :=
  let content := { q.start with column := q.start.column + q.opening }
  let brace := content.past (q.content.take (q.content.length - inside.length - 1))
  if !startsBlank inside then brace
  else if brace.line = q.start.line then q.start
  else { brace with column := 0 }

/-- The parts of formatted text; `judge` is for the expressions in it, each with the position of its
field. -/
def QuotedText.parts (judge : Position → List Char → Except ReadFault Expr) (q : QuotedText) :
    Except TextFault (List Expr) := do
  let judgeIn (text inside : List Char) : Except ReadFault Expr := judge (q.fieldStart inside) text
  return (← readFormatted judgeIn q.raw (2 * q.content.length + 2) 0 q.content).1

/-- Where a fault of quoted text is. Characters that bytes cannot be are looked for in the text, the
rest when the text and all that is adjacent has been read. -/
def QuotedText.faultPlace? (q : QuotedText) : SyntaxFault → Option Nat
  | .wideBytes => some (q.start.column + 1)
  | _ => none

/-- The parts of adjacent quoted texts, which make one text. All are bytes or none is; for the first
one, `bytes` is not known. -/
def adjacentParts (judge : Position → List Char → Except ReadFault Expr) (bytes : Option Bool) :
    List QuotedText → Except TextFault (List Expr)
  | [] => .ok []
  | q :: more => do
    if !q.formatted then q.check.mapError fun fault => .own fault (q.faultPlace? fault)
    if bytes.any (· ≠ q.bytes) then throw (.own .mixedBytes none)
    let parts ← if q.formatted then q.parts judge else pure [.text]
    return parts ++ (← adjacentParts judge (some q.bytes) more)

def readAdjacent (judge : Position → List Char → Except ReadFault Expr)
    (adjacent : List QuotedText) : Except TextFault Expr := do
  let parts ← adjacentParts judge none adjacent
  return if adjacent.any QuotedText.formatted then .formatted parts else .text

end MonkeyScan.Console.Literal
