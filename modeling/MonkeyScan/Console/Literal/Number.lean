import MonkeyScan.Console.Literal.Fault

/-!
# Numbers in expressions

A number is decimal, with or without fraction, exponent and mark of the imaginary, or hexadecimal,
octal or binary behind a zero and a letter. Single underscores may stand between digits. What
follows a number must not look like a part of it, except for the words of operators.
-/
namespace MonkeyScan.Console.Literal

/-- Whether a character may stand in a word. Beyond ASCII all may, until the word is judged. -/
def isNameChar (c : Char) : Bool :=
  c.isAlphanum || c == '_' || 128 ≤ c.toNat

def isNameStart (c : Char) : Bool :=
  isNameChar c && !c.isDigit

/-- What follows further digits; there is none if an underscore is not between digits. -/
def afterDigits? : List Char → Option (List Char)
  | [] => some []
  | c :: rest =>
    if c.isDigit then afterDigits? rest
    else if c = '_' then
      match rest with
      | d :: more => if d.isDigit then afterDigits? more else none
      | [] => none
    else some (c :: rest)

/-- Whether a text starts with a word of an operator, which may stand right behind a number. -/
def startsOperator (s : List Char) : Bool :=
  ["if", "in", "is"].any (fun word => word.toList.isPrefixOf s) ||
  ["and", "else", "for", "or", "not"].any fun word =>
    word.toList.isPrefixOf s && !((s.drop word.length).head?.any isNameChar)

def endNumber (kind : NumberKind) (s : List Char) : Except SyntaxFault (List Char) :=
  if !startsOperator s && s.head?.any isNameChar then
    .error (.badNumber kind)
  else .ok s

/-- What follows a number that may still turn out to be imaginary. -/
def afterImaginary (s : List Char) : Except SyntaxFault (List Char) :=
  match s with
  | c :: rest => if c = 'j' ∨ c = 'J' then endNumber .imaginary rest else endNumber .decimal s
  | [] => .ok []

/-- What follows digits of a decimal number and what may come behind them. -/
def afterDecimal (next : List Char → Except SyntaxFault (List Char)) (s : List Char) :
    Except SyntaxFault (List Char) :=
  match afterDigits? s with
  | some rest => next rest
  | none => .error (.badNumber .decimal)

def afterExponent (s : List Char) : Except SyntaxFault (List Char) :=
  match s with
  | e :: rest =>
    if e = 'e' ∨ e = 'E' then
      let signed := rest.head?.any fun c => c == '+' || c == '-'
      let digits := if signed then rest.drop 1 else rest
      if digits.head?.any Char.isDigit then afterDecimal afterImaginary digits
      else if signed then .error (.badNumber .decimal)
      else endNumber .decimal s
    else afterImaginary s
  | [] => .ok []

def afterPoint (s : List Char) : Except SyntaxFault (List Char) :=
  if s.head?.any Char.isDigit then afterDecimal afterExponent s else afterExponent s

def afterWhole (s : List Char) : Except SyntaxFault (List Char) :=
  match s with
  | '.' :: rest => afterPoint rest
  | _ => afterExponent s

/-- What follows further digits of a base; otherwise the character in the place of a digit. -/
def afterBaseDigits (isBaseDigit : Char → Bool) : List Char → Except (Option Char) (List Char)
  | [] => .ok []
  | c :: rest =>
    if isBaseDigit c then afterBaseDigits isBaseDigit rest
    else if c = '_' then
      match rest with
      | d :: more => if isBaseDigit d then afterBaseDigits isBaseDigit more else .error (some d)
      | [] => .error none
    else .ok (c :: rest)

/-- What follows a number of a base other than ten, from behind its letter. -/
def afterBase (kind : NumberKind) (isBaseDigit : Char → Bool) (s : List Char) :
    Except SyntaxFault (List Char) := do
  let misplaced (c : Option Char) : SyntaxFault :=
    match c with
    | some d => if d.isDigit then .badDigit d kind else .badNumber kind
    | none => .badNumber kind
  let digits := if s.head? = some '_' then s.drop 1 else s
  if !digits.head?.any isBaseDigit then throw (misplaced digits.head?)
  let rest ← (afterBaseDigits isBaseDigit digits).mapError misplaced
  if rest.head?.any Char.isDigit then throw (misplaced rest.head?)
  endNumber kind rest

/-- What follows a number that starts with a zero, from behind that. A whole number has no other
digits then. -/
def afterZero (s : List Char) : Except SyntaxFault (List Char) :=
  let continued (c : Char) : Bool := c ∈ ['.', 'e', 'E', 'j', 'J']
  let decimal := afterDecimal (fun rest =>
    let digits := s.take (s.length - rest.length)
    if rest.head?.any continued then afterWhole rest
    else if digits.any (fun c => c ≠ '0' && c ≠ '_') then .error .leadingZeros
    else endNumber .decimal rest) s
  match s with
  | c :: rest =>
    if c = 'x' ∨ c = 'X' then afterBase .hexadecimal (fun d => (hexValue? d).isSome) rest
    else if c = 'o' ∨ c = 'O' then afterBase .octal (fun d => '0' ≤ d && d ≤ '7') rest
    else if c = 'b' ∨ c = 'B' then afterBase .binary (fun d => d == '0' || d == '1') rest
    else decimal
  | [] => decimal

def afterNumber (s : List Char) : Except SyntaxFault (List Char) :=
  match s with
  | '0' :: rest => afterZero rest
  | '.' :: rest => afterPoint rest
  | _ => afterDecimal afterWhole s

def isImaginary (number : List Char) : Bool :=
  number.getLast?.any fun c => c == 'j' || c == 'J'

/-- A decimal whole number has a greatest length. -/
def checkNumber (number : List Char) : Except SyntaxFault Unit :=
  let digits := number.filter (· ≠ '_')
  if digits.all Char.isDigit ∧ Json.maxIntegerDigits < digits.length then
    .error (.longNumber digits.length)
  else .ok ()

end MonkeyScan.Console.Literal
