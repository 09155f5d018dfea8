import MonkeyScan.Console.Literal.Fault
import MonkeyScan.Console.Literal.Position
import MonkeyScan.Text.CharacterName

/-!
# Text between quotes

Quoted text ends at the quote it starts with, on the same line, or with three quotes at the next
three of them. A backslash keeps the character behind it from ending the text. Escapes name
characters by their code points or names. Before they are judged, the characters beyond ASCII are
spelled out by escapes of their own, so that an offset counts the places of these.
-/
namespace MonkeyScan.Console.Literal

/-- Text between quotes: what it is made of, whether escapes count, whether it has places to be
filled in, where it starts, how many bytes come before its content, and whether three quotes
enclose it. -/
structure QuotedText where
  bytes : Bool := false
  raw : Bool := false
  formatted : Bool := false
  start : Position := ⟨1, 0⟩
  opening : Nat := 1
  isBlock : Bool := false
  content : List Char := []
  deriving DecidableEq, Repr

/-- What the letters before an opening quote say of a text, if they may stand there. -/
def QuotedText.ofPrefix? (letters : List Char) : Option QuotedText :=
  let flags := letters.map Char.toLower
  if String.ofList flags ∈ ["", "b", "r", "u", "f", "br", "rb", "fr", "rf"] then
    some { bytes := 'b' ∈ flags, raw := 'r' ∈ flags, formatted := 'f' ∈ flags }
  else none

/-- Content up to the closing quote and what follows that. Where the quote is missing, the line up
to there. -/
def closeLine (quote : Char) (line : Nat) : List Char → Except Nat (List Char × List Char)
  | [] => .error line
  | c :: rest =>
    if c = quote then .ok ([], rest)
    else if c = '\n' then .error line
    else if c = '\\' then
      match rest with
      | d :: more =>
        (closeLine quote (if d = '\n' then line + 1 else line) more).map
          fun (content, after) => (c :: d :: content, after)
      | [] => .error line
    else (closeLine quote line rest).map fun (content, after) => (c :: content, after)

/-- Content up to three closing quotes, with the same answer. -/
def closeBlock (quote : Char) (line : Nat) : List Char → Except Nat (List Char × List Char)
  | [] => .error line
  | c :: rest =>
    if [quote, quote, quote].isPrefixOf (c :: rest) then .ok ([], rest.drop 2)
    else if c = '\\' then
      match rest with
      | d :: more =>
        (closeBlock quote (if d = '\n' then line + 1 else line) more).map
          fun (content, after) => (c :: d :: content, after)
      | [] => .error line
    else
      (closeBlock quote (if c = '\n' then line + 1 else line) rest).map
        fun (content, after) => (c :: content, after)

/-- Whether three quotes enclose a text, its content behind an opening quote on a line, and what
follows it. -/
def closeQuote (quote : Char) (line : Nat) (s : List Char) :
    Except SyntaxFault (Bool × List Char × List Char) :=
  if [quote, quote].isPrefixOf s then
    ((closeBlock quote line (s.drop 2)).mapError .unterminatedBlock).map (true, ·)
  else ((closeLine quote line s).mapError .unterminated).map (false, ·)

def spelledBackslash : List Char := '\\' :: 'u' :: hexFixed 4 0x5c

/-- A character beyond ASCII as an escape. -/
def spelledChar (c : Char) : List Char := '\\' :: 'U' :: hexFixed 8 c.toNat

/-- A text with its characters beyond ASCII spelled out, and with the backslashes that have none to
escape. -/
def spelledOut : List Char → List Char
  | [] => []
  | c :: rest =>
    if 128 ≤ c.toNat then spelledChar c ++ spelledOut rest
    else if c = '\\' then
      match rest with
      | [] => spelledBackslash
      | d :: more =>
        if 128 ≤ d.toNat then spelledBackslash ++ spelledChar d ++ spelledOut more
        else c :: d :: spelledOut more
    else c :: spelledOut rest

/-- How many hexadecimal digits the letter of an escape asks for. -/
def escapeDigits? (letter : Char) : Option Nat :=
  match letter with
  | 'x' => some 2
  | 'u' => some 4
  | 'U' => some 8
  | _ => none

def digitsFault? (letter : Char) (count : Nat) (digits : List Char) : Option EscapeFault :=
  if digits.length < count then
    some (.cutShort (letter.toString ++ String.ofList (List.replicate count 'X')))
  else if 0x110000 ≤ (hexNumber? digits).getD 0 then some .beyondUnicode
  else none

/-- What is wrong with the name in an escape, from behind its letter, and how many places there
belong to the fault. -/
def nameFault? : List Char → Option (Nat × EscapeFault)
  | '\x7b' :: rest =>
    let name := rest.takeWhile (· ≠ '\x7d')
    if name.length = rest.length then some (name.length + 1, .noName)
    else if name = [] then some (1, .noName)
    else if CharacterName.isKnown name then none
    else some (name.length + 2, .unknownName)
  | _ => some (0, .noName)

def checkEscapes (place : Nat) : List Char → Except SyntaxFault Unit
  | '\\' :: letter :: rest =>
    match escapeDigits? letter with
    | some count =>
      let digits := (rest.take count).takeWhile fun d => (hexValue? d).isSome
      match digitsFault? letter count digits with
      | some why => .error (.badEscape place (place + 1 + digits.length) why)
      | none => checkEscapes (place + 2) rest
    | none =>
      if letter = 'N' then
        match nameFault? rest with
        | some (extent, why) => .error (.badEscape place (place + 1 + extent) why)
        | none => checkEscapes (place + 2) rest
      else checkEscapes (place + 2) rest
  | _ :: rest => checkEscapes (place + 1) rest
  | [] => .ok ()

def checkText (s : List Char) : Except SyntaxFault Unit :=
  checkEscapes 0 (spelledOut s)

def checkByteEscapes (offset : Nat) : List Char → Except SyntaxFault Unit
  | [] => .ok ()
  | c :: rest =>
    if c = '\\' then
      match rest with
      | [] => .ok ()
      | letter :: more =>
        if letter = 'x' ∧ ((more.take 2).takeWhile fun d => (hexValue? d).isSome).length < 2 then
          .error (.badByteEscape offset)
        else checkByteEscapes (offset + 2) more
    else checkByteEscapes (offset + 1) rest

/-- Judge the content of quoted text without places to be filled in. -/
def QuotedText.check (q : QuotedText) : Except SyntaxFault Unit :=
  if q.bytes then
    if q.content.any fun c => 128 ≤ c.toNat then .error .wideBytes
    else if q.raw then .ok ()
    else checkByteEscapes 0 q.content
  else if q.raw then .ok ()
  else checkText q.content

end MonkeyScan.Console.Literal
