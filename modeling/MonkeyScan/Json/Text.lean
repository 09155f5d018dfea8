import MonkeyScan.Text.Hex

/-!
# Texts inside JSON

A text is written between double quotes in ASCII. The quote, the backslash and the common
controls have short escapes; other controls and everything beyond ASCII are written by their
UTF-16 units. Reading undoes this: it collects plain characters and escaped units, and joins the
two units of a surrogate pair afterwards. A unit that belongs to no pair stands for no character
and is read as the replacement character; texts that keep such units are left out.
-/
namespace MonkeyScan.Json

/-- The escape of one UTF-16 unit. -/
def unitEscape (unit : Nat) : List Char :=
  '\\' :: 'u' :: hexFixed 4 unit

/-- A character as it is written between quotes. -/
def escapedChar (c : Char) : List Char :=
  let n := c.toNat
  if c = '"' then ['\\', '"']
  else if c = '\\' then ['\\', '\\']
  else if c = '\n' then ['\\', 'n']
  else if c = '\r' then ['\\', 'r']
  else if c = '\t' then ['\\', 't']
  else if n = 0x08 then ['\\', 'b']
  else if n = 0x0c then ['\\', 'f']
  else if 0x20 ≤ n ∧ n < 0x7f then [c]
  else if n < 0x10000 then unitEscape n
  else
    let v := n - 0x10000
    unitEscape (0xd800 + v / 0x400) ++ unitEscape (0xdc00 + v % 0x400)

/-- A text as it is written, quotes included. -/
def writtenText (text : String) : List Char :=
  '"' :: text.toList.flatMap escapedChar ++ ['"']

/-- What a written text is read into: a character, or an escaped UTF-16 unit. -/
inductive Piece
  | char (c : Char)
  | unit (n : Nat)
  deriving DecidableEq, Repr

/-- The character of an escape with one letter. -/
def shortEscape? : Char → Option Char
  | '"' => some '"'
  | '\\' => some '\\'
  | '/' => some '/'
  | 'b' => some '\x08'
  | 'f' => some '\x0c'
  | 'n' => some '\n'
  | 'r' => some '\r'
  | 't' => some '\t'
  | _ => none

/-- Whether two units make one character. -/
def isPair (high low : Nat) : Bool :=
  0xd800 ≤ high && high < 0xdc00 && 0xdc00 ≤ low && low < 0xe000

/-- The character of a unit on its own. -/
def unitChar (n : Nat) : Char :=
  if n.isValidChar then Char.ofNat n else '\ufffd'

/-- Join surrogate pairs. -/
def joined : List Piece → List Char
  | .unit high :: .unit low :: more =>
    if isPair high low then
      Char.ofNat (0x10000 + (high - 0xd800) * 0x400 + (low - 0xdc00)) :: joined more
    else unitChar high :: joined (.unit low :: more)
  | .unit n :: more => unitChar n :: joined more
  | .char c :: more => c :: joined more
  | [] => []

/-- Why a written text cannot be read. -/
inductive TextFault
  | unterminated
  | controlCharacter
  | badEscape
  | badUnit
  deriving DecidableEq, Repr

/-- Read behind the opening quote. The answer has the pieces, the rest behind the closing quote
and the offset of the rest; a fault has the offset it is found at. -/
def readPieces (offset : Nat) : List Char → Except (TextFault × Nat) (List Piece × List Char × Nat)
  | [] => .error (.unterminated, offset)
  | '"' :: rest => .ok ([], rest, offset + 1)
  | ['\\'] => .error (.unterminated, offset)
  | '\\' :: 'u' :: a :: b :: c :: d :: e :: rest =>
    match hexNumber? [a, b, c, d] with
    | none => .error (.badUnit, offset + 1)
    | some n =>
      (readPieces (offset + 6) (e :: rest)).map fun (ps, more) => (.unit n :: ps, more)
  | '\\' :: x :: rest =>
    if x = 'u' then .error (.badUnit, offset + 1)
    else match shortEscape? x with
      | none => .error (.badEscape, offset)
      | some c => (readPieces (offset + 2) rest).map fun (ps, more) => (.char c :: ps, more)
  | c :: rest =>
    if c.toNat < 0x20 then .error (.controlCharacter, offset)
    else (readPieces (offset + 1) rest).map fun (ps, more) => (.char c :: ps, more)

end MonkeyScan.Json
