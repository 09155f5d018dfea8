import MonkeyScan.Json.Text

/-!
# Why a text is not JSON

A fault carries its cause and the offset it is found at; the message adds the line and column of
that offset. A whole number that is too long is a fault of its own.
-/
namespace MonkeyScan.Json

/-- What the reader found in place of what it needed. -/
inductive Cause
  | expectedValue
  | expectedName
  | expectedColon
  | expectedComma
  | extraData
  | byteOrderMark
  | text (fault : TextFault)
  deriving DecidableEq, Repr

/-- Why a text is not a JSON document. -/
inductive Fault
  | found (cause : Cause) (offset : Nat)
  | longInteger (digits : Nat)
  deriving DecidableEq, Repr

def Cause.message : Cause → String
  | .expectedValue => "Expecting value"
  | .expectedName => "Expecting property name enclosed in double quotes"
  | .expectedColon => "Expecting ':' delimiter"
  | .expectedComma => "Expecting ',' delimiter"
  | .extraData => "Extra data"
  | .byteOrderMark => "Unexpected UTF-8 BOM (decode using utf-8-sig)"
  | .text .unterminated => "Unterminated string starting at"
  | .text .controlCharacter => "Invalid control character at"
  | .text .badEscape => "Invalid \\escape"
  | .text .badUnit => "Invalid \\uXXXX escape"

/-- The most digits that a whole number may have. -/
def maxIntegerDigits : Nat := 4300

/-- The line and the column of an offset, both from 1. -/
def lineColumn (text : List Char) (offset : Nat) : Nat × Nat :=
  let before := text.take offset
  (1 + before.count '\n', 1 + (before.reverse.takeWhile (· ≠ '\n')).length)

def Fault.message (text : List Char) : Fault → String
  | .found cause offset =>
    let (line, column) := lineColumn text offset
    cause.message ++ ": line " ++ toString line ++ " column " ++ toString column ++
      " (char " ++ toString offset ++ ")"
  | .longInteger digits =>
    "Exceeds the limit (" ++ toString maxIntegerDigits ++
      " digits) for integer string conversion: value has " ++ toString digits ++
      " digits; use sys.set_int_max_str_digits() to increase the limit"

end MonkeyScan.Json
