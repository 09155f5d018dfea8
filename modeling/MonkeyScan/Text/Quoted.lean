import MonkeyScan.Text.Hex
import MonkeyScan.Text.Printable

/-!
# Quoted text

The quoted form of a text shows every character unambiguously on one line. Single quotes enclose
it, or double quotes if it holds single quotes and no double ones. Inside, the backslash, the
enclosing quote and the common controls have short escapes, and any other character that is not
printable is written by its code point in the shortest of three widths.
-/
namespace MonkeyScan

/-- The quote that encloses a text. -/
def quoteMark (text : List Char) : Char :=
  if '\'' ∈ text ∧ '"' ∉ text then '"' else '\''

/-- The escape of a character by its code point. -/
def codePointEscape (c : Char) : List Char :=
  let n := c.toNat
  if n < 0x100 then '\\' :: 'x' :: hexFixed 2 n
  else if n < 0x10000 then '\\' :: 'u' :: hexFixed 4 n
  else '\\' :: 'U' :: hexFixed 8 n

/-- A character as it stands between quotes of the given kind. -/
def quotedChar (mark c : Char) : List Char :=
  if c = '\\' then ['\\', '\\']
  else if c = mark then ['\\', mark]
  else if c = '\n' then ['\\', 'n']
  else if c = '\r' then ['\\', 'r']
  else if c = '\t' then ['\\', 't']
  else if isPrintable c then [c]
  else codePointEscape c

/-- The characters of the quoted form, quotes included. -/
def quotedChars (text : List Char) : List Char :=
  let mark := quoteMark text
  mark :: text.flatMap (quotedChar mark) ++ [mark]

/-- The quoted form of a text. -/
def quoted (text : String) : String :=
  String.ofList (quotedChars text.toList)

end MonkeyScan
