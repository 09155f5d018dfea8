import MonkeyScan.Json.Fault
import MonkeyScan.Text.Hex
import MonkeyScan.Text.Printable

/-!
# Why a text is no expression

A text can fail to fall into symbols, its symbols can fail to form an expression, and an expression
may hold what its place does not allow. Each cause is told apart from the others, for the message
names the most specific one that is known.
-/
namespace MonkeyScan.Console.Literal

inductive NumberKind
  | decimal
  | hexadecimal
  | octal
  | binary
  | imaginary
  deriving DecidableEq, Repr

def NumberKind.name : NumberKind → String
  | .decimal => "decimal"
  | .hexadecimal => "hexadecimal"
  | .octal => "octal"
  | .binary => "binary"
  | .imaginary => "imaginary"

/-- What is wrong with an escape inside quotes. -/
inductive EscapeFault
  | cutShort (form : String)
  | beyondUnicode
  | noName
  | unknownName
  deriving DecidableEq, Repr

def EscapeFault.message : EscapeFault → String
  | .cutShort form => "truncated \\" ++ form ++ " escape"
  | .beyondUnicode => "illegal Unicode character"
  | .noName => "malformed \\N character escape"
  | .unknownName => "unknown Unicode character name"

/-- What is wrong with a place to be filled in. -/
inductive FieldFault
  | loneBrace
  | unclosed
  | backslash
  | comment
  | tooDeep
  | unmatched (bracket : Char)
  | mismatched (closing opening : Char)
  | unterminated
  | empty
  | emptyBefore (next : Char)
  | conversion
  | nestedTooDeep
  deriving DecidableEq, Repr

def FieldFault.message : FieldFault → String
  | .loneBrace => "f-string: single '\x7d' is not allowed"
  | .unclosed => "f-string: expecting '\x7d'"
  | .backslash => "f-string expression part cannot include a backslash"
  | .comment => "f-string expression part cannot include '#'"
  | .tooDeep => "f-string: too many nested parenthesis"
  | .unmatched bracket => "f-string: unmatched '" ++ bracket.toString ++ "'"
  | .mismatched closing opening =>
    "f-string: closing parenthesis '" ++ closing.toString ++
      "' does not match opening parenthesis '" ++ opening.toString ++ "'"
  | .unterminated => "f-string: unterminated string"
  | .empty => "f-string: empty expression not allowed"
  | .emptyBefore next => "f-string: expression required before '" ++ next.toString ++ "'"
  | .conversion => "f-string: invalid conversion character: expected 's', 'r', or 'a'"
  | .nestedTooDeep => "f-string: expressions nested too deeply"

/-- Why a text is no expression. A place to be filled in holds an expression of its own. -/
inductive SyntaxFault
  | badNumber (kind : NumberKind)
  | badDigit (digit : Char) (kind : NumberKind)
  | leadingZeros
  | longNumber (digits : Nat)
  | badCharacter (c : Char)
  | unterminated (line : Nat)
  | unterminatedBlock (line : Nat)
  | tooDeep
  | unmatched (closing : Char)
  | mismatched (closing opening : Char) (line : Option Nat)
  | neverClosed (opening : Char)
  | strayBackslash
  | endsEarly
  | badEscape (first last : Nat) (why : EscapeFault)
  | badByteEscape (offset : Nat)
  | wideBytes
  | mixedBytes
  | field (why : FieldFault)
  | inField (fault : SyntaxFault)
  | invalid
  | unexpectedIndent
  | unexpectedDedent
  | unevenDedent
  | mixedIndent
  | indentTooDeep
  | missingComma
  | missingElse
  | missingCall (name : String)
  | assignInstead
  | assignHere (what : String)
  | assignTo (what : String)
  | nameInstead (what : String)
  | assignArgument
  | positionalAfterKeyword
  | positionalAfterUnpacking
  | iterableAfterUnpacking
  | bareGenerator
  | missingKeyColon
  | missingKeyValue
  | starredValue
  | starredGroup
  | doubleStarredGroup
  | starredComprehension
  | unpackedComprehension
  | bareTarget
  | missingDefault
  | defaultNotLast
  | bracketedParameters
  | nothingBeforeSlash
  | secondSlash
  | slashAfterStar
  | slashBesideStar
  | nothingAfterStar
  | starDefault
  | secondStar
  | doubleStarDefault
  | afterDoubleStar
  deriving DecidableEq, Repr

namespace SyntaxFault

/-- The upper-case hexadecimal digits of a code point, four at least. -/
def codePoint (c : Char) : String :=
  let digits := (hexFixed 6 c.toNat).map Char.toUpper
  let extra := digits.take 2 |>.dropWhile (· = '0')
  "U+" ++ String.ofList (extra ++ digits.drop 2)

/-- Where an escape stands, by its first and last place. -/
def span (first last : Nat) : String :=
  if first = last then "byte 0x5c in position " ++ toString first
  else "bytes in position " ++ toString first ++ "-" ++ toString last

def message : SyntaxFault → String
  | badNumber kind => "invalid " ++ kind.name ++ " literal"
  | badDigit digit kind => "invalid digit '" ++ digit.toString ++ "' in " ++ kind.name ++ " literal"
  | leadingZeros =>
    "leading zeros in decimal integer literals are not permitted; " ++
      "use an 0o prefix for octal integers"
  | longNumber digits =>
    (Json.Fault.longInteger digits).message [] ++
      " - Consider hexadecimal for huge integer literals to avoid decimal conversion limits."
  | badCharacter c =>
    if isPrintable c then "invalid character '" ++ c.toString ++ "' (" ++ codePoint c ++ ")"
    else "invalid non-printable character " ++ codePoint c
  | unterminated line => "unterminated string literal (detected at line " ++ toString line ++ ")"
  | unterminatedBlock line =>
    "unterminated triple-quoted string literal (detected at line " ++ toString line ++ ")"
  | tooDeep => "too many nested parentheses"
  | unmatched closing => "unmatched '" ++ closing.toString ++ "'"
  | mismatched closing opening line =>
    "closing parenthesis '" ++ closing.toString ++ "' does not match opening parenthesis '" ++
      opening.toString ++ "'" ++
      match line with
      | some n => " on line " ++ toString n
      | none => ""
  | neverClosed opening => "'" ++ opening.toString ++ "' was never closed"
  | strayBackslash => "unexpected character after line continuation character"
  | endsEarly => "unexpected EOF while parsing"
  | badEscape first last why =>
    "(unicode error) 'unicodeescape' codec can't decode " ++ span first last ++ ": " ++ why.message
  | badByteEscape offset => "(value error) invalid \\x escape at position " ++ toString offset
  | wideBytes => "bytes can only contain ASCII literal characters"
  | mixedBytes => "cannot mix bytes and nonbytes literals"
  | field why => why.message
  | inField fault => "f-string: " ++ fault.message
  | invalid => "invalid syntax"
  | unexpectedIndent => "unexpected indent"
  | unexpectedDedent => "unexpected unindent"
  | unevenDedent => "unindent does not match any outer indentation level"
  | mixedIndent => "inconsistent use of tabs and spaces in indentation"
  | indentTooDeep => "too many levels of indentation"
  | missingComma => "invalid syntax. Perhaps you forgot a comma?"
  | missingElse => "expected 'else' after 'if' expression"
  | missingCall name =>
    "Missing parentheses in call to '" ++ name ++ "'. Did you mean " ++ name ++ "(...)?"
  | assignInstead => "invalid syntax. Maybe you meant '==' or ':=' instead of '='?"
  | assignHere what => "cannot assign to " ++ what ++ " here. Maybe you meant '==' instead of '='?"
  | assignTo what => "cannot assign to " ++ what
  | nameInstead what => "cannot use assignment expressions with " ++ what
  | assignArgument => "expression cannot contain assignment, perhaps you meant \"==\"?"
  | positionalAfterKeyword => "positional argument follows keyword argument"
  | positionalAfterUnpacking => "positional argument follows keyword argument unpacking"
  | iterableAfterUnpacking => "iterable argument unpacking follows keyword argument unpacking"
  | bareGenerator => "Generator expression must be parenthesized"
  | missingKeyColon => "':' expected after dictionary key"
  | missingKeyValue => "expression expected after dictionary key and ':'"
  | starredValue => "cannot use a starred expression in a dictionary value"
  | starredGroup => "cannot use starred expression here"
  | doubleStarredGroup => "cannot use double starred expression here"
  | starredComprehension => "iterable unpacking cannot be used in comprehension"
  | unpackedComprehension => "dict unpacking cannot be used in dict comprehension"
  | bareTarget => "did you forget parentheses around the comprehension target?"
  | missingDefault => "expected default value expression"
  | defaultNotLast => "non-default argument follows default argument"
  | bracketedParameters => "Lambda expression parameters cannot be parenthesized"
  | nothingBeforeSlash => "at least one argument must precede /"
  | secondSlash => "/ may appear only once"
  | slashAfterStar => "/ must be ahead of *"
  | slashBesideStar => "expected comma between / and *"
  | nothingAfterStar => "named arguments must follow bare *"
  | starDefault => "var-positional argument cannot have default value"
  | secondStar => "* argument may appear only once"
  | doubleStarDefault => "var-keyword argument cannot have default value"
  | afterDoubleStar => "arguments cannot follow var-keyword argument"

/-- Whether a fault is about a single symbol, before any grammar. -/
def isOfSymbol : SyntaxFault → Bool
  | badNumber _ | badDigit _ _ | leadingZeros | badCharacter _ | unterminated _
  | unterminatedBlock _ | tooDeep | unmatched _ | mismatched _ _ _ => true
  | _ => false

/-- A fault of a place to be filled in, as a fault of what surrounds it. What is already said of a
place further in and what is about a single symbol needs no more words. -/
def ofField : SyntaxFault → SyntaxFault
  | inField fault => inField fault
  | fault => if fault.isOfSymbol then fault else inField fault

end SyntaxFault

/-- Why nothing is read: a fault of the text, a fault whose place would be left of the field that it
is in, too many rules in each other, or too many expressions. -/
inductive ReadFault
  | fault (f : SyntaxFault)
  | unplaced
  | exhausted
  | tooHigh
  deriving DecidableEq, Repr

/-- What is said of a fault that is not one of the text. -/
def ReadFault.message : ReadFault → String
  | fault f => f.message
  | unplaced => "Negative size passed to PyUnicode_New"
  | exhausted => ""
  | tooHigh => "maximum recursion depth exceeded during ast construction"

end MonkeyScan.Console.Literal
