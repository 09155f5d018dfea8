import MonkeyScan.Scanner

/-!
# Diagnostics for illegal characters

A scan never fails; tools that want to report or stop on what it could not read turn illegal
tokens into diagnostics. A message shows the literal itself when all of it is printable and the
code point of the character otherwise, so a literal that is neither printable nor a single
character has no message.
-/
namespace MonkeyScan

/-- The hint that goes with every diagnostic made from a token. -/
def removalHint : String :=
  "Remove or replace this character with valid Monkey syntax."

/-- A report of an illegal character, with the place it was found at. -/
structure Diagnostic where
  message : String
  file : String := "<stdin>"
  line : Int := 0
  column : Int := 0
  suggestion : Option String := none
  deriving DecidableEq, Repr

/-- Why a token has no diagnostic: its literal is not a single character. -/
inductive DiagnosticFault
  | notOneCharacter (length : Nat)
  deriving DecidableEq, Repr

def DiagnosticFault.message : DiagnosticFault → String
  | .notOneCharacter length =>
    "ord() expected a character, but string of length " ++ toString length ++ " found"

namespace Diagnostic

/-- How a message names a literal. -/
def describeLiteral (literal : String) : Except DiagnosticFault String :=
  if literal.toList.all isPrintable then .ok ("'" ++ literal ++ "'")
  else match literal.toList with
    | [c] => .ok ("'\\x" ++ String.ofList (hexFixed (hexWidth c.toNat) c.toNat) ++ "'")
    | chars => .error (.notOneCharacter chars.length)

/-- The message for a literal. -/
def messageFor (literal : String) : Except DiagnosticFault String :=
  (describeLiteral literal).map ("Unexpected character " ++ ·)

/-- The diagnostic of a token; its kind is not looked at. -/
def ofToken (file : String) (t : Token) : Except DiagnosticFault Diagnostic :=
  (messageFor t.literal).map fun message =>
    ⟨message, file, t.line, t.column, some removalHint⟩

/-- The line by which a diagnostic is reported. -/
def display (d : Diagnostic) : String :=
  Scanner.place d.file d.line d.column ++ ": " ++ d.message

/-- The diagnostics of the illegal tokens of a list, in order; the first token that has none is
the answer's fault. -/
def collect (file : String) (tokens : List Token) : Except DiagnosticFault (List Diagnostic) :=
  (tokens.filter fun t => t.kind = .illegal).mapM (ofToken file)

end Diagnostic

end MonkeyScan
