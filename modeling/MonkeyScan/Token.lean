import MonkeyScan.Text.Quoted

/-!
# Tokens

A token is a classified lexeme with the place of its first character. Its kind is known by a
label alone, so a kind that the scanner never produces can still be displayed and compared.
Places locate a token but take no part in its identity: `Token.same` looks at kind and literal.
-/
namespace MonkeyScan

/-- A token class, identified by its label. -/
structure Kind where
  label : String
  deriving DecidableEq, Repr, Inhabited

namespace Kind

def illegal : Kind := ⟨"ILLEGAL"⟩
def eof : Kind := ⟨"EOF"⟩

def ident : Kind := ⟨"IDENT"⟩
def int : Kind := ⟨"INT"⟩

def assign : Kind := ⟨"="⟩
def plus : Kind := ⟨"+"⟩
def minus : Kind := ⟨"-"⟩
def bang : Kind := ⟨"!"⟩
def asterisk : Kind := ⟨"*"⟩
def slash : Kind := ⟨"/"⟩
def lt : Kind := ⟨"<"⟩
def gt : Kind := ⟨">"⟩
def eq : Kind := ⟨"=="⟩
def notEq : Kind := ⟨"!="⟩

def comma : Kind := ⟨","⟩
def semicolon : Kind := ⟨";"⟩
def lparen : Kind := ⟨"("⟩
def rparen : Kind := ⟨")"⟩
def lbrace : Kind := ⟨"\x7b"⟩
def rbrace : Kind := ⟨"\x7d"⟩

def functionWord : Kind := ⟨"FUNCTION"⟩
def letWord : Kind := ⟨"LET"⟩
def trueWord : Kind := ⟨"TRUE"⟩
def falseWord : Kind := ⟨"FALSE"⟩
def ifWord : Kind := ⟨"IF"⟩
def elseWord : Kind := ⟨"ELSE"⟩
def returnWord : Kind := ⟨"RETURN"⟩

/-- Every kind of the language under the name by which clients refer to it. -/
def named : List (String × Kind) := [
  ("ILLEGAL", illegal), ("EOF", eof), ("IDENT", ident), ("INT", int),
  ("ASSIGN", assign), ("PLUS", plus), ("MINUS", minus), ("BANG", bang),
  ("ASTERISK", asterisk), ("SLASH", slash), ("LT", lt), ("GT", gt),
  ("EQ", eq), ("NOT_EQ", notEq), ("COMMA", comma), ("SEMICOLON", semicolon),
  ("LPAREN", lparen), ("RPAREN", rparen), ("LBRACE", lbrace), ("RBRACE", rbrace),
  ("FUNCTION", functionWord), ("LET", letWord), ("TRUE", trueWord), ("FALSE", falseWord),
  ("IF", ifWord), ("ELSE", elseWord), ("RETURN", returnWord)]

end Kind

/-- The reserved words with their kinds. -/
def keywords : List (String × Kind) := [
  ("fn", .functionWord), ("let", .letWord), ("true", .trueWord), ("false", .falseWord),
  ("if", .ifWord), ("else", .elseWord), ("return", .returnWord)]

/-- The kind of a word: its own if it is reserved, `Kind.ident` otherwise. -/
def lookupIdent (word : String) : Kind :=
  (keywords.lookup word).getD .ident

/-- A classified lexeme; `line` and `column` locate its first character, from 1. -/
structure Token where
  kind : Kind
  literal : String
  line : Int := 0
  column : Int := 0
  deriving DecidableEq, Repr, Inhabited

namespace Token

/-- Two tokens are the same lexeme when kind and literal agree, wherever they stand. -/
def same (a b : Token) : Bool :=
  a.kind == b.kind && a.literal == b.literal

theorem same_iff (a b : Token) : a.same b = true ↔ a.kind = b.kind ∧ a.literal = b.literal := by
  simp [same]

/-- The form printed by an interactive session. -/
def display (t : Token) : String :=
  "\x7bType:" ++ t.kind.label ++ " Literal:" ++ t.literal ++ "\x7d"

/-- The form that shows every part of a token, texts quoted. -/
def describe (t : Token) : String :=
  "Token(type=" ++ quoted t.kind.label ++ ", literal=" ++ quoted t.literal ++
    ", line=" ++ toString t.line ++ ", column=" ++ toString t.column ++ ")"

/-- The number of tokens left of `a` and `b` when sameness is taken for equality. -/
def distinctCount (a b : Token) : Nat :=
  if a.same b then 1 else 2

end Token

/-- An attempt to change what is fixed: a field of a token, or the table of reserved words. -/
inductive Change
  | setField (name : String)
  | deleteField (name : String)
  | setKeyword (word : String)
  deriving DecidableEq, Repr

/-- Every such attempt is refused, whether or not the name is known. -/
def Change.refusal : Change → String
  | .setField name => "cannot assign to field " ++ quoted name
  | .deleteField name => "cannot delete field " ++ quoted name
  | .setKeyword _ => "'mappingproxy' object does not support item assignment"

end MonkeyScan
