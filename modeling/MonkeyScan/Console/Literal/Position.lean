/-!
# Positions in a text

A position is a line and a column; lines count from one, and columns count bytes from the start of
the line.
-/
namespace MonkeyScan.Console.Literal

/-- A line and the bytes before a character on it. -/
structure Position where
  line : Nat
  column : Nat
  deriving DecidableEq, Repr

namespace Position

def pastChar (p : Position) (c : Char) : Position :=
  if c = '\n' then ⟨p.line + 1, 0⟩ else ⟨p.line, p.column + c.utf8Size⟩

def past (p : Position) (text : List Char) : Position :=
  text.foldl pastChar p

end Position

/-- The columns where something starts and where it ends. -/
structure Extent where
  start : Nat
  behind : Nat
  deriving DecidableEq, Repr, Inhabited

end MonkeyScan.Console.Literal
