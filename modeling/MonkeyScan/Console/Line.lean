import MonkeyScan.Console.Width

/-!
# Printed text

Text is printed without the controls that would ring, erase or move, and with tabs filled up to
the next multiple of eight cells.
-/
namespace MonkeyScan.Console

/-- The controls that are not printed. -/
def isDropped (c : Char) : Bool :=
  let n := c.toNat
  n = 0x07 || n = 0x08 || (0x0b ≤ n && n ≤ 0x0d)

/-- A text without the controls that are not printed. -/
def dropControls (s : List Char) : List Char :=
  s.filter fun c => !isDropped c

/-- A text with its tabs filled up, from a column on; `part` was read since the last tab, last
character first. A tab is a space and as many more as lead to the next multiple of eight. -/
def expandTabs (column : Nat) (part : List Char) : List Char → List Char
  | [] => part.reverse
  | c :: rest =>
    if c = '\n' then part.reverse ++ '\n' :: expandTabs 0 [] rest
    else if c = '\t' then
      let shown := part.reverse ++ [' ']
      let reached := column + width shown
      let fill := (8 - reached % 8) % 8
      shown ++ List.replicate fill ' ' ++ expandTabs (reached + fill) [] rest
    else expandTabs column (c :: part) rest

/-- A text as it is printed, with a line feed behind it. -/
def printedLine (s : List Char) : List Char :=
  expandTabs 0 [] (dropControls s) ++ ['\n']

end MonkeyScan.Console
