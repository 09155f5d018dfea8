import MonkeyScan.Console.Breaking
import MonkeyScan.Console.Line

/-!
# Tables

A table has a title, a header and rows, and is as wide as it has to be. Where the console has not
that many columns, the widest columns of the table give way until it fits, and a cell is broken into
lines in its column, a word that is too long being cut at an ellipsis. Cells are aligned to the left
with one space on either side. Heavy lines frame the header and light ones the rows, and the title
is centred over the whole.
-/
namespace MonkeyScan.Console

/-- A table. Every row has as many cells as the header, and no cell holds a line end or a tab. -/
structure Table where
  title : String
  header : List String
  rows : List (List String)

namespace Table

def cellText (cell : String) : List Char :=
  dropControls cell.toList

/-- The widths of the columns, their spaces included, that leave room for every cell. -/
def columnWidths (t : Table) : List Nat :=
  (t.header :: t.rows).foldl
    (fun widths row => List.zipWith max widths (row.map fun cell => width (cellText cell) + 2))
    (t.header.map fun _ => 0)

/-- The width of the whole table, frame included. -/
def totalWidth (widths : List Nat) : Nat :=
  widths.foldr (fun w total => w + 1 + total) 1

/-- What one of some equal shares comes to, a half being rounded to the even neighbour. -/
def roundedShare (total shares : Nat) : Nat :=
  let (whole, rest) := (total / shares, total % shares)
  if 2 * rest < shares ∨ (2 * rest = shares ∧ whole % 2 = 0) then whole else whole + 1

/-- Take an excess off the columns of one width, of which `count` are left, and no more than a limit
off each. -/
def narrowed (widest limit : Nat) : (excess count : Nat) → List Nat → List Nat
  | _, _, [] => []
  | excess, count, w :: more =>
    if w = widest then
      let share := min limit (roundedShare excess count)
      (w - share) :: narrowed widest limit (excess - share) (count - 1) more
    else w :: narrowed widest limit excess count more

/-- Narrow the widest columns down to the next ones, until all fit or the steps are used up. -/
def collapsed (columns : Nat) : (steps : Nat) → List Nat → List Nat
  | 0, widths => widths
  | steps + 1, widths =>
    if totalWidth widths ≤ columns then widths
    else
      let excess := totalWidth widths - columns
      let widest := widths.foldl max 0
      let next := (widths.filter (· ≠ widest)).foldl max 0
      collapsed columns steps
        (narrowed widest (min excess (widest - next)) excess (widths.count widest) widths)

/-- The widths of the columns on a console; each step takes off at least one cell. -/
def shownWidths (t : Table) (columns : Nat) : List Nat :=
  let room := columns - (t.header.length + 1)
  let widths := t.columnWidths.map (min room)
  collapsed columns (totalWidth widths) widths

def rule (left fill joint right : Char) (widths : List Nat) : List Char :=
  left :: [joint].intercalate (widths.map fun w => List.replicate w fill) ++ [right]

/-- A line of a cell between its spaces. The padded text is measured once more, as its end may
swallow a space. -/
def paddedCell (cells : Nat) (line : List Char) : List Char :=
  if cells ≤ 2 then List.replicate cells ' '
  else ' ' :: pad (cells - 2) (pad (cells - 2) line) ++ [' ']

def cellLines (cells : Nat) (cell : String) : List (List Char) :=
  (brokenLines (cells - 2) .ellipsis (cellText cell)).map (paddedCell cells)

/-- Cells side by side between vertical lines. -/
def rowLine (bar : Char) (cells : List (List Char)) : List Char :=
  bar :: [bar].intercalate cells ++ [bar]

/-- The lines of a row; a cell with fewer of them is blank below. -/
def rowLines (bar : Char) (widths : List Nat) (row : List String) : List (List Char) :=
  let cells := List.zipWith cellLines widths row
  let height := (cells.map List.length).foldl max 0
  (List.range height).map fun i =>
    rowLine bar (List.zipWith (fun w lines => lines.getD i (List.replicate w ' ')) widths cells)

/-- A line of the title, centred. -/
def titleLine (total : Nat) (title : List Char) : List Char :=
  let left := (total - width title) / 2
  List.replicate left ' ' ++ title ++ List.replicate (total - left - width title) ' '

def lines (t : Table) (columns : Nat) : List (List Char) :=
  let widths := t.shownWidths columns
  let total := totalWidth widths
  (brokenLines total .fold t.title.toList).map (titleLine total) ++
  rule '┏' '━' '┳' '┓' widths :: rowLines '┃' widths t.header ++
  rule '┡' '━' '╇' '┩' widths :: t.rows.flatMap (rowLines '│' widths) ++
  [rule '└' '─' '┴' '┘' widths]

def text (t : Table) (columns : Nat) : String :=
  String.ofList ((t.lines columns).flatMap (· ++ ['\n']))

end Table

end MonkeyScan.Console
