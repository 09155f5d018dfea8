import MonkeyScan.Console.Width
import MonkeyScan.Text.Strip

/-!
# Lines that are too long

A line that takes more cells than there are is broken between words. A word that needs more than a
whole line goes on in the next ones or is cut at an ellipsis. Blanks stay at the end of a line as far
as there is room for them.
-/
namespace MonkeyScan.Console

/-- A text with spaces up to a width behind it. -/
def pad (cells : Nat) (text : List Char) : List Char :=
  text ++ List.replicate (cells - width text) ' '

/-- What becomes of a word that is too long for a line. -/
inductive Overflow
  | fold
  | ellipsis
  deriving DecidableEq, Repr

/-- The words of a text with the blanks behind each, and those before the first. -/
def spacedWords (s : List Char) : List (List Char) :=
  match s.splitBy fun a b => !isStripped a || isStripped b with
  | lead :: word :: more =>
    if lead.all isStripped then (lead ++ word) :: more else lead :: word :: more
  | words => words

/-- The cells of a word without the blanks behind it. -/
def wordWidth (word : List Char) : Nat :=
  width (word.reverse.dropWhile isStripped).reverse

/-- The longest beginning of a text that takes no more cells; `part` belongs to it. -/
def fitting (cells : Nat) (part : List Char) : List Char → List Char
  | [] => part
  | c :: rest => if width (part ++ [c]) ≤ cells then fitting cells (part ++ [c]) rest else part

/-- A word in pieces that take no more cells, or one character each; `piece` was read before. -/
def foldWord (cells : Nat) (piece : List Char) : List Char → List (List Char)
  | [] => [piece]
  | c :: rest =>
    if piece = [] ∨ width (piece ++ [c]) ≤ cells then foldWord cells (piece ++ [c]) rest
    else piece :: foldWord cells [c] rest

/-- Lines of words, where `line` is begun. -/
def fillLines (cells : Nat) (overflow : Overflow) (line : List Char) :
    List (List Char) → List (List Char)
  | [] => [line]
  | word :: more =>
    if width line + wordWidth word ≤ cells then fillLines cells overflow (line ++ word) more
    else
      let before := if line = [] then [] else [line]
      if overflow = .fold ∧ cells < wordWidth word then
        let pieces := foldWord cells [] word
        before ++ pieces.dropLast ++ fillLines cells overflow (pieces.getLastD []) more
      else before ++ fillLines cells overflow word more

/-- A line without the blanks at its end for which there is no room. -/
def trimmed (cells : Nat) (line : List Char) : List Char :=
  line.take (max cells (line.length - (line.reverse.takeWhile isStripped).length))

def cutLine (cells : Nat) (overflow : Overflow) (line : List Char) : List Char :=
  if width line ≤ cells then line
  else match overflow with
    | .fold => pad cells (fitting cells [] line)
    | .ellipsis => pad (cells - 1) (fitting (cells - 1) [] line) ++ ['…']

/-- The lines that are shown of a text without line ends. -/
def brokenLines (cells : Nat) (overflow : Overflow) (s : List Char) : List (List Char) :=
  let lines := if width s ≤ cells then [s] else fillLines cells overflow [] (spacedWords s)
  lines.map fun line => cutLine cells overflow (trimmed cells line)

/-- Lines as a console with so many columns shows them. -/
def onScreen (columns : Nat) (text : List Char) : List Char :=
  (text.splitOn '\n').dropLast.flatMap fun line =>
    (brokenLines columns .fold line).flatMap (· ++ ['\n'])

end MonkeyScan.Console
