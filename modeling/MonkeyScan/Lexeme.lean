import MonkeyScan.Token

/-!
# Lexemes

The characters of the language fall into letters, digits, blanks and symbols; any other character
is a lexeme of its own that belongs to no class. A lexeme is as long as it can be: a run of
letters or of digits, or an operator with the `'='` that follows it. Which lexeme a text starts
with depends on nothing before it.
-/
namespace MonkeyScan

/-- The letters of identifiers, ASCII letters and the underscore. -/
def isLetter (c : Char) : Bool :=
  ('a' ≤ c && c ≤ 'z') || ('A' ≤ c && c ≤ 'Z') || c == '_'

/-- The ASCII digits. -/
def isDigit (c : Char) : Bool :=
  '0' ≤ c && c ≤ '9'

/-- What may stand between lexemes. -/
def isBlank (c : Char) : Bool :=
  c == ' ' || c == '\t' || c == '\n' || c == '\r'

/-- The letter test on a whole text, by the order of texts: `"abc"` lies between `"a"` and `"z"`. -/
def isLetterText (s : String) : Bool :=
  ("a" ≤ s && s ≤ "z") || ("A" ≤ s && s ≤ "Z") || s == "_"

/-- The digit test on a whole text, by the order of texts. -/
def isDigitText (s : String) : Bool :=
  "0" ≤ s && s ≤ "9"

/-- The kind of a lexeme that is one character long and starts no longer one. -/
def symbolKind? : Char → Option Kind
  | '+' => some .plus
  | '-' => some .minus
  | '*' => some .asterisk
  | '/' => some .slash
  | '<' => some .lt
  | '>' => some .gt
  | '(' => some .lparen
  | ')' => some .rparen
  | '{' => some .lbrace
  | '}' => some .rbrace
  | ',' => some .comma
  | ';' => some .semicolon
  | _ => none

/-- The kinds of an operator that a following `'='` lengthens: alone, and with the `'='`. -/
def lengthened? : Char → Option (Kind × Kind)
  | '=' => some (.assign, .eq)
  | '!' => some (.bang, .notEq)
  | _ => none

/-- The kind and the characters of the lexeme that starts with `c` and may go on into `rest`. -/
def firstLexeme (c : Char) (rest : List Char) : Kind × List Char :=
  match lengthened? c, symbolKind? c with
  | some (alone, pair), _ => if rest.head? = some '=' then (pair, [c, '=']) else (alone, [c])
  | none, some kind => (kind, [c])
  | none, none =>
    if isLetter c then
      let word := c :: rest.takeWhile isLetter
      (lookupIdent (String.ofList word), word)
    else if isDigit c then (.int, c :: rest.takeWhile isDigit)
    else (.illegal, [c])

/-- Every lexeme has a first character. -/
theorem firstLexeme_length_pos (c : Char) (rest : List Char) :
    0 < (firstLexeme c rest).2.length := by
  unfold firstLexeme
  repeat' split
  all_goals simp

/-- The kind of a word is that of an identifier or of a reserved word. -/
theorem lookupIdent_mem (word : String) :
    lookupIdent word ∈ Kind.ident :: keywords.map Prod.snd := by
  unfold lookupIdent
  cases found : keywords.lookup word with
  | none => simp
  | some kind =>
    obtain ⟨before, after, split, -⟩ := List.lookup_eq_some_iff.1 found
    simp [split]

/-- A word is never classified as the end of a text. -/
theorem lookupIdent_ne_eof (word : String) : lookupIdent word ≠ .eof := by
  have all : ∀ kind ∈ Kind.ident :: keywords.map Prod.snd, kind ≠ .eof := by decide
  exact all _ (lookupIdent_mem word)

end MonkeyScan
