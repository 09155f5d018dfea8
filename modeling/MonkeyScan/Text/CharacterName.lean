import MonkeyScan.Text.CharacterName.AToB
import MonkeyScan.Text.CharacterName.CToF
import MonkeyScan.Text.CharacterName.GToL
import MonkeyScan.Text.CharacterName.MToR
import MonkeyScan.Text.CharacterName.SToZ
import MonkeyScan.Text.Hex
import MonkeyScan.Text.Ranges

/-!
# Names of characters

The characters of Unicode 14 have names in capital letters, and some have further names. Ideographs
are named by their code points and Hangul syllables by their letters, exactly so; the other names
are written down in a tree and are known in either case.
-/
namespace MonkeyScan.CharacterName

/-- Where a walk along the tree of names is: at the start of an alternative, inside one that the
name follows, or inside one that it does not, by how many brackets were opened there. -/
inductive Walk
  | choose
  | follow
  | skip (depth : Nat)
  deriving DecidableEq, Repr

/-- Whether a name goes on as the rest of the tree says. Alternatives differ in their first
characters, so that the first one that fits is the only one. -/
def goesOn : Walk → List Char → List Char → Bool
  | .follow, name, [] => name.isEmpty
  | _, _, [] => false
  | .follow, name, c :: tree =>
    if c = '(' then goesOn .choose name tree
    else if c = '|' ∨ c = ')' then name.isEmpty
    else match name with
      | d :: rest => c == d && goesOn .follow rest tree
      | [] => false
  | .choose, name, c :: tree =>
    if c = '|' then name.isEmpty || goesOn .choose name tree
    else match name with
      | d :: rest =>
        if c = d then goesOn .follow rest tree else goesOn (.skip 0) name tree
      | [] => false
  | .skip depth, name, c :: tree =>
    if c = '(' then goesOn (.skip (depth + 1)) name tree
    else if c = ')' then
      match depth with
      | 0 => false
      | outer + 1 => goesOn (.skip outer) name tree
    else if c = '|' ∧ depth = 0 then goesOn .choose name tree
    else goesOn (.skip depth) name tree

/-- The trees of names, in pieces. -/
def trees : List (List String) := [aToB, cToF, gToL, mToR, sToZ]

/-- Whether a name in capital letters is in the trees. -/
def isListed (name : List Char) : Bool :=
  trees.any fun pieces => goesOn .choose name (pieces.flatMap String.toList)

/-- The closed ranges of the code points of the ideographs that are named by them. -/
def ideographRanges : List (Nat × Nat) := [
  (0x3400, 0x4dbf), (0x4e00, 0x9fff), (0x20000, 0x2a6df), (0x2a700, 0x2b738), (0x2b740, 0x2b81d),
  (0x2b820, 0x2cea1), (0x2ceb0, 0x2ebe0), (0x30000, 0x3134a)]

/-- What the name of an ideograph starts with. -/
def ideographStart : List Char := "CJK UNIFIED IDEOGRAPH-".toList

/-- Whether a text is the code point of an ideograph, in four or five capital digits. -/
def isIdeographNumber (digits : List Char) : Bool :=
  (digits.length == 4 || digits.length == 5) && digits.all (fun c => c.isDigit || c.isUpper) &&
    (hexNumber? digits).any (inRanges ideographRanges)

/-- What the name of a Hangul syllable starts with. -/
def syllableStart : List Char := "HANGUL SYLLABLE ".toList

/-- The names of the consonants that a syllable starts with. -/
def leadingConsonants : List String := [
  "G", "GG", "N", "D", "DD", "R", "M", "B", "BB", "S", "SS", "", "J", "JJ", "C", "K", "T", "P",
  "H"]

/-- The names of the vowels of syllables. -/
def syllableVowels : List String := [
  "A", "AE", "YA", "YAE", "EO", "E", "YEO", "YE", "O", "WA", "WAE", "OE", "YO", "U", "WEO", "WE",
  "WI", "YU", "EU", "YI", "I"]

/-- The names of the consonants that a syllable ends with. -/
def trailingConsonants : List String := [
  "", "G", "GG", "GS", "N", "NJ", "NH", "D", "L", "LG", "LM", "LB", "LS", "LT", "LP", "LH", "M",
  "B", "BS", "S", "SS", "NG", "J", "C", "K", "T", "P", "H"]

/-- What follows the longest of some names that a text starts with. -/
def afterLongest? (names : List String) (s : List Char) : Option (List Char) :=
  let fitting := (names.map String.toList).filter fun name => name.isPrefixOf s
  match fitting with
  | [] => none
  | first :: others =>
    let longest := others.foldl (fun a b => if a.length < b.length then b else a) first
    some (s.drop longest.length)

/-- Whether a text is the name of a syllable, from its letters on. -/
def isSyllable (letters : List Char) : Bool :=
  match afterLongest? leadingConsonants letters with
  | none => false
  | some rest =>
    match afterLongest? syllableVowels rest with
    | none => false
    | some ending => afterLongest? trailingConsonants ending == some []

/-- Whether some character has a name. -/
def isKnown (name : List Char) : Bool :=
  if syllableStart.isPrefixOf name then isSyllable (name.drop syllableStart.length)
  else if ideographStart.isPrefixOf name then isIdeographNumber (name.drop ideographStart.length)
  else isListed (name.map Char.toUpper)

end MonkeyScan.CharacterName
