import MonkeyScan.Console.Emoji.Names
import MonkeyScan.Text.Lower
import MonkeyScan.Text.Strip

/-!
# Emoji codes in a text

A console replaces a known name between two colons by its emoji. Codes are found from left to
right and do not overlap: a word between two colons is passed over as a whole when it names no
emoji. A name may ask for the text or the emoji form of its character.
-/
namespace MonkeyScan.Console

/-- Behind a colon, the word up to the next colon and what follows that; there is none if a
blank comes first. -/
def codeWord? : List Char → Option (List Char × List Char)
  | [] => none
  | c :: rest =>
    if c = ':' then some ([], rest)
    else if isStripped c then none
    else (codeWord? rest).map fun (word, after) => (c :: word, after)

theorem codeWord?_length_lt {s word after : List Char} (h : codeWord? s = some (word, after)) :
    after.length < s.length := by
  induction s generalizing word with
  | nil => simp [codeWord?] at h
  | cons c rest ih =>
    simp only [codeWord?] at h
    split at h
    · simp only [Option.some.injEq, Prod.mk.injEq] at h
      simp [h.2]
    · split at h
      · simp at h
      · obtain ⟨p, hp, he⟩ := Option.map_eq_some_iff.1 h
        simp only [Prod.mk.injEq] at he
        have : after.length < rest.length := @ih p.1 (by rw [hp, ← he.2])
        simp only [List.length_cons]
        omega

/-- A name with the form that is asked for behind it, as a variation selector. -/
def splitVariant (word : List Char) : List Char × List Char :=
  if "-emoji".toList.isSuffixOf word then (word.take (word.length - 6), ['\ufe0f'])
  else if "-text".toList.isSuffixOf word then (word.take (word.length - 5), ['\ufe0e'])
  else (word, [])

def shownCode (word : List Char) : List Char :=
  let (name, variant) := splitVariant word
  match emoji? (lower name) with
  | some emoji => emoji.toList ++ variant
  | none => ':' :: word ++ [':']

/-- A text with its emoji codes replaced. -/
def replaceEmoji : List Char → List Char
  | [] => []
  | c :: rest =>
    if c = ':' then
      match _h : codeWord? rest with
      | some (word, after) => shownCode word ++ replaceEmoji after
      | none => c :: replaceEmoji rest
    else c :: replaceEmoji rest
termination_by s => s.length
decreasing_by
  · have := codeWord?_length_lt _h
    simp only [List.length_cons]
    omega
  · simp
  · simp

end MonkeyScan.Console
