import MonkeyScan.Text.Ranges

/-!
# Stripping a line

Before a line is compared with a command, the characters that show nothing are stripped from
both its ends: the ASCII blanks and separators, the next-line control and the Unicode spaces and
separators.
-/
namespace MonkeyScan

/-- The closed ranges of the code points that are stripped, in increasing order. -/
def strippedRanges : List (Nat × Nat) := [
  (0x9, 0xd), (0x1c, 0x20), (0x85, 0x85), (0xa0, 0xa0), (0x1680, 0x1680), (0x2000, 0x200a),
  (0x2028, 0x2029), (0x202f, 0x202f), (0x205f, 0x205f), (0x3000, 0x3000)]

/-- Whether a character is stripped from the ends of a line. -/
def isStripped (c : Char) : Bool :=
  inRanges strippedRanges c.toNat

theorem isStripped_of_visible {c : Char} (hlow : 0x20 < c.toNat) (hhigh : c.toNat < 0x85) :
    isStripped c = false := by
  have hranges : ∀ r ∈ strippedRanges, r.2 ≤ 0x20 ∨ 0x85 ≤ r.1 := by decide
  rw [← Bool.not_eq_true, isStripped, inRanges_iff]
  rintro ⟨r, hr, hfirst, hlast⟩
  have hapart := hranges r hr
  omega

/-- A text without the stripped characters at its ends. -/
def strip (s : List Char) : List Char :=
  ((s.dropWhile isStripped).reverse.dropWhile isStripped).reverse

end MonkeyScan
