import MonkeyScan.Text.Hex
import Mathlib.Algebra.Group.Nat.Defs

/-!
# Reading hexadecimal numbers back

A number is written by its last digits, from the most significant on, and a number is read by
taking one digit after the other. So what is read is the number up to the digits left out.
-/
namespace MonkeyScan

theorem hexValue?_hexDigit {n : Nat} (h : n < 16) : hexValue? (hexDigit n) = some n := by
  have hall : ∀ n < 16, hexValue? (hexDigit n) = some n := by decide
  exact hall n h

/-- Digits are visible ASCII characters. -/
theorem hexDigit_printable {n : Nat} (h : n < 16) :
    0x20 ≤ (hexDigit n).toNat ∧ (hexDigit n).toNat < 0x7f := by
  have hall : ∀ n < 16, 0x20 ≤ (hexDigit n).toNat ∧ (hexDigit n).toNat < 0x7f := by decide
  exact hall n h

theorem mem_hexFixed {width n : Nat} {c : Char} (h : c ∈ hexFixed width n) :
    ∃ d < 16, c = hexDigit d := by
  induction width generalizing n with
  | zero => simp [hexFixed] at h
  | succ width ih =>
    rw [hexFixed, List.mem_append, List.mem_singleton] at h
    rcases h with h | h
    · exact ih h
    · exact ⟨_, Nat.mod_lt n (by decide), h⟩

theorem hexFixed_printable {width n : Nat} {c : Char} (h : c ∈ hexFixed width n) :
    0x20 ≤ c.toNat ∧ c.toNat < 0x7f := by
  obtain ⟨d, hd, rfl⟩ := mem_hexFixed h
  exact hexDigit_printable hd

/-- One more digit at the end adds to sixteen times the number. -/
theorem hexNumber?_concat {digits : List Char} {c : Char} {n d : Nat}
    (hdigits : hexNumber? digits = some n) (hc : hexValue? c = some d) :
    hexNumber? (digits ++ [c]) = some (16 * n + d) := by
  rw [hexNumber?] at hdigits ⊢
  rw [List.foldl_append, hdigits]
  simp [hc]

/-- **A number is read back** up to the digits that its width leaves out. -/
theorem hexNumber?_hexFixed (width n : Nat) :
    hexNumber? (hexFixed width n) = some (n % 16 ^ width) := by
  induction width generalizing n with
  | zero => simp [hexFixed, hexNumber?, Nat.mod_one]
  | succ width ih =>
    have hlast : hexValue? (hexDigit (n % 16)) = some (n % 16) :=
      hexValue?_hexDigit (Nat.mod_lt n (by decide))
    rw [hexFixed, hexNumber?_concat (ih (n / 16)) hlast]
    have hsplit : n % 16 ^ (width + 1) = n % 16 + 16 * (n / 16 % 16 ^ width) := by
      rw [Nat.pow_succ, Nat.mul_comm, Nat.mod_mul]
    rw [hsplit, Nat.add_comm]

end MonkeyScan
