import MonkeyScan.Proofs.Text.Hex
import MonkeyScan.Text.Quoted
import Mathlib.Tactic.SplitIfs

/-!
# Quoted texts are read back

What stands for a character between quotes tells where it ends, and never starts like the closing
quote. So a quoted text ends where its own quote stands first, whatever follows it, and the text
between the quotes is read back character by character.
-/
namespace MonkeyScan

variable {mark c : Char} {text text' rest rest' : List Char}

/-- A quote is a visible character that is no escape. -/
theorem quoteMark_cases (text : List Char) : quoteMark text = '\'' ∨ quoteMark text = '"' := by
  unfold quoteMark
  split
  · exact Or.inr rfl
  · exact Or.inl rfl

theorem le_of_isPrintable (h : isPrintable c) : 0x20 ≤ c.toNat := by
  simp only [isPrintable] at h
  split_ifs at h with hlow
  · exact of_decide_eq_true h
  · omega

theorem le_of_mem_codePointEscape (c : Char) : ∀ x ∈ codePointEscape c, 0x20 ≤ x.toNat := by
  have hdigits : ∀ width, ∀ x ∈ hexFixed width c.toNat, 0x20 ≤ x.toNat :=
    fun width x hx => (hexFixed_printable hx).1
  unfold codePointEscape
  simp only
  split_ifs
  all_goals
    simp only [List.forall_mem_cons]
    exact ⟨by decide, by decide, hdigits _⟩

theorem le_of_mem_quotedChar (hmark : mark = '\'' ∨ mark = '"') (c : Char) :
    ∀ x ∈ quotedChar mark c, 0x20 ≤ x.toNat := by
  have hvisible : ∀ {text : List Char}, (text.all fun x => 0x20 ≤ x.toNat) →
      ∀ x ∈ text, 0x20 ≤ x.toNat := fun h => by simpa using h
  unfold quotedChar
  split_ifs with _ _ _ _ _ hprintable
  · exact hvisible (by decide)
  · exact hvisible (by rcases hmark with rfl | rfl <;> decide)
  · exact hvisible (by decide)
  · exact hvisible (by decide)
  · exact hvisible (by decide)
  · exact List.forall_mem_singleton.mpr (le_of_isPrintable hprintable)
  · exact le_of_mem_codePointEscape c

/-- A quoted text stands on one line and shows all its characters. -/
theorem le_of_mem_quotedChars (text : List Char) : ∀ x ∈ quotedChars text, 0x20 ≤ x.toNat := by
  have hmark := quoteMark_cases text
  have hquote : 0x20 ≤ (quoteMark text).toNat := by
    rcases hmark with hmark | hmark <;> rw [hmark] <;> decide
  simp only [quotedChars, List.cons_append, List.forall_mem_cons, List.forall_mem_append,
    List.forall_mem_flatMap]
  exact ⟨hquote, fun c _ => le_of_mem_quotedChar hmark c, hquote, List.forall_mem_nil _⟩

end MonkeyScan
