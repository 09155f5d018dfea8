import MonkeyScan.Proofs.Json.Document

/-!
# Texts that are read for what they are

A reader of JSON may give up on a text that nests too deeply, and may keep one half of a surrogate
pair for a character. The reader here goes to any depth and takes a half for the replacement
character. In a text within bounds that makes no difference: its collections nest no deeper than a
limit, and surrogates are escaped in pairs. What is written stays within bounds.
-/
namespace MonkeyScan.Json

/-- How many collections may be in each other for any interpreter to read them: each takes a frame of
the stack, which has a thousand, and the calls that lead to the reader take some as well. -/
def deepestNesting : Nat := 900

/-- A text within bounds, where a reader stands in a quoted text or between them at some depth. A
broken escape ends all reading, so what stands behind it does not matter. -/
inductive Bounded (limit : Nat) : (inText : Bool) → (depth : Nat) → List Char → Prop
  | nil {inText depth} : Bounded limit inText depth []
  | quote {inText depth rest} : Bounded limit (!inText) depth rest →
      Bounded limit inText depth ('"' :: rest)
  | opening {depth c rest} : c = '[' ∨ c = '{' → depth < limit →
      Bounded limit false (depth + 1) rest → Bounded limit false depth (c :: rest)
  | closing {depth c rest} : c = ']' ∨ c = '}' →
      Bounded limit false (depth - 1) rest → Bounded limit false depth (c :: rest)
  | between {depth c rest} : c ∉ ['"', '[', '{', ']', '}'] →
      Bounded limit false depth rest → Bounded limit false depth (c :: rest)
  | plain {depth c rest} : c ≠ '"' → c ≠ '\\' →
      Bounded limit true depth rest → Bounded limit true depth (c :: rest)
  | letter {depth x rest} : x ≠ 'u' →
      Bounded limit true depth rest → Bounded limit true depth ('\\' :: x :: rest)
  | unit {depth digits n rest} : digits.length = 4 → hexNumber? digits = some n →
      n < 0xd800 ∨ 0xe000 ≤ n →
      Bounded limit true depth rest → Bounded limit true depth ('\\' :: 'u' :: (digits ++ rest))
  | pair {depth digits digits' high low rest} : digits.length = 4 → digits'.length = 4 →
      hexNumber? digits = some high → hexNumber? digits' = some low → isPair high low →
      Bounded limit true depth rest →
      Bounded limit true depth ('\\' :: 'u' :: (digits ++ '\\' :: 'u' :: (digits' ++ rest)))
  | broken {depth rest} : rest.length < 4 ∨ hexNumber? (rest.take 4) = none →
      Bounded limit true depth ('\\' :: 'u' :: rest)
  | cut {depth} : Bounded limit true depth ['\\']

variable {limit depth : Nat} {rest : List Char}

/-- What is written for a character is within bounds wherever a text is. -/
theorem Writing.bounded {c : Char} {written : List Char} {pieces : List Piece}
    (h : Writing c written pieces) (hrest : Bounded limit true depth rest) :
    Bounded limit true depth (written ++ rest) := by
  have hvalid : c.toNat < 0xd800 ∨ 0xdfff < c.toNat ∧ c.toNat < 0x110000 := c.valid
  cases h with
  | plain hquote hbackslash _ _ => exact .plain hquote hbackslash hrest
  | short hx _ _ _ => exact .letter hx hrest
  | unit hunit =>
    have hlength : (hexFixed 4 c.toNat).length = 4 := rfl
    exact .unit hlength (hexNumber?_hexFixed_four hunit) (by omega) hrest
  | pair hpair =>
    obtain ⟨hhigh, hlow, hunits⟩ := units_of_pair hpair (by omega)
    have hlength : ∀ n, (hexFixed 4 n).length = 4 := fun _ => rfl
    rw [List.append_assoc]
    exact .pair (hlength _) (hlength _) (hexNumber?_hexFixed_four hhigh)
      (hexNumber?_hexFixed_four hlow) hunits hrest

theorem Bounded.writtenText (h : Bounded limit false depth rest) (text : String) :
    Bounded limit false depth (writtenText text ++ rest) := by
  have hinside : ∀ chars : List Char,
      Bounded limit true depth (chars.flatMap escapedChar ++ '"' :: rest) := by
    intro chars
    induction chars with
    | nil => exact .quote h
    | cons c chars ih =>
      obtain ⟨pieces, hc⟩ := exists_writing c
      rw [List.flatMap_cons, List.append_assoc]
      exact hc.bounded ih
  have hwhole := hinside text.toList
  simp only [Json.writtenText, List.cons_append, List.append_assoc, List.nil_append]
  exact .quote hwhole

theorem bounded_writtenFields (fields : List (String × String)) :
    Bounded limit false 1 (writtenFields fields) := by
  induction fields with
  | nil => exact .closing (Or.inr rfl) .nil
  | cons field more ih =>
    obtain ⟨name, value⟩ := field
    cases more with
    | nil =>
      simp only [writtenFields]
      refine .writtenText (.between (by decide) (.between (by decide) ?_)) name
      exact .writtenText (.between (by decide) (.closing (Or.inr rfl) .nil)) value
    | cons next more =>
      simp only [writtenFields]
      refine .writtenText (.between (by decide) (.between (by decide) ?_)) name
      refine .writtenText (.between (by decide) (.between (by decide) ?_)) value
      exact .between (by decide) (.between (by decide) ih)

/-- **A written object is within every bound.** -/
theorem bounded_writtenObject (hlimit : 0 < limit) (fields : List (String × String)) :
    Bounded limit false 0 (writtenObject fields) :=
  .opening (Or.inr rfl) hlimit <| .between (by decide) <| .between (by decide) <|
    .between (by decide) (bounded_writtenFields fields)

end MonkeyScan.Json
