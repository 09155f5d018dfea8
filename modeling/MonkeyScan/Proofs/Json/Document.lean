import MonkeyScan.Proofs.Json.WrittenText

/-!
# Written objects are read back

An object of texts is written over several lines, a field on each. The reader takes field after
field, each behind the blanks that separate it from the last one, and needs no more steps than the
fields have names and values.
-/
namespace MonkeyScan.Json

/-- The fields of an object of texts, up to its closing brace. -/
def writtenFields : List (String × String) → List Char
  | [] => ['}']
  | [(name, value)] => writtenText name ++ ':' :: ' ' :: (writtenText value ++ ['\n', '}'])
  | (name, value) :: more =>
    writtenText name ++ ':' :: ' ' :: (writtenText value ++ ',' :: '\n' :: ' ' :: ' ' ::
      writtenFields more)

theorem writtenText_eq_cons (text : String) :
    writtenText text = '"' :: (text.toList.flatMap escapedChar ++ ['"']) := rfl

theorem writtenFields_eq_cons (field : String × String) (more : List (String × String)) :
    ∃ body, writtenFields (field :: more) = '"' :: body := by
  cases more with
  | nil => exact ⟨_, rfl⟩
  | cons next more => exact ⟨_, rfl⟩

/-- A text is read as a value. -/
theorem readValue_writtenText (fuel offset : Nat) (text : String) (rest : List Char) :
    ∃ offset', readValue (fuel + 1) ⟨writtenText text ++ rest, offset⟩ =
      .ok (.str text, ⟨rest, offset'⟩) := by
  obtain ⟨offset', hread⟩ := readText_writtenText offset text rest
  refine ⟨offset', ?_⟩
  rw [writtenText_eq_cons] at hread ⊢
  rw [readValue]
  simp only [List.cons_append] at hread ⊢
  rw [hread]
  rfl

theorem skipSpace_of_not_space {t : Tail} (h : ∀ c ∈ t.rest.head?, Tail.isSpace c = false) :
    t.skipSpace = t := by
  obtain ⟨rest, offset⟩ := t
  cases rest with
  | nil => rfl
  | cons c rest =>
    have hc : Tail.isSpace c = false := h c rfl
    simp [Tail.skipSpace, Tail.drop, hc]

/-- A field is read up to the blanks behind its value; the mark behind them says how to go on. -/
theorem readFields_field (fuel offset : Nat) (name value : String) (tail : List Char) :
    ∃ offset', readFields (fuel + 2)
        ⟨writtenText name ++ ':' :: ' ' :: (writtenText value ++ tail), offset⟩ =
      let mark := (⟨tail, offset'⟩ : Tail).skipSpace
      match mark.rest.head? with
      | some '}' => .ok ([(name, .str value)], mark.drop 1)
      | some ',' =>
        (readFields (fuel + 1) (mark.drop 1).skipSpace).map fun (more, after) =>
          ((name, .str value) :: more, after)
      | _ => mark.fail .expectedComma := by
  generalize hbehind : ':' :: ' ' :: (writtenText value ++ tail) = behind
  obtain ⟨offset₁, hname⟩ := readText_writtenText offset name behind
  obtain ⟨offset₂, hvalue⟩ := readValue_writtenText fuel (offset₁ + 1 + 1) value tail
  have hquote : (writtenText name ++ behind).head? = some '"' := rfl
  have hcolon : behind.head? = some ':' := by
    rw [← hbehind]
    rfl
  have hstay : (⟨behind, offset₁⟩ : Tail).skipSpace = ⟨behind, offset₁⟩ :=
    skipSpace_of_not_space (by simp [hcolon, Tail.isSpace])
  have hspace : ((⟨behind, offset₁⟩ : Tail).drop 1).skipSpace =
      ⟨writtenText value ++ tail, offset₁ + 1 + 1⟩ := by
    simp [← hbehind, Tail.skipSpace, Tail.drop, Tail.isSpace, writtenText_eq_cons]
  refine ⟨offset₂, ?_⟩
  rw [readFields]
  simp only [hquote, ne_eq, not_true_eq_false, if_false, bind, Except.bind, hname, hstay, hcolon,
    hspace, hvalue, pure, Except.pure]
  generalize (⟨tail, offset₂⟩ : Tail).skipSpace = mark
  cases readFields (fuel + 1) (mark.drop 1).skipSpace <;> rfl

/-- Fields are read one after the other. -/
theorem readFields_writtenFields {fields : List (String × String)} (hne : fields ≠ [])
    (fuel offset : Nat) (rest : List Char) :
    ∃ offset', readFields (fuel + fields.length + 1) ⟨writtenFields fields ++ rest, offset⟩ =
      .ok (fields.map fun f => (f.1, .str f.2), ⟨rest, offset'⟩) := by
  induction fields generalizing offset with
  | nil => exact absurd rfl hne
  | cons field more ih =>
    obtain ⟨name, value⟩ := field
    cases more with
    | nil =>
      obtain ⟨offset', hfield⟩ :=
        readFields_field fuel offset name value ('\n' :: '}' :: rest)
      have hbrace : (⟨'\n' :: '}' :: rest, offset'⟩ : Tail).skipSpace =
          ⟨'}' :: rest, offset' + 1⟩ := by
        simp [Tail.skipSpace, Tail.drop, Tail.isSpace]
      refine ⟨offset' + 1 + 1, ?_⟩
      simp only [writtenFields, List.append_assoc, List.cons_append, List.nil_append]
      rw [List.length_singleton, hfield, hbrace]
      rfl
    | cons next more =>
      obtain ⟨offset', hfield⟩ := readFields_field (fuel + (next :: more).length) offset name value
        (',' :: '\n' :: ' ' :: ' ' :: (writtenFields (next :: more) ++ rest))
      obtain ⟨offset'', hmore⟩ := ih (List.cons_ne_nil _ _) (offset' + 1 + 3)
      have hcomma : (⟨',' :: '\n' :: ' ' :: ' ' :: (writtenFields (next :: more) ++ rest),
          offset'⟩ : Tail).skipSpace = ⟨',' :: '\n' :: ' ' :: ' ' ::
          (writtenFields (next :: more) ++ rest), offset'⟩ :=
        skipSpace_of_not_space (by simp [Tail.isSpace])
      have hnext : ((⟨',' :: '\n' :: ' ' :: ' ' :: (writtenFields (next :: more) ++ rest),
          offset'⟩ : Tail).drop 1).skipSpace =
          ⟨writtenFields (next :: more) ++ rest, offset' + 1 + 3⟩ := by
        obtain ⟨body, hbody⟩ := writtenFields_eq_cons next more
        simp [Tail.skipSpace, Tail.drop, Tail.isSpace, hbody]
      refine ⟨offset'', ?_⟩
      simp only [writtenFields, List.append_assoc, List.cons_append] at hfield ⊢
      rw [List.length_cons, ← Nat.add_assoc, hfield, hcomma, hnext, hmore]
      rfl

/-- An object of texts, its fields on lines of their own. -/
def writtenObject (fields : List (String × String)) : List Char :=
  '{' :: '\n' :: ' ' :: ' ' :: writtenFields fields

theorem length_le_writtenFields (fields : List (String × String)) :
    fields.length ≤ (writtenFields fields).length := by
  induction fields with
  | nil => exact Nat.zero_le _
  | cons field more ih =>
    cases more with
    | nil =>
      obtain ⟨body, hbody⟩ := writtenFields_eq_cons field []
      simp [hbody]
    | cons next more =>
      simp only [writtenFields, List.length_append, List.length_cons] at ih ⊢
      omega

theorem readValue_writtenObject {fields : List (String × String)} (hne : fields ≠ [])
    (fuel offset : Nat) (rest : List Char) :
    ∃ offset', readValue (fuel + fields.length + 2) ⟨writtenObject fields ++ rest, offset⟩ =
      .ok (.ofFields (fields.map fun f => (f.1, .str f.2)), ⟨rest, offset'⟩) := by
  obtain ⟨field, more, rfl⟩ := List.exists_cons_of_ne_nil hne
  obtain ⟨offset', hfields⟩ := readFields_writtenFields hne fuel (offset + 1 + 3) rest
  obtain ⟨body, hbody⟩ := writtenFields_eq_cons field more
  have hinside : ((⟨writtenObject (field :: more) ++ rest, offset⟩ : Tail).drop 1).skipSpace =
      ⟨writtenFields (field :: more) ++ rest, offset + 1 + 3⟩ := by
    simp [writtenObject, Tail.skipSpace, Tail.drop, Tail.isSpace, hbody]
  have hopen : (writtenFields (field :: more) ++ rest).head? ≠ some '}' := by
    simp [hbody]
  refine ⟨offset', ?_⟩
  rw [writtenObject] at hinside ⊢
  rw [readValue]
  simp only [List.cons_append] at hinside ⊢
  rw [hinside, if_neg hopen, hfields]
  rfl

theorem writtenFields_printable {fields : List (String × String)} {x : Char}
    (hx : x ∈ writtenFields fields) : x = '\n' ∨ 0x20 ≤ x.toNat ∧ x.toNat < 0x7f := by
  induction fields with
  | nil =>
    rw [List.mem_singleton.mp hx]
    decide
  | cons field more ih =>
    obtain ⟨name, value⟩ := field
    cases more with
    | nil =>
      simp only [writtenFields, List.mem_append, List.mem_cons, List.not_mem_nil, or_false] at hx
      rcases hx with hx | rfl | rfl | hx | rfl | rfl
      · exact Or.inr (writtenText_printable hx)
      · decide
      · decide
      · exact Or.inr (writtenText_printable hx)
      · decide
      · decide
    | cons next more =>
      simp only [writtenFields, List.mem_append, List.mem_cons] at hx
      rcases hx with hx | rfl | rfl | hx | rfl | rfl | rfl | rfl | hx
      · exact Or.inr (writtenText_printable hx)
      · decide
      · decide
      · exact Or.inr (writtenText_printable hx)
      · decide
      · decide
      · decide
      · decide
      · exact ih hx

/-- A written object has no characters but line feeds and visible ASCII. -/
theorem writtenObject_printable {fields : List (String × String)} {x : Char}
    (hx : x ∈ writtenObject fields) : x = '\n' ∨ 0x20 ≤ x.toNat ∧ x.toNat < 0x7f := by
  simp only [writtenObject, List.mem_cons] at hx
  rcases hx with rfl | rfl | rfl | rfl | hx
  · decide
  · decide
  · decide
  · decide
  · exact writtenFields_printable hx

/-- **A written object is read back.** -/
theorem parse_writtenObject {fields : List (String × String)} (hne : fields ≠ []) :
    parse (writtenObject fields) = .ok (.ofFields (fields.map fun f => (f.1, .str f.2))) := by
  obtain ⟨fuel, hfuel⟩ : ∃ fuel,
      2 * (writtenObject fields).length + 1 = fuel + fields.length + 2 := by
    have hlength := length_le_writtenFields fields
    simp only [writtenObject, List.length_cons]
    exact ⟨2 * (writtenFields fields).length - fields.length + 7, by omega⟩
  obtain ⟨offset, hvalue⟩ := readValue_writtenObject hne fuel 0 []
  have hmark : (writtenObject fields).head? ≠ some '\ufeff' := by simp [writtenObject]
  have hstart : (⟨writtenObject fields, 0⟩ : Tail).skipSpace = ⟨writtenObject fields, 0⟩ :=
    skipSpace_of_not_space (by simp [writtenObject, Tail.isSpace])
  have hend : (⟨[], offset⟩ : Tail).skipSpace = ⟨[], offset⟩ := rfl
  rw [List.append_nil] at hvalue
  unfold parse
  simp only [if_neg hmark, hstart, hfuel, hvalue]
  rfl

end MonkeyScan.Json
