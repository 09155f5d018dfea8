import MonkeyScan.Proofs.File.Fault

/-!
# Canonical paths and their texts

The components of a canonical path are not empty, are no single dot and have no slash. Every path
that is read from a text is canonical. The text of a canonical path has its components between the
slashes, behind empty ones for the slashes in front; only the empty relative path is written as a
dot.
-/
namespace MonkeyScan

/-! ## Components between slashes -/

theorem splitSlashes_of_not_mem {s : List Char} (h : '/' ∉ s) : splitSlashes s = [s] := by
  induction s with
  | nil => rfl
  | cons c s ih =>
    rw [List.mem_cons, not_or] at h
    rw [splitSlashes, if_neg (Ne.symm h.1), ih h.2]

theorem splitSlashes_append_slash {s : List Char} (h : '/' ∉ s) (rest : List Char) :
    splitSlashes (s ++ '/' :: rest) = s :: splitSlashes rest := by
  induction s with
  | nil => rfl
  | cons c s ih =>
    rw [List.mem_cons, not_or] at h
    rw [List.cons_append, splitSlashes, if_neg (Ne.symm h.1), ih h.2]

theorem slash_not_mem_of_mem_splitSlashes {s part : List Char} (h : part ∈ splitSlashes s) :
    '/' ∉ part := by
  induction s generalizing part with
  | nil =>
    rw [splitSlashes, List.mem_singleton] at h
    simp [h]
  | cons c s ih =>
    rw [splitSlashes] at h
    by_cases hc : c = '/'
    · rw [if_pos hc] at h
      rcases List.mem_cons.mp h with rfl | h
      · simp
      · exact ih h
    · rw [if_neg hc] at h
      cases hsplit : splitSlashes s with
      | nil =>
        rw [hsplit, List.mem_singleton] at h
        simpa [h] using Ne.symm hc
      | cons first more =>
        rw [hsplit] at h ih
        rcases List.mem_cons.mp h with rfl | h
        · simpa [Ne.symm hc] using ih List.mem_cons_self
        · exact ih (List.mem_cons_of_mem _ h)

theorem splitSlashes_intercalate {parts : List String} (hne : parts ≠ [])
    (h : ∀ part ∈ parts, '/' ∉ part.toList) :
    splitSlashes ("/".intercalate parts).toList = parts.map String.toList := by
  induction parts with
  | nil => exact absurd rfl hne
  | cons first more ih =>
    have hfirst := h first List.mem_cons_self
    cases more with
    | nil =>
      rw [String.intercalate_singleton, splitSlashes_of_not_mem hfirst]
      rfl
    | cons next more =>
      have hmore := ih (List.cons_ne_nil _ _) fun part hpart => h part (List.mem_cons_of_mem _ hpart)
      have htext : ("/".intercalate (first :: next :: more)).toList =
          first.toList ++ '/' :: ("/".intercalate (next :: more)).toList := by
        rw [String.intercalate_cons_cons]
        simp
      rw [htext, splitSlashes_append_slash hfirst, hmore]
      rfl

/-- The components of a text, empty ones and dots included. -/
def components (text : String) : List String :=
  (splitSlashes text.toList).map String.ofList

namespace Path
variable {p : Path}

/-- Every component takes part in the path and is one of its own. -/
def Canonical (p : Path) : Prop :=
  ∀ part ∈ p.parts, isPart part.toList ∧ '/' ∉ part.toList

theorem canonical_ofText (text : String) : (ofText text).Canonical := by
  intro part hpart
  obtain ⟨chars, hchars, rfl⟩ := List.mem_map.mp hpart
  obtain ⟨hsplit, hkept⟩ := List.mem_filter.mp hchars
  rw [String.toList_ofList]
  exact ⟨hkept, slash_not_mem_of_mem_splitSlashes hsplit⟩

theorem mem_parts_of_parent {part : String} (h : part ∈ p.parent.parts) : part ∈ p.parts :=
  (List.dropLast_sublist p.parts).mem h

theorem Canonical.parent (h : p.Canonical) : p.parent.Canonical :=
  fun part hpart => h part (mem_parts_of_parent hpart)

theorem isPart_iff {component : List Char} :
    isPart component ↔ component ≠ [] ∧ component ≠ ['.'] := by
  simp [isPart]

/-- A component can be part of a path's text. -/
theorem ne_empty_of_isPart {part : String} (h : isPart part.toList) : part ≠ "" := by
  rintro rfl
  exact (isPart_iff.mp h).1 rfl

/-- The text of a canonical path has its components, behind such as lead nowhere. -/
theorem Canonical.components_text (h : p.Canonical) :
    ∃ blanks, (∀ b ∈ blanks, b = "" ∨ b = ".") ∧ components p.text = blanks ++ p.parts := by
  have hslash : ∀ part ∈ p.parts, '/' ∉ part.toList := fun part hpart => (h part hpart).2
  have hsplit : p.parts ≠ [] → components ("/".intercalate p.parts) = p.parts := by
    intro hne
    rw [components, splitSlashes_intercalate hne hslash, List.map_map]
    simp [Function.comp_def]
  have hmore : ∀ text : String, components ("/" ++ text) = "" :: components text := by
    intro text
    have htext : ("/" ++ text).toList = [] ++ '/' :: text.toList := by simp
    rw [components, htext, splitSlashes_append_slash (by simp)]
    rfl
  have hempty : components ("/".intercalate []) = [""] := rfl
  rcases p with ⟨anchor, parts⟩
  by_cases hnone : parts = []
  · subst hnone
    cases anchor with
    | relative => exact ⟨["."], by simp, rfl⟩
    | root => exact ⟨["", ""], by simp, rfl⟩
    | doubleRoot => exact ⟨["", "", ""], by simp, rfl⟩
  · have hparts := hsplit hnone
    cases anchor with
    | relative =>
      refine ⟨[], by simp, ?_⟩
      have htext : text ⟨.relative, parts⟩ = "/".intercalate parts := by
        simp [text, hnone, Anchor.text]
      rw [htext, hparts, List.nil_append]
    | root =>
      refine ⟨[""], by simp, ?_⟩
      have htext : text ⟨.root, parts⟩ = "/" ++ "/".intercalate parts := by
        simp [text, Anchor.text]
      rw [htext, hmore, hparts, List.singleton_append]
    | doubleRoot =>
      refine ⟨["", ""], by simp, ?_⟩
      have htext : text ⟨.doubleRoot, parts⟩ = "/" ++ ("/" ++ "/".intercalate parts) := by
        rw [← String.append_assoc]
        simp [text, Anchor.text]
      rw [htext, hmore, hmore, hparts, List.cons_append, List.singleton_append]

/-- The text of a canonical path starts with a slash unless the path is relative. -/
theorem Canonical.head?_text (h : p.Canonical) :
    p.text.toList.head? = some '/' ↔ p.anchor ≠ .relative := by
  rcases p with ⟨anchor, parts⟩
  cases anchor with
  | root => simp [text, Anchor.text]
  | doubleRoot => simp [text, Anchor.text]
  | relative =>
    cases parts with
    | nil => simp [text]
    | cons first more =>
      obtain ⟨hpart, hslash⟩ := h first List.mem_cons_self
      have hfirst : first.toList ≠ [] := (isPart_iff.mp hpart).1
      have hhead : (text ⟨.relative, first :: more⟩).toList.head? = first.toList.head? := by
        cases more with
        | nil => simp [text, Anchor.text]
        | cons next more =>
          obtain ⟨c, chars, hchars⟩ := List.exists_cons_of_ne_nil hfirst
          simp [text, Anchor.text, String.intercalate_cons_cons, hchars]
      rw [hhead]
      simp only [ne_eq, not_true_eq_false, iff_false]
      exact fun hhead => hslash (List.mem_of_head? hhead)

theorem Canonical.text_ne_empty (h : p.Canonical) : p.text ≠ "" := by
  intro hempty
  obtain ⟨blanks, -, hcomponents⟩ := h.components_text
  have hsingle : blanks ++ p.parts = [""] := by
    rw [← hcomponents, hempty]
    rfl
  rcases p with ⟨anchor, parts⟩
  cases parts with
  | nil => cases anchor <;> simp [text, Anchor.text] at hempty
  | cons first more =>
    have hmem : first ∈ blanks ++ first :: more := by simp
    rw [hsingle, List.mem_singleton] at hmem
    exact ne_empty_of_isPart (h first List.mem_cons_self).1 hmem

end Path

end MonkeyScan
