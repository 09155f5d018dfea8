import MonkeyScan.Json.Reader

/-!
# The members of an object

An object is written as members between braces, in which a name may recur. What is read is an object
exactly if the text is written so, and the value of a name in it is the one that was given last.
-/
namespace MonkeyScan.Json

/-! ## Names that recur -/

theorem lookup_put (fields : List (String × Json)) (name other : String) (value : Json) :
    (put fields name value).lookup other =
      if other = name then some value else fields.lookup other := by
  induction fields with
  | nil =>
    by_cases hother : other = name
    · simp [put, hother]
    · have hne : (other == name) = false := by simpa using hother
      simp [put, hother, List.lookup_cons, hne]
  | cons field more ih =>
    obtain ⟨first, old⟩ := field
    by_cases hfirst : first = name
    · subst hfirst
      by_cases hother : other = first
      · simp [put, hother]
      · have hne : (other == first) = false := by simpa using hother
        simp [put, hother, List.lookup_cons, hne]
    · by_cases hother : other = first
      · subst hother
        simp [put, hfirst]
      · have hne : (other == first) = false := by simpa using hother
        simp [put, hfirst, List.lookup_cons, hne, ih]

theorem lookup_foldl_put (members fields : List (String × Json)) (name : String) :
    (members.foldl (fun acc f => put acc f.1 f.2) fields).lookup name =
      (members.reverse.lookup name).or (fields.lookup name) := by
  induction members generalizing fields with
  | nil => rfl
  | cons member more ih =>
    obtain ⟨first, value⟩ := member
    rw [List.foldl_cons, ih, lookup_put, List.reverse_cons, List.lookup_append, Option.or_assoc]
    congr 1
    by_cases hname : name = first
    · simp [hname]
    · have hne : (name == first) = false := by simpa using hname
      simp [hname, List.lookup_cons, hne]

/-- The value of a name is the last one that was given for it. -/
theorem field?_ofFields (members : List (String × Json)) (name : String) :
    (ofFields members).field? name = members.reverse.lookup name := by
  rw [ofFields, field?, lookup_foldl_put, List.lookup_nil, Option.or_none]

/-! ## Objects in a text -/

/-- From an opening brace to behind the closing one there are members. -/
def Encloses (fuel : Nat) (t : Tail) (members : List (String × Json)) (after : Tail) : Prop :=
  let inside := (t.drop 1).skipSpace
  if inside.rest.head? = some '}' then members = [] ∧ after = inside.drop 1
  else readFields fuel inside = .ok (members, after)

/-- A text has members between braces, with nothing but space around these. -/
structure Writes (text : List Char) (members : List (String × Json)) : Prop where
  noMark : text.head? ≠ some '\ufeff'
  brace : (⟨text, 0⟩ : Tail).skipSpace.rest.head? = some '{'
  members : ∃ after, Encloses (2 * text.length) (⟨text, 0⟩ : Tail).skipSpace members after ∧
    after.skipSpace.rest = []

/-- A scalar is no object. -/
theorem readScalar_ne_obj (t after : Tail) (fields : List (String × Json)) :
    readScalar t ≠ .ok (.obj fields, after) := by
  intro h
  rw [readScalar] at h
  split at h
  · rename_i word v hword
    have hmem := List.mem_of_find?_eq_some hword
    simp only [Except.ok.injEq, Prod.mk.injEq] at h
    rw [h.1] at hmem
    simp [words] at hmem
  · split at h
    · rename_i n hn
      rw [Numeral.value] at h
      split at h
      · split at h <;> simp [Except.map] at h
      · simp [Except.map] at h
    · simp [Tail.fail] at h

theorem readValue_brace {fuel : Nat} {t after : Tail} {fields : List (String × Json)}
    (hbrace : t.rest.head? = some '{') :
    readValue (fuel + 1) t = .ok (.obj fields, after) ↔
      ∃ members, Encloses fuel t members after ∧ ofFields members = .obj fields := by
  obtain ⟨rest, hrest⟩ := List.head?_eq_some_iff.mp hbrace
  rw [readValue, hrest]
  unfold Encloses
  by_cases hclose : (t.drop 1).skipSpace.rest.head? = some '}'
  · simp only [if_pos hclose, Except.ok.injEq, Prod.mk.injEq]
    constructor
    · rintro ⟨hfields, rfl⟩
      exact ⟨[], ⟨rfl, rfl⟩, hfields⟩
    · rintro ⟨_, ⟨rfl, rfl⟩, hfields⟩
      exact ⟨hfields, rfl⟩
  · simp only [if_neg hclose]
    cases readFields fuel (t.drop 1).skipSpace with
    | error fault => simp [Except.map]
    | ok result =>
      obtain ⟨members, behind⟩ := result
      simp only [Except.map, Except.ok.injEq, Prod.mk.injEq]
      constructor
      · rintro ⟨hfields, rfl⟩
        exact ⟨members, ⟨rfl, rfl⟩, hfields⟩
      · rintro ⟨_, ⟨rfl, rfl⟩, hfields⟩
        exact ⟨hfields, rfl⟩

/-- Only a brace opens an object. -/
theorem head?_of_readValue {fuel : Nat} {t after : Tail} {fields : List (String × Json)}
    (h : readValue (fuel + 1) t = .ok (.obj fields, after)) : t.rest.head? = some '{' := by
  rw [readValue] at h
  split at h
  · cases htext : readText t <;> simp [htext, Except.map] at h
  · dsimp only at h
    split at h
    · simp at h
    · cases hitems : readItems fuel (t.drop 1).skipSpace <;> simp [hitems, Except.map] at h
  · rename_i rest hrest
    rw [hrest]
    rfl
  · exact absurd h (readScalar_ne_obj t after fields)

/-- A text is read if its value is, with nothing but space around it. -/
theorem parse_eq_ok_iff {text : List Char} {value : Json} :
    parse text = .ok value ↔ text.head? ≠ some '\ufeff' ∧
      ∃ after, readValue (2 * text.length + 1) (⟨text, 0⟩ : Tail).skipSpace = .ok (value, after) ∧
        after.skipSpace.rest = [] := by
  unfold parse
  by_cases hmark : text.head? = some '\ufeff'
  · simp [hmark, Tail.fail, bind, Except.bind]
  · simp only [bind, Except.bind, pure, Except.pure, hmark, ne_eq, not_false_eq_true, true_and]
    cases readValue (2 * text.length + 1) (⟨text, 0⟩ : Tail).skipSpace with
    | error fault => simp
    | ok result =>
      obtain ⟨found, after⟩ := result
      simp only [Except.ok.injEq, Prod.mk.injEq]
      by_cases hend : after.skipSpace.rest = []
      · simp only [hend, not_true_eq_false, if_false, Except.ok.injEq]
        constructor
        · rintro rfl
          exact ⟨after, ⟨rfl, rfl⟩, hend⟩
        · rintro ⟨_, ⟨rfl, rfl⟩, -⟩
          rfl
      · simp only [hend, not_false_eq_true, if_true, if_false, Tail.fail, reduceCtorEq,
          false_iff]
        rintro ⟨_, ⟨rfl, rfl⟩, hend'⟩
        exact hend hend'

/-- **An object is read exactly from its members,** and a name that recurs has its last value. -/
theorem parse_eq_obj_iff {text : List Char} {fields : List (String × Json)} :
    parse text = .ok (.obj fields) ↔
      ∃ members, Writes text members ∧ ofFields members = .obj fields := by
  rw [parse_eq_ok_iff]
  constructor
  · rintro ⟨hmark, after, hvalue, hend⟩
    have hbrace := head?_of_readValue hvalue
    obtain ⟨members, hmembers, hfields⟩ := (readValue_brace hbrace).mp hvalue
    exact ⟨members, ⟨hmark, hbrace, after, hmembers, hend⟩, hfields⟩
  · rintro ⟨members, ⟨hmark, hbrace, after, hmembers, hend⟩, hfields⟩
    exact ⟨hmark, after, (readValue_brace hbrace).mpr ⟨members, hmembers, hfields⟩, hend⟩

end MonkeyScan.Json
