import MonkeyScan.Console.Emoji
import MonkeyScan.Proofs.Text.Decimal
import Mathlib.Data.Bool.AllAny
import Mathlib.Tactic.SplitIfs

/-!
# Emoji codes

A word between two colons is taken for a code, and with that both colons are used up. A text with a
single colon holds no code. A number is a code like any other word, and two numbers name an emoji.
-/
namespace MonkeyScan.Console

variable {s front rest word after column message : List Char} {c : Char} {n : Nat}

/-! ## Where codes stand -/

theorem codeWord?_of_not_mem (h : ':' ∉ s) : codeWord? s = none := by
  induction s with
  | nil => rfl
  | cons c s ih =>
    rw [List.mem_cons, not_or] at h
    rw [codeWord?, if_neg (Ne.symm h.1), ih h.2]
    split <;> rfl

/-- A word that holds no blank reaches up to the next colon. -/
theorem codeWord?_append (h : ∀ c ∈ word, c ≠ ':' ∧ isStripped c = false) (after : List Char) :
    codeWord? (word ++ ':' :: after) = some (word, after) := by
  induction word with
  | nil => rfl
  | cons c word ih =>
    obtain ⟨⟨hcolon, hblank⟩, hword⟩ := List.forall_mem_cons.mp h
    rw [List.cons_append, codeWord?, if_neg hcolon, hblank, ih hword]
    rfl

/-- Codes start at colons only. -/
theorem replaceEmoji_append (h : ':' ∉ front) (rest : List Char) :
    replaceEmoji (front ++ rest) = front ++ replaceEmoji rest := by
  induction front with
  | nil => rfl
  | cons c front ih =>
    rw [List.mem_cons, not_or] at h
    rw [List.cons_append, replaceEmoji, if_neg (Ne.symm h.1), ih h.2, List.cons_append]

theorem replaceEmoji_colon (h : codeWord? rest = none) :
    replaceEmoji (':' :: rest) = ':' :: replaceEmoji rest := by
  rw [replaceEmoji, if_pos rfl]
  split
  · rename_i heq
    rw [h] at heq
    cases heq
  · rfl

theorem replaceEmoji_code (h : codeWord? rest = some (word, after)) :
    replaceEmoji (':' :: rest) = shownCode word ++ replaceEmoji after := by
  rw [replaceEmoji, if_pos rfl]
  split
  · rename_i heq
    rw [h] at heq
    cases heq
    rfl
  · rename_i heq
    rw [h] at heq
    cases heq

/-! ## Codes that name an emoji -/

/-- The emoji that a word between two colons names. -/
def namedEmoji? (word : List Char) : Option String :=
  emoji? (lower (splitVariant word).1)

theorem shownCode_eq (word : List Char) : shownCode word =
    match namedEmoji? word with
    | some emoji => emoji.toList ++ (splitVariant word).2
    | none => ':' :: word ++ [':'] := rfl

theorem eq_append_of_codeWord? (h : codeWord? s = some (word, after)) : s = word ++ ':' :: after := by
  induction s generalizing word with
  | nil => cases h
  | cons c s ih =>
    rw [codeWord?] at h
    split at h
    · rename_i hc
      cases h
      rw [hc, List.nil_append]
    · split at h
      · cases h
      · obtain ⟨⟨inner, rest⟩, hrest, hpair⟩ := Option.map_eq_some_iff.mp h
        cases hpair
        rw [ih hrest, List.cons_append]

/-- The words between colons that are taken for codes. -/
def codeWords : List Char → List (List Char)
  | [] => []
  | c :: rest =>
    if c = ':' then
      match _h : codeWord? rest with
      | some (word, after) => word :: codeWords after
      | none => codeWords rest
    else codeWords rest
termination_by s => s.length
decreasing_by
  · have := codeWord?_length_lt _h
    simp only [List.length_cons]
    omega
  · simp
  · simp

theorem codeWords_of_ne (h : c ≠ ':') (rest : List Char) : codeWords (c :: rest) = codeWords rest := by
  rw [codeWords, if_neg h]

theorem codeWords_colon (h : codeWord? s = none) : codeWords (':' :: s) = codeWords s := by
  rw [codeWords, if_pos rfl]
  split
  · rename_i heq
    rw [h] at heq
    cases heq
  · rfl

theorem codeWords_code (h : codeWord? s = some (word, after)) :
    codeWords (':' :: s) = word :: codeWords after := by
  rw [codeWords, if_pos rfl]
  split
  · rename_i heq
    rw [h] at heq
    cases heq
    rfl
  · rename_i heq
    rw [h] at heq
    cases heq

/-- A text in which no emoji is named. -/
def Uncoded (s : List Char) : Prop :=
  ∀ word ∈ codeWords s, namedEmoji? word = none

theorem uncoded_of_count_le (h : s.count ':' ≤ 1) : Uncoded s := by
  induction s with
  | nil =>
    rw [Uncoded, codeWords]
    exact List.forall_mem_nil _
  | cons c s ih =>
    by_cases hc : c = ':'
    · have hnone : ':' ∉ s := by
        rw [hc, List.count_cons_self] at h
        exact List.count_eq_zero.mp (by omega)
      rw [hc, Uncoded, codeWords_colon (codeWord?_of_not_mem hnone)]
      exact ih (by rw [List.count_eq_zero.mpr hnone]; omega)
    · rw [List.count_cons_of_ne hc] at h
      rw [Uncoded, codeWords_of_ne hc]
      exact ih h

theorem replaceEmoji_of_uncoded (h : Uncoded s) : replaceEmoji s = s := by
  unfold Uncoded at h
  induction s using codeWords.induct with
  | case1 => rw [replaceEmoji]
  | case2 rest word after hcode ih =>
    rw [codeWords_code hcode] at h
    obtain ⟨hword, hafter⟩ := List.forall_mem_cons.mp h
    rw [replaceEmoji_code hcode, shownCode_eq, hword, ih hafter, eq_append_of_codeWord? hcode]
    simp
  | case3 rest hcode ih =>
    rw [codeWords_colon hcode] at h
    rw [replaceEmoji_colon hcode, ih h]
  | case4 c rest hc ih =>
    rw [codeWords_of_ne hc] at h
    rw [replaceEmoji, if_neg hc, ih h]

/-- No emoji is named without a second colon. -/
theorem replaceEmoji_of_count_le (h : s.count ':' ≤ 1) : replaceEmoji s = s :=
  replaceEmoji_of_uncoded (uncoded_of_count_le h)

/-! ## Numbers as codes -/

/-- A digit has no other case, wherever it stands. -/
theorem lowerAmid_of_isDigit (h : c.isDigit) (before after : List Char) :
    lowerAmid before c after = [c] := by
  obtain ⟨hlow, hhigh⟩ := toNat_of_isDigit h
  have hsigma : c ≠ 'Σ' := by
    rintro rfl
    exact absurd h (by decide)
  have hdotted : c ≠ 'İ' := by
    rintro rfl
    exact absurd h (by decide)
  have hruns : ∀ run ∈ capitalRuns, 57 < run.1 := by decide +kernel
  have hnone : (capitalRuns.find? fun run =>
      run.1 ≤ c.toNat && c.toNat ≤ run.2.1 && (c.toNat - run.1) % run.2.2.1 = 0) = none := by
    rw [List.find?_eq_none]
    intro run hrun
    have hfar : ¬ run.1 ≤ c.toNat := by
      have hstart := hruns run hrun
      omega
    simp [hfar]
  simp only [lowerAmid, if_neg hsigma, if_neg hdotted, lowerChar, hnone]

theorem lowerFrom_of_isDigit (h : ∀ c ∈ word, c.isDigit) (before : List Char) :
    lowerFrom before word = word := by
  induction word generalizing before with
  | nil => rfl
  | cons c word ih =>
    obtain ⟨hc, hword⟩ := List.forall_mem_cons.mp h
    rw [lowerFrom, lowerAmid_of_isDigit hc, ih hword, List.singleton_append]

/-- A number asks for no form of its emoji. -/
theorem splitVariant_of_isDigit (h : ∀ c ∈ word, c.isDigit) : splitVariant word = (word, []) := by
  have hnone : ∀ suffix : List Char, '-' ∈ suffix → suffix.isSuffixOf word = false := by
    intro suffix hmem
    rw [Bool.eq_false_iff]
    intro hsuffix
    rw [List.isSuffixOf_iff_suffix] at hsuffix
    exact absurd (h _ (hsuffix.subset hmem)) (by decide)
  rw [splitVariant, hnone _ (by decide), hnone _ (by decide)]
  rfl

theorem emojiStarting_of_isDigit (h : c.isDigit) : emojiStarting c = emojiOther := by
  unfold emojiStarting
  split <;> first | rfl | exact absurd h (by decide)

/-- The emoji that a number names. -/
def numberEmoji? (n : Int) : Option String :=
  if n = 100 then some "💯" else if n = 1234 then some "🔢" else none

theorem numberEmoji?_eq_none_iff {n : Int} : numberEmoji? n = none ↔ n ≠ 100 ∧ n ≠ 1234 := by
  unfold numberEmoji?
  split_ifs <;> simp [*]

/-- The emoji of a number is a single visible character. -/
theorem visible_of_numberEmoji? {n : Int} {emoji : String} (h : numberEmoji? n = some emoji) :
    emoji.length = 1 ∧ ∀ c ∈ emoji.toList, 0x20 ≤ c.toNat := by
  unfold numberEmoji? at h
  split_ifs at h <;> cases h <;> exact ⟨by decide, List.all_iff_forall_prop.mp (by decide)⟩

/-- The numbers among the names of emoji. -/
theorem lookup_emojiOther_toString (n : Nat) : emojiOther.lookup (toString n) = numberEmoji? n := by
  by_cases hhundred : n = 100
  · rw [hhundred]
    decide
  by_cases hfour : n = 1234
  · rw [hfour]
    decide
  have hnone : numberEmoji? n = none := numberEmoji?_eq_none_iff.mpr ⟨by omega, by omega⟩
  rw [hnone]
  cases hfound : emojiOther.lookup (toString n) with
  | none => rfl
  | some emoji =>
    have hnames : ∀ entry ∈ emojiOther, entry.1.toList.all Char.isDigit →
        entry.1 = toString 100 ∨ entry.1 = toString 1234 := by decide
    obtain ⟨before, more, hsplit, -⟩ := List.lookup_eq_some_iff.mp hfound
    have hmem : (toString n, emoji) ∈ emojiOther := by simp [hsplit]
    have hdigits : (toString n).toList.all Char.isDigit :=
      List.all_eq_true.mpr fun c => isDigit_of_mem_toString
    rcases hnames _ hmem hdigits with hname | hname
    · exact absurd (toString_inj hname) hhundred
    · exact absurd (toString_inj hname) hfour

theorem emoji?_toString (n : Nat) : emoji? (toString n).toList = numberEmoji? n := by
  have hname := lookup_emojiOther_toString n
  rw [← String.ofList_toList (s := toString n)] at hname
  cases hword : (toString n).toList with
  | nil => exact absurd (congrArg List.length hword) (by simp)
  | cons first rest =>
    have hfirst : first.isDigit := isDigit_of_mem_toString (n := n) (hword ▸ List.mem_cons_self)
    rw [emoji?, emojiStarting_of_isDigit hfirst, ← hname, hword]

/-- What a number between two colons is shown as. -/
theorem shownCode_toString (n : Nat) : shownCode (toString n).toList =
    match numberEmoji? n with
    | some emoji => emoji.toList
    | none => ':' :: (toString n).toList ++ [':'] := by
  have hdigits : ∀ c ∈ (toString n).toList, c.isDigit := fun c => isDigit_of_mem_toString
  have hname : lower (toString n).toList = (toString n).toList := lowerFrom_of_isDigit hdigits []
  have hemoji := emoji?_toString n
  cases h : numberEmoji? n with
  | none =>
    rw [h] at hemoji
    simp only [shownCode, splitVariant_of_isDigit hdigits, hname, hemoji]
  | some emoji =>
    rw [h] at hemoji
    simp only [shownCode, splitVariant_of_isDigit hdigits, hname, hemoji, List.append_nil]

/-- What a number is shown as holds no controls. -/
theorem le_of_mem_shownCode_toString (n : Nat) :
    ∀ c ∈ shownCode (toString n).toList, 0x20 ≤ c.toNat := by
  rw [shownCode_toString]
  cases h : numberEmoji? n with
  | none =>
    have hdigits : ∀ c ∈ (toString n).toList, 0x20 ≤ c.toNat := by
      intro c hc
      have hrange := toNat_of_isDigit (isDigit_of_mem_toString hc)
      omega
    have hcolon : 0x20 ≤ (':' : Char).toNat := by decide
    simp only [List.forall_mem_cons, List.forall_mem_append, List.cons_append]
    exact ⟨hcolon, hdigits, hcolon, List.forall_mem_nil _⟩
  | some emoji => exact (visible_of_numberEmoji? h).2

/-- **In a place only the line can name an emoji.** The colon behind the column is followed by a blank,
and the message has no two colons. -/
theorem replaceEmoji_place (hfront : ':' ∉ front) (hcolumn : ':' ∉ column)
    (hmessage : message.count ':' ≤ 1) :
    replaceEmoji (front ++ ':' :: ((toString n).toList ++ ':' :: (column ++ ':' :: ' ' :: message))) =
      front ++ (shownCode (toString n).toList ++ (column ++ ':' :: ' ' :: message)) := by
  have hword : ∀ c ∈ (toString n).toList, c ≠ ':' ∧ isStripped c = false := by
    intro c hc
    obtain ⟨hlow, hhigh⟩ := toNat_of_isDigit (isDigit_of_mem_toString hc)
    refine ⟨?_, isStripped_of_visible (by omega) (by omega)⟩
    rintro rfl
    exact absurd hhigh (by decide)
  have hblank : codeWord? (' ' :: message) = none := rfl
  have hcount : (' ' :: message).count ':' ≤ 1 := by
    rwa [List.count_cons_of_ne (by decide)]
  rw [replaceEmoji_append hfront, replaceEmoji_code (codeWord?_append hword _),
    replaceEmoji_append hcolumn, replaceEmoji_colon hblank, replaceEmoji_of_count_le hcount]

end MonkeyScan.Console
