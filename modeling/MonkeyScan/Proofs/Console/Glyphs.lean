import MonkeyScan.Proofs.Console.Styled
import MonkeyScan.Proofs.Text.Utf8

/-!
# The marks of a text

Whatever a console does not print as it stands starts with a mark: a colon, an opening bracket or a
backslash. No emoji holds a mark or a control. So an emoji in the place of its name costs a text two
marks, and nothing brings them back.
-/
namespace MonkeyScan.Console

variable {s word name : List Char} {c : Char} {emoji : String}

/-- A character that codes, tags and escapes start with. -/
def isMark (c : Char) : Bool :=
  c = ':' || c = '[' || c = '\\'

/-- How many marks a text has. -/
def marks (s : List Char) : Nat := s.countP isMark

theorem marks_append (s t : List Char) : marks (s ++ t) = marks s + marks t :=
  List.countP_append

theorem marks_cons (c : Char) (s : List Char) : marks (c :: s) = marks [c] + marks s :=
  marks_append [c] s

theorem marks_reverse (s : List Char) : marks s.reverse = marks s :=
  List.countP_reverse

theorem marks_eq_zero (h : ∀ c ∈ s, isInert c ∧ c ≠ ':') : marks s = 0 := by
  refine List.countP_eq_zero.mpr fun c hc => ?_
  obtain ⟨hinert, hcolon⟩ := h c hc
  simp only [isInert, Bool.and_eq_true, decide_eq_true_eq] at hinert
  simp [isMark, hcolon, hinert.1.1, hinert.1.2]

/-! ## Emoji -/

/-- A byte that is no mark and no control. -/
def isGlyphByte (b : UInt8) : Bool :=
  let n := b.toNat
  0x80 ≤ n || (0x20 ≤ n && n ≠ 0x3a && n ≠ 0x5b && n ≠ 0x5c)

/-- Bytes are what the names of all emoji can be searched by in short time. -/
theorem isGlyphByte_emojiStarting (c : Char) :
    (emojiStarting c).all fun entry => entry.2.toByteArray.data.toList.all isGlyphByte := by
  unfold emojiStarting
  split <;> decide +kernel

theorem isInert_of_isGlyphByte (hlt : c.toNat < 0x80) (h : isGlyphByte (UInt8.ofNat c.toNat)) :
    isInert c ∧ c ≠ ':' := by
  simp only [isGlyphByte, Utf8.toNat_ofNat_byte (by omega : c.toNat < 256), Bool.or_eq_true,
    Bool.and_eq_true, decide_eq_true_eq] at h
  have hne : ∀ d : Char, c.toNat ≠ d.toNat → c ≠ d := fun d hd heq => hd (congrArg Char.toNat heq)
  have hbracket : c ≠ '[' := hne _ (by change c.toNat ≠ 0x5b; omega)
  have hbackslash : c ≠ '\\' := hne _ (by change c.toNat ≠ 0x5c; omega)
  have hcolon : c ≠ ':' := hne _ (by change c.toNat ≠ 0x3a; omega)
  refine ⟨?_, hcolon⟩
  simp only [isInert, Bool.and_eq_true, decide_eq_true_eq]
  exact ⟨⟨hbracket, hbackslash⟩, by omega⟩

theorem isInert_of_le (h : 0x80 ≤ c.toNat) : isInert c ∧ c ≠ ':' := by
  have hne : ∀ d : Char, d.toNat < 0x80 → c ≠ d := by
    rintro d hd rfl
    omega
  simp only [isInert, Bool.and_eq_true, decide_eq_true_eq]
  exact ⟨⟨⟨hne _ (by decide), hne _ (by decide)⟩, by omega⟩, hne _ (by decide)⟩

/-- An emoji holds no marks and no controls. -/
theorem isInert_of_mem_emoji (h : emoji? name = some emoji) :
    ∀ c ∈ emoji.toList, isInert c ∧ c ≠ ':' := by
  intro c hc
  by_cases hlt : c.toNat < 0x80
  · cases name with
    | nil => cases h
    | cons first rest =>
      have hlookup : (emojiStarting first).lookup (String.ofList (first :: rest)) = some emoji := h
      obtain ⟨before, more, hsplit, -⟩ := List.lookup_eq_some_iff.mp hlookup
      have hmem : (String.ofList (first :: rest), emoji) ∈ emojiStarting first := by simp [hsplit]
      have hbytes := List.all_eq_true.mp (isGlyphByte_emojiStarting first) _ hmem
      rw [← Utf8.encode_toList] at hbytes
      exact isInert_of_isGlyphByte hlt
        (List.all_eq_true.mp hbytes _ (Utf8.mem_encode_of_lt hc hlt))
  · exact isInert_of_le (by omega)

/-! ## Codes -/

theorem isInert_of_mem_variant (h : c ∈ (splitVariant word).2) : isInert c ∧ c ≠ ':' := by
  refine isInert_of_le ?_
  unfold splitVariant at h
  split at h
  · rw [List.mem_singleton.mp h]
    decide
  · split at h
    · rw [List.mem_singleton.mp h]
      decide
    · exact absurd h List.not_mem_nil

theorem isInert_of_mem_shownCode (h : namedEmoji? word = some emoji) :
    ∀ c ∈ shownCode word, isInert c ∧ c ≠ ':' := by
  rw [shownCode_eq, h]
  intro c hc
  exact (List.mem_append.mp hc).elim (isInert_of_mem_emoji h c) isInert_of_mem_variant

/-- **Every emoji costs marks.** Where as many are left, no emoji is named. -/
theorem marks_replaceEmoji (s : List Char) :
    marks (replaceEmoji s) ≤ marks s ∧ (marks s ≤ marks (replaceEmoji s) → Uncoded s) := by
  have hcolon : marks [':'] = 1 := by decide
  unfold Uncoded
  induction s using codeWords.induct with
  | case1 =>
    rw [replaceEmoji, codeWords]
    exact ⟨Nat.le_refl _, fun _ => List.forall_mem_nil _⟩
  | case2 rest word after hcode ih =>
    rw [replaceEmoji_code hcode, codeWords_code hcode, eq_append_of_codeWord? hcode, marks_append,
      marks_cons, marks_append, marks_cons ':' after, hcolon]
    cases hnamed : namedEmoji? word with
    | some emoji =>
      have hnone := marks_eq_zero (isInert_of_mem_shownCode hnamed)
      exact ⟨by omega, fun _ => by omega⟩
    | none =>
      have hshown : marks (shownCode word) = marks word + 2 := by
        rw [shownCode_eq, hnamed, List.cons_append, marks_cons, marks_append, hcolon]
        omega
      refine ⟨by omega, fun hle => List.forall_mem_cons.mpr ⟨hnamed, ih.2 (by omega)⟩⟩
  | case3 rest hcode ih =>
    rw [replaceEmoji_colon hcode, codeWords_colon hcode, marks_cons, marks_cons ':' rest]
    exact ⟨by omega, fun hle => ih.2 (by omega)⟩
  | case4 c rest hc ih =>
    rw [replaceEmoji, if_neg hc, codeWords_of_ne hc, marks_cons, marks_cons c rest]
    exact ⟨by omega, fun hle => ih.2 (by omega)⟩

theorem isKept_of_mem_replaceEmoji (h : ∀ c ∈ s, isKept c) : ∀ c ∈ replaceEmoji s, isKept c := by
  induction s using codeWords.induct with
  | case1 =>
    rw [replaceEmoji]
    exact List.forall_mem_nil _
  | case2 rest word after hcode ih =>
    rw [eq_append_of_codeWord? hcode] at h
    obtain ⟨hfirst, hmore⟩ := List.forall_mem_cons.mp h
    obtain ⟨hword, hlast⟩ := List.forall_mem_append.mp hmore
    obtain ⟨-, hafter⟩ := List.forall_mem_cons.mp hlast
    rw [replaceEmoji_code hcode]
    refine List.forall_mem_append.mpr ⟨?_, ih hafter⟩
    cases hnamed : namedEmoji? word with
    | some emoji =>
      exact fun c hc => isKept_of_le (le_of_isInert (isInert_of_mem_shownCode hnamed c hc).1)
    | none =>
      rw [shownCode_eq, hnamed]
      exact List.forall_mem_append.mpr ⟨List.forall_mem_cons.mpr ⟨hfirst, hword⟩,
        List.forall_mem_singleton.mpr hfirst⟩
  | case3 rest hcode ih =>
    obtain ⟨hfirst, hrest⟩ := List.forall_mem_cons.mp h
    rw [replaceEmoji_colon hcode]
    exact List.forall_mem_cons.mpr ⟨hfirst, ih hrest⟩
  | case4 c rest hc ih =>
    obtain ⟨hfirst, hrest⟩ := List.forall_mem_cons.mp h
    rw [replaceEmoji, if_neg hc]
    exact List.forall_mem_cons.mpr ⟨hfirst, ih hrest⟩

end MonkeyScan.Console
