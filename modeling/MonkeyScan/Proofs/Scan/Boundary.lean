import MonkeyScan.Proofs.Cursor.Place
import MonkeyScan.Proofs.Cursor.Relocation
import MonkeyScan.Proofs.Scan.Concatenation

/-!
# Where two texts meet

Two texts can be scanned apart unless the last lexeme of the first goes on into the second. At a
seam the tokens of the whole are those of the first text, and then those of the second, moved
behind the first. Where the texts do not meet at a seam this fails: the whole has a longer token in
the place of the last one of the first text.
-/
namespace MonkeyScan

namespace Cursor
variable {l tail : List Char} {kind : Kind}

/-- A lexeme that does not glue to the rest is delivered with the place behind what was passed. -/
theorem next_behind (before : List Char) {lead : List Char} (hlead : ∀ x ∈ lead, isBlank x)
    (hlex : IsLexeme kind l) (hg : ¬ Glues l tail) :
    (behind before (lead ++ (l ++ tail))).next =
      (⟨kind, String.ofList l, (placeBehind (before ++ lead)).1, (placeBehind (before ++ lead)).2⟩,
        behind (before ++ (lead ++ l)) tail) := by
  rw [next_of_lexeme rfl hlead hlex hg, advanceBy_behind, advanceBy_behind, List.append_assoc]
  rfl

end Cursor

namespace Segmentation
variable {a lead : List Char} {segments : List Segment} {g : Segment}

/-- What stands before the last lexeme is segmented by the other segments, and can be followed by
whatever starts as that lexeme does. -/
theorem unconcat (h : Segmentation a lead (segments ++ [g])) :
    ∃ before, a = before ++ (g.lexeme ++ g.blanks) ∧ Segmentation before lead segments ∧
      IsLexeme g.kind g.lexeme ∧ (∀ c ∈ g.blanks, isBlank c) ∧
      ∀ tail, Segment.Seam segments (g.lexeme ++ tail) := by
  have hlex : IsLexeme g.kind g.lexeme := h.lexemes g (by simp)
  refine ⟨lead ++ segments.flatMap Segment.text, ?_, ?_, hlex, h.blanks g (by simp), ?_⟩
  · rw [h.text_eq, List.flatMap_append, List.flatMap_singleton, Segment.text, List.append_assoc]
  · exact ⟨rfl, h.lead_subset, fun x hx => h.lexemes x (List.mem_append_left _ hx),
      fun x hx => h.blanks_subset x (List.mem_append_left _ hx), h.parted.left_of_append⟩
  · intro tail last hlast hnone hglue
    obtain ⟨init, rfl⟩ := List.getLast?_eq_some_iff.mp hlast
    have hparted : Segment.Parted last g := by
      have hchain := h.parted
      rw [List.append_assoc] at hchain
      exact (List.isChain_cons_cons.mp hchain.right_of_append).1
    obtain ⟨c, more, hc⟩ := List.exists_cons_of_ne_nil hlex.ne_nil
    refine hparted hnone ((glues_congr ?_).mp hglue)
    simp [hc]

end Segmentation

namespace Scanner
variable {a b before lead : List Char} {segments : List Segment} {g : Segment}

/-- Where only blanks are left, the end token alone remains. -/
theorem remaining_of_blank (s : Scanner) (h : ∀ c ∈ a, isBlank c) : s.remaining (.behind before a) =
    [⟨.eof, "", (placeBehind (before ++ a)).1, (placeBehind (before ++ a)).2⟩] := by
  have hnil : Segmentation a a [] := .nil h
  have hrest : (Cursor.behind before a).rest = a ++ [] := (List.append_nil a).symm
  have hblanks := Cursor.next_of_blanks hrest h
  have hnext := Cursor.next_of_nil (c := .behind before a) hnil
  have hmove := Cursor.advanceBy_behind before a []
  rw [List.append_nil] at hmove
  obtain ⟨hvalue, hcursor⟩ := s.drain_of_eof (c := .behind before a) (by rw [hnext])
  rw [remaining, hvalue, hcursor, hnext, hblanks, hnext, hmove]
  rfl

/-- Behind the blanks, a lexeme that does not glue to the rest is delivered before all that remains of
the rest. -/
theorem remaining_of_lexeme (s : Scanner) (before : List Char) {l tail : List Char} {kind : Kind}
    (hlead : ∀ c ∈ lead, isBlank c) (hlex : IsLexeme kind l) (hg : ¬ Glues l tail) :
    s.remaining (.behind before (lead ++ (l ++ tail))) =
      ⟨kind, String.ofList l, (placeBehind (before ++ lead)).1, (placeBehind (before ++ lead)).2⟩ ::
        s.remaining (.behind (before ++ (lead ++ l)) tail) := by
  have hnext := Cursor.next_behind before hlead hlex hg
  rw [s.remaining_of_ne_eof (by rw [hnext]; exact hlex.kind_ne_eof), hnext]

/-- **At a seam two texts are scanned apart.** -/
theorem remaining_append (s : Scanner) (ha : Segmentation a lead segments)
    (hseam : Segment.Seam segments b) : s.remaining (.behind before (a ++ b)) =
      (s.drain (.behind before a)).value ++ s.remaining (.behind (before ++ a) b) := by
  induction segments generalizing a lead before with
  | nil =>
    obtain rfl : a = lead := by simpa using ha.text_eq
    have hnext := Cursor.next_of_blanks (c := .behind before (a ++ b)) rfl ha.lead_blank
    rw [Cursor.advanceBy_behind] at hnext
    have hdrain := s.drain_congr hnext
    have hnone : (s.drain (.behind before a)).value = [] :=
      (s.drain_of_segmentation (c := .behind before a) ha).1
    rw [hnone, remaining, remaining, hdrain, List.nil_append]
  | cons g more ih =>
    obtain ⟨tail, rfl, hlex, hglue, hglue', htail, hseam'⟩ := ha.uncons_append hseam
    have hone := Cursor.next_behind before ha.lead_blank hlex hglue
    rw [List.append_assoc, List.append_assoc, s.remaining_of_lexeme before ha.lead_blank hlex hglue',
      (s.drain_of_ne_eof (by rw [hone]; exact hlex.kind_ne_eof)).1, hone, ih htail hseam']
    simp only [List.cons_append, List.append_assoc]

/-- The tokens of a text are those before its last lexeme and that one, wherever the text behind
the lexeme goes on. -/
theorem remaining_unconcat (s : Scanner) (ha : Segmentation a lead (segments ++ [g])) :
    ∃ before tokens, a = before ++ (g.lexeme ++ g.blanks) ∧ IsLexeme g.kind g.lexeme ∧
      (∀ c ∈ g.blanks, isBlank c) ∧
      (s.remaining (.behind [] a)).dropLast = tokens ++
        [⟨g.kind, String.ofList g.lexeme, (placeBehind before).1, (placeBehind before).2⟩] ∧
      ∀ b, s.remaining (.behind [] (before ++ (g.lexeme ++ b))) =
        tokens ++ s.remaining (.behind before (g.lexeme ++ b)) := by
  obtain ⟨before, rfl, hbefore, hlex, hblanks, hseam⟩ := ha.unconcat
  have happend : ∀ b, s.remaining (.behind [] (before ++ (g.lexeme ++ b))) =
      (s.drain (.behind [] before)).value ++ s.remaining (.behind before (g.lexeme ++ b)) :=
    fun b => s.remaining_append hbefore (hseam b)
  refine ⟨before, _, rfl, hlex, hblanks, ?_, happend⟩
  have hlast := s.remaining_of_lexeme before (List.forall_mem_nil _) hlex
    (not_glues_blanks hblanks)
  rw [List.nil_append, List.nil_append, List.append_nil] at hlast
  rw [happend, hlast, s.remaining_of_blank hblanks]
  simp

end Scanner

/-- The place behind the last character of a token. -/
def Token.placeAfter (t : Token) : Int × Int :=
  (t.line, t.column + t.literal.length)

theorem IsLexeme.placeAfter_eq {kind : Kind} {l : List Char} (h : IsLexeme kind l)
    (before : List Char) : Token.placeAfter
      ⟨kind, String.ofList l, (placeBehind before).1, (placeBehind before).2⟩ =
        placeBehind (before ++ l) := by
  rw [placeBehind_append before h.newline_not_mem, Token.placeAfter, String.length_ofList]

namespace Scanner
variable {a b : String} {lead : List Char} {segments : List Segment} {g : Segment}

/-- Two texts are read as one where they meet: two letters meet, or two digits, or a `'='` meets an
operator that it lengthens, if this is the last token of the first text and ends that text. -/
def Merges (s : Scanner) (a b : String) : Prop :=
  ∃ x ∈ a.toList.getLast?, ∃ y ∈ b.toList.head?,
    (x ∈ letterCharacters ∧ y ∈ letterCharacters) ∨ (x ∈ digitCharacters ∧ y ∈ digitCharacters) ∨
      (y = '=' ∧ ∃ t ∈ (s.tokenize a).1.dropLast.getLast?,
        (t.kind = .assign ∨ t.kind = .bang) ∧ t.placeAfter = placeBehind a.toList)

theorem tokenize_eq_behind (s : Scanner) (text : String) :
    (s.tokenize text).1 = s.remaining (.behind [] text.toList) := by
  rw [tokenize_eq_remaining, Cursor.ofText_eq_behind]

/-- A text of blanks is read apart from what follows it. -/
theorem not_merges_of_nil (s : Scanner) (ha : Segmentation a.toList lead []) : ¬ s.Merges a b := by
  rintro ⟨x, hx, y, -, h⟩
  have hlead : a.toList = lead := by simpa using ha.text_eq
  obtain ⟨hl, hd, -⟩ := isBlank_apart (ha.lead_blank x (hlead ▸ List.mem_of_getLast? hx))
  rcases h with ⟨h, -⟩ | ⟨h, -⟩ | ⟨-, t, ht, -⟩
  · simp [hl] at h
  · simp [hd] at h
  · rw [s.tokenize_eq_behind, hlead, s.remaining_of_blank ha.lead_blank] at ht
    simp at ht

/-- Two texts are read as one if the last lexeme of the first, not followed by blanks, glues to the
second. -/
theorem merges_iff_glues (s : Scanner) (ha : Segmentation a.toList lead (segments ++ [g])) :
    s.Merges a b ↔ g.blanks = [] ∧ Glues g.lexeme b.toList := by
  obtain ⟨before, tokens, htext, hlex, hblanks, hlast, -⟩ := s.remaining_unconcat ha
  have hplace := hlex.placeAfter_eq before
  have halone := hlex.alone_iff
  rw [← s.tokenize_eq_behind] at hlast
  unfold Merges
  rw [hlast, List.getLast?_concat, htext]
  simp only [Option.mem_some, exists_eq_left', hplace, halone]
  constructor
  · rintro ⟨x, hx, y, hy, h⟩
    have hnone : g.blanks = [] := by
      by_contra hne
      have hmem : x ∈ g.blanks := by
        rw [← List.append_assoc, List.getLast?_append_of_ne_nil _ hne] at hx
        exact List.mem_of_getLast? hx
      obtain ⟨hl, hd, -⟩ := isBlank_apart (hblanks x hmem)
      rcases h with ⟨h, -⟩ | ⟨h, -⟩ | ⟨-, -, h⟩
      · simp [hl] at h
      · simp [hd] at h
      · rw [← List.append_assoc] at h
        exact placeBehind_append_ne _ hne h.symm
    rw [hnone, List.append_nil, List.getLast?_append_of_ne_nil _ hlex.ne_nil] at hx
    exact ⟨hnone, x, hx, y, hy, h.imp_right (Or.imp_right fun h => ⟨h.2.1, h.1⟩)⟩
  · rintro ⟨hnone, x, hx, y, hy, h⟩
    rw [hnone, List.append_nil, List.getLast?_append_of_ne_nil _ hlex.ne_nil]
    exact ⟨x, hx, y, hy, h.imp_right (Or.imp_right fun h => ⟨h.2, h.1, rfl⟩)⟩

/-- Two texts are read apart exactly at a seam. -/
theorem not_merges_iff (s : Scanner) (ha : Segmentation a.toList lead segments) :
    ¬ s.Merges a b ↔ Segment.Seam segments b.toList := by
  rcases List.eq_nil_or_concat' segments with rfl | ⟨segments, g, rfl⟩
  · simp [Segment.Seam, s.not_merges_of_nil ha]
  · simp [Segment.Seam, s.merges_iff_glues ha]

/-- What remains behind a text are the tokens of the rest, moved behind it. -/
theorem remaining_behind (s : Scanner) (before rest : List Char) :
    s.remaining (.behind before rest) = (s.tokenize (String.ofList rest)).1.map
      (Token.relocated (before.count '\n') (lastLine before).length) := by
  have hlines : ((textLines before).length : Int) - 1 = before.count '\n' := by
    rw [length_textLines]
    omega
  have hcolumns : (((lastLine before).length + 1 : Nat) : Int) - 1 = (lastLine before).length := by
    omega
  rw [remaining_eq_tokenize]
  simp only [Cursor.behind, hlines, hcolumns]

/-- Where the last lexeme of a text glues to what is behind it, another token is delivered in its
place. -/
theorem next_ne_of_glues (before : List Char) {l b : List Char} {kind : Kind}
    (hlex : IsLexeme kind l) (hglue : Glues l b) :
    (Cursor.behind before (l ++ b)).next.1.literal ≠ String.ofList l ∧
      (Cursor.behind before (l ++ b)).next.1.kind ≠ .eof := by
  obtain ⟨c, l, rfl⟩ := List.exists_cons_of_ne_nil hlex.ne_nil
  obtain ⟨l', tail, -, hrest, hlex', hglue'⟩ :=
    firstLexeme_spec (l ++ b) (hlex.not_blank List.mem_cons_self)
  have hnext := Cursor.next_behind before (List.forall_mem_nil _) hlex' hglue'
  rw [List.nil_append, List.cons_append, ← hrest] at hnext
  rw [List.cons_append, hnext]
  refine ⟨fun hsame => ?_, hlex'.kind_ne_eof⟩
  obtain rfl : l' = l := (List.cons.inj (String.ofList_injective hsame)).2
  obtain rfl : b = tail := List.append_cancel_left hrest
  exact hglue' hglue

/-- **Concatenation.** The tokens of two texts in a row are those of the first text, the end token
aside, and those of the second, moved behind the first: if and only if the two are not read as one
where they meet. -/
theorem tokenize_append_iff (s : Scanner) (a b : String) :
    (s.tokenize (a ++ b)).1 = (s.tokenize a).1.dropLast ++
      (s.tokenize b).1.map
        (Token.relocated (a.toList.count '\n') (lastLine a.toList).length) ↔
      ¬ s.Merges a b := by
  obtain ⟨lead, segments, ha⟩ := exists_segmentation a.toList
  have hb := s.remaining_behind a.toList b.toList
  rw [String.ofList_toList] at hb
  rw [s.not_merges_iff ha, s.tokenize_eq_behind (a ++ b), s.tokenize_eq_behind a, ← hb,
    String.toList_append]
  constructor
  · intro hsplit
    rcases List.eq_nil_or_concat' segments with rfl | ⟨segments, g, rfl⟩
    · simp [Segment.Seam]
    obtain ⟨before, tokens, htext, hlex, -, hlast, hwhole⟩ := s.remaining_unconcat ha
    intro g' hg' hnone hglue
    obtain rfl : g = g' := by simpa using hg'
    obtain ⟨hliteral, hkind⟩ := next_ne_of_glues before hlex hglue
    rw [hlast, htext, hnone, List.append_nil, List.append_assoc, hwhole, List.append_assoc,
      s.remaining_of_ne_eof hkind, List.singleton_append] at hsplit
    have hfirst := (List.cons.inj (List.append_cancel_left hsplit)).1
    exact hliteral (congrArg Token.literal hfirst)
  · intro hseam
    have hdrain : (s.remaining (.behind [] a.toList)).dropLast =
        (s.drain (.behind [] a.toList)).value := List.dropLast_concat
    rw [s.remaining_append ha hseam, hdrain, List.nil_append]

end Scanner

end MonkeyScan
