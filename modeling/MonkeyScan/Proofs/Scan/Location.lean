import MonkeyScan.Proofs.Scan.Segmentation
import MonkeyScan.Proofs.Cursor.Place

/-!
# Tokens locate their lexemes

Read against the lines of the text, the line and the column of a token give the place at which its
literal is written. The tokens stand in the order of the text, no two of them cover the same
character, and only blanks are covered by none.
-/
namespace MonkeyScan

namespace Token

/-- The literal is written at the place of the token. -/
structure WrittenIn (t : Token) (lines : List (List Char)) : Prop where
  line_pos : 1 ≤ t.line
  line_le : t.line ≤ lines.length
  written : ∃ before after, lines[(t.line - 1).toNat]? = some (before ++ t.literal.toList ++ after) ∧
    t.column = before.length + 1

/-- The span of the token has a character at a place. -/
def Covers (t : Token) (place : Int × Int) : Prop :=
  t.line = place.1 ∧ t.column ≤ place.2 ∧ place.2 < t.column + t.literal.length

/-- The order of lines, and of columns in a line. -/
def Precedes (a b : Token) : Prop :=
  a.line < b.line ∨ a.line = b.line ∧ a.column < b.column

end Token

theorem append_eq_append_cons {l r x y : List Char} {c : Char} (h : l ++ r = x ++ c :: y) :
    (∃ y', l = x ++ c :: y') ∨ ∃ x', x = l ++ x' ∧ r = x' ++ c :: y := by
  rcases List.append_eq_append_iff.mp h with ⟨x', hx, hr⟩ | ⟨l', hl, hr⟩
  · exact Or.inr ⟨x', hx, hr⟩
  · cases l' with
    | nil => exact Or.inr ⟨[], by simpa using hl.symm, by simpa using hr.symm⟩
    | cons d l' =>
      obtain ⟨rfl, -⟩ := List.cons.inj hr
      exact Or.inl ⟨l', hl⟩

/-! ## One token -/

namespace Segment
variable {g : Segment} {before after rest : List Char}

theorem tokenAt_place (g : Segment) (before rest : List Char) :
    (g.tokenAt (.behind before rest)).line = (placeBehind before).1 ∧
      (g.tokenAt (.behind before rest)).column = (placeBehind before).2 :=
  ⟨rfl, rfl⟩

theorem tokenAt_writtenIn (hlex : IsLexeme g.kind g.lexeme) :
    (g.tokenAt (.behind before rest)).WrittenIn (textLines (before ++ (g.lexeme ++ after))) := by
  have hpos := length_textLines_pos before
  have hle := length_textLines_le before (g.lexeme ++ after)
  refine ⟨?_, ?_, lastLine before, firstLine after, ?_, rfl⟩
  · simp only [tokenAt, Cursor.behind]
    omega
  · simp only [tokenAt, Cursor.behind]
    omega
  · have hindex : (((textLines before).length : Int) - 1).toNat = (textLines before).length - 1 := by
      omega
    simp only [tokenAt, Cursor.behind, String.toList_ofList, hindex, List.append_assoc]
    exact getElem?_textLines_append before hlex.newline_not_mem after

theorem tokenAt_covers {x y : List Char} {c : Char} (hlex : IsLexeme g.kind g.lexeme)
    (h : g.lexeme = x ++ c :: y) :
    (g.tokenAt (.behind before rest)).Covers (placeBehind (before ++ x)) := by
  have hx : '\n' ∉ x := fun hmem => hlex.newline_not_mem (h ▸ List.mem_append_left _ hmem)
  obtain ⟨hline, hcolumn⟩ := g.tokenAt_place before rest
  rw [placeBehind_append before hx, Token.Covers, hline, hcolumn]
  refine ⟨rfl, ?_, ?_⟩
  · simp only
    omega
  · simp only [tokenAt, String.length_ofList, h, List.length_append, List.length_cons]
    omega

/-- A token ends before any place that is reached behind its lexeme. -/
theorem tokenAt_apart {t : Token} {passed : List Char} (hlex : IsLexeme g.kind g.lexeme)
    (hline : t.line = (placeBehind (before ++ (g.lexeme ++ passed))).1)
    (hcolumn : t.column = (placeBehind (before ++ (g.lexeme ++ passed))).2) :
    (g.tokenAt (.behind before rest)).Precedes t ∧
      ∀ place, ¬ ((g.tokenAt (.behind before rest)).Covers place ∧ t.Covers place) := by
  have hlength : 0 < g.lexeme.length := List.length_pos_iff.mpr hlex.ne_nil
  have hle := placeBehind_le (before ++ g.lexeme) passed
  rw [placeBehind_append before hlex.newline_not_mem, List.append_assoc, ← hline, ← hcolumn] at hle
  obtain ⟨hline', hcolumn'⟩ := g.tokenAt_place before rest
  have hliteral : (g.tokenAt (.behind before rest)).literal.length = g.lexeme.length := by
    simp [tokenAt]
  simp only [Token.Precedes, Token.Covers, hline', hcolumn', hliteral]
  constructor
  · omega
  · intro place
    omega

end Segment

/-! ## The tokens of a scan -/

/-- Each token of a row of segments is that of one of them, behind what stands before it. -/
theorem mem_placed {before : List Char} {segments : List Segment} {t : Token}
    (ht : t ∈ placed (.behind before (segments.flatMap Segment.text)) segments) :
    ∃ g ∈ segments, ∃ passed after, segments.flatMap Segment.text = passed ++ (g.lexeme ++ after) ∧
      t = g.tokenAt (.behind (before ++ passed) (g.lexeme ++ after)) := by
  induction segments generalizing before with
  | nil => simp [placed] at ht
  | cons g more ih =>
    rw [List.flatMap_cons, placed, Cursor.advanceBy_behind, List.mem_cons] at ht
    rcases ht with rfl | ht
    · refine ⟨g, List.mem_cons_self, [], g.blanks ++ more.flatMap Segment.text, ?_, ?_⟩
      · simp [Segment.text]
      · simp [Segment.text]
    · obtain ⟨g', hmem, passed, after, hmore, rfl⟩ := ih ht
      refine ⟨g', List.mem_cons_of_mem g hmem, g.text ++ passed, after, ?_, ?_⟩
      · rw [List.flatMap_cons, hmore, List.append_assoc]
      · rw [List.append_assoc]

theorem placed_pairwise {before : List Char} {segments : List Segment}
    (hlex : ∀ g ∈ segments, IsLexeme g.kind g.lexeme) :
    (placed (.behind before (segments.flatMap Segment.text)) segments).Pairwise fun a b =>
      a.Precedes b ∧ ∀ place, ¬ (a.Covers place ∧ b.Covers place) := by
  induction segments generalizing before with
  | nil => exact List.Pairwise.nil
  | cons g more ih =>
    obtain ⟨hg, hmore⟩ := List.forall_mem_cons.mp hlex
    rw [List.flatMap_cons, placed, Cursor.advanceBy_behind]
    refine List.Pairwise.cons ?_ (ih hmore)
    intro t ht
    obtain ⟨g', -, passed, after, -, rfl⟩ := mem_placed ht
    have hplace : before ++ g.text ++ passed = before ++ (g.lexeme ++ (g.blanks ++ passed)) := by
      simp [Segment.text]
    rw [hplace]
    exact Segment.tokenAt_apart hg rfl rfl

/-- A character of the segments is blank or covered by one of their tokens. -/
theorem placed_covers {before x y : List Char} {c : Char} {segments : List Segment}
    (hlex : ∀ g ∈ segments, IsLexeme g.kind g.lexeme)
    (hblanks : ∀ g ∈ segments, ∀ b ∈ g.blanks, isBlank b)
    (h : segments.flatMap Segment.text = x ++ c :: y) :
    isBlank c ∨ ∃ t ∈ placed (.behind before (segments.flatMap Segment.text)) segments,
      t.Covers (placeBehind (before ++ x)) := by
  induction segments generalizing before x with
  | nil => simp at h
  | cons g more ih =>
    obtain ⟨hg, hmore⟩ := List.forall_mem_cons.mp hlex
    obtain ⟨hgblanks, hmoreblanks⟩ := List.forall_mem_cons.mp hblanks
    rw [List.flatMap_cons] at h ⊢
    rw [placed, Cursor.advanceBy_behind]
    rcases append_eq_append_cons h with ⟨y', htext⟩ | ⟨x', rfl, htail⟩
    · rcases append_eq_append_cons htext with ⟨y'', hlexeme⟩ | ⟨x', -, hb⟩
      · exact Or.inr ⟨_, List.mem_cons_self, Segment.tokenAt_covers hg hlexeme⟩
      · exact Or.inl (hgblanks c (by simp [hb]))
    · rcases ih hmore hmoreblanks htail with hblank | ⟨t, ht, hcovers⟩
      · exact Or.inl hblank
      · rw [List.append_assoc] at hcovers
        exact Or.inr ⟨t, List.mem_cons_of_mem _ ht, hcovers⟩

namespace Scanner

/-- **Tokens locate their lexemes.** Before the end token, each token gives the place at which its
literal is written. The tokens stand in the order of their places, and no two cover the same place.
A character that none of them covers is blank. The end token stands behind the last line. -/
theorem tokenize_locates (s : Scanner) (text : String) :
    let lines := textLines text.toList
    ∃ tokens : List Token,
      (s.tokenize text).1 =
        tokens ++ [⟨.eof, "", lines.length, (lastLine text.toList).length + 1⟩] ∧
      (∀ t ∈ tokens, t.kind ≠ .eof ∧ t.WrittenIn lines) ∧
      (tokens.Pairwise fun a b => a.Precedes b ∧ ∀ place, ¬ (a.Covers place ∧ b.Covers place)) ∧
      ∀ before c after, text.toList = before ++ c :: after →
        (∀ t ∈ tokens, ¬ t.Covers (placeBehind before)) → c ∈ blankCharacters := by
  intro lines
  obtain ⟨lead, segments, hseg⟩ := exists_segmentation text.toList
  have htext : text.toList = lead ++ segments.flatMap Segment.text := hseg.text_eq
  have hstart : (Cursor.ofText text).advanceBy lead.length =
      .behind lead (segments.flatMap Segment.text) := by
    rw [Cursor.ofText_eq_behind, htext, Cursor.advanceBy_behind, List.nil_append]
  have hlast : (Cursor.ofText text).advanceBy text.toList.length = .behind text.toList [] := by
    have hwhole := Cursor.advanceBy_behind [] text.toList []
    rwa [List.append_nil, List.nil_append, ← Cursor.ofText_eq_behind] at hwhole
  refine ⟨placed (.behind lead (segments.flatMap Segment.text)) segments, ?_, ?_,
    placed_pairwise hseg.lexemes, ?_⟩
  · rw [s.tokenize_of_segmentation hseg, hstart, hlast]
    rfl
  · intro t ht
    obtain ⟨g, hg, passed, after, hpassed, rfl⟩ := mem_placed ht
    have hlex := hseg.lexemes g hg
    refine ⟨hlex.kind_ne_eof, ?_⟩
    simp only [lines, htext, hpassed, ← List.append_assoc lead]
    exact Segment.tokenAt_writtenIn hlex
  · intro before c after hchar huncovered
    rw [htext] at hchar
    rcases append_eq_append_cons hchar with ⟨y, hlead⟩ | ⟨x, rfl, htail⟩
    · exact hseg.lead_subset (by simp [hlead])
    · rcases placed_covers hseg.lexemes hseg.blanks htail with hblank | ⟨t, ht, hc⟩
      · exact mem_blankCharacters.mpr hblank
      · exact absurd hc (huncovered t ht)

end Scanner

end MonkeyScan
