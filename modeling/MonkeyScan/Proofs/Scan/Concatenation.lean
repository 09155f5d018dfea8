import MonkeyScan.Proofs.Scan.Segmentation

/-!
# Scanning texts in a row

Where the last lexeme of a text does not glue to the text behind it, segmentations of the two can be
put in a row: only the blanks at the seam run together. So the lexemes of the whole are those of
its parts. In particular no lexeme crosses the end of a line.
-/
namespace MonkeyScan

/-- The last lexeme of a text, where no blanks follow it, does not glue to the next text. -/
def Segment.Seam (segments : List Segment) (next : List Char) : Prop :=
  ∀ g ∈ segments.getLast?, g.blanks = [] → ¬ Glues g.lexeme next

namespace Segmentation
variable {a b lead lead' : List Char} {segments segments' : List Segment}

/-- What follows the first lexeme has the same seam, and with the next text behind it, the first
lexeme does not glue to it either. -/
theorem uncons_append {g : Segment} (ha : Segmentation a lead (g :: segments))
    (hseam : Segment.Seam (g :: segments) b) :
    ∃ tail, a = lead ++ (g.lexeme ++ tail) ∧ IsLexeme g.kind g.lexeme ∧ ¬ Glues g.lexeme tail ∧
      ¬ Glues g.lexeme (tail ++ b) ∧ Segmentation tail g.blanks segments ∧
      Segment.Seam segments b := by
  obtain ⟨tail, rfl, hlex, hglue, htail⟩ := ha.uncons
  refine ⟨tail, rfl, hlex, hglue, ?_, htail, ?_⟩
  · cases tail with
    | cons c tail => exact fun h => hglue ((glues_congr rfl).mp h)
    | nil =>
      cases segments with
      | nil => exact hseam g rfl (by simpa using htail.text_eq)
      | cons h more =>
        obtain ⟨tail', hnil, hlex', -, -⟩ := htail.uncons
        simp [hlex'.ne_nil] at hnil
  · -- The seam of the whole is the seam of what follows `g`, unless nothing does.
    intro last hlast
    refine hseam last ?_
    cases segments with
    | nil => simp at hlast
    | cons h more => simpa using hlast

/-- Segmentations of two texts are joined at a seam. -/
theorem append (ha : Segmentation a lead segments) (hb : Segmentation b lead' segments')
    (hseam : Segment.Seam segments b) :
    ∃ lead'' segments'', Segmentation (a ++ b) lead'' segments'' ∧
      segments''.map Segment.lexed = segments.map Segment.lexed ++ segments'.map Segment.lexed := by
  induction segments generalizing a lead with
  | nil =>
    obtain rfl : a = lead := by simpa using ha.text_eq
    refine ⟨a ++ lead', segments', ⟨?_, ?_, hb.lexemes, hb.blanks_subset, hb.parted⟩, rfl⟩
    · rw [hb.text_eq, List.append_assoc]
    · exact List.append_subset.mpr ⟨ha.lead_subset, hb.lead_subset⟩
  | cons g more ih =>
    obtain ⟨tail, rfl, hlex, -, hglue, htail, hseam'⟩ := ha.uncons_append hseam
    obtain ⟨blanks, segments'', hrest, hlexed⟩ := ih htail hseam'
    let joined : Segment := ⟨g.kind, g.lexeme, blanks⟩
    refine ⟨lead, joined :: segments'', ?_, ?_⟩
    · rw [List.append_assoc, List.append_assoc]
      exact Segmentation.cons (g := joined) ha.lead_blank hlex hglue hrest
    · rw [List.map_cons, hlexed]
      rfl

/-- A text that ends in a blank can be followed by any text. -/
theorem seam_of_blank {c : Char} (ha : Segmentation a lead segments) (hc : a.getLast? = some c)
    (hblank : isBlank c) (next : List Char) : Segment.Seam segments next := by
  intro g hg hnone
  have hmem : g ∈ segments := List.mem_of_getLast? hg
  have hlex := ha.lexemes g hmem
  have hlast : g.lexeme.getLast? = some c := by
    obtain ⟨before, rfl⟩ := List.getLast?_eq_some_iff.mp hg
    rw [ha.text_eq, List.flatMap_append, List.flatMap_singleton, Segment.text, hnone,
      List.append_nil, ← List.append_assoc, List.getLast?_append_of_ne_nil _ hlex.ne_nil] at hc
    exact hc
  have happart := hlex.not_blank (List.mem_of_getLast? hlast)
  simp [hblank] at happart

end Segmentation

namespace Scanner

/-- The kinds and literals of the tokens of a text, the end token aside. -/
def lexed (s : Scanner) (text : List Char) : List (Kind × String) :=
  (s.drain (.ofText (String.ofList text))).value.map Token.lexed

theorem lexed_of_segmentation (s : Scanner) {text lead : List Char} {segments : List Segment}
    (h : Segmentation text lead segments) : s.lexed text = segments.map Segment.lexed := by
  have hrest : (Cursor.ofText (String.ofList text)).rest = text := String.toList_ofList
  rw [← hrest] at h
  rw [lexed, (s.drain_of_segmentation h).1, map_lexed_placed]

/-- Every token but the end token is a lexeme. -/
theorem exists_lexeme_of_mem_tokenize (s : Scanner) {text : String} {t : Token}
    (ht : t ∈ (s.tokenize text).1.filter fun t => t.kind ≠ .eof) :
    ∃ l, IsLexeme t.kind l ∧ t.literal = String.ofList l := by
  obtain ⟨lead, segments, hseg⟩ := exists_segmentation text.toList
  have hlexed := s.lexed_of_segmentation hseg
  rw [lexed, String.ofList_toList, ← s.filter_tokenize] at hlexed
  have hmem := List.mem_map_of_mem (f := Token.lexed) ht
  rw [hlexed] at hmem
  obtain ⟨g, hg, hsame⟩ := List.mem_map.mp hmem
  obtain ⟨hkind, hliteral⟩ := Prod.mk.inj hsame
  exact ⟨g.lexeme, hkind ▸ hseg.lexemes g hg, hliteral.symm⟩

/-- A text that ends in a blank is scanned apart from the text behind it. -/
theorem lexed_append_of_blank (s : Scanner) {a : List Char} {c : Char}
    (hc : a.getLast? = some c) (hblank : isBlank c) (b : List Char) :
    s.lexed (a ++ b) = s.lexed a ++ s.lexed b := by
  obtain ⟨lead, segments, ha⟩ := exists_segmentation a
  obtain ⟨lead', segments', hb⟩ := exists_segmentation b
  obtain ⟨lead'', segments'', hab, hlexed⟩ := ha.append hb (ha.seam_of_blank hc hblank b)
  rw [s.lexed_of_segmentation hab, s.lexed_of_segmentation ha, s.lexed_of_segmentation hb, hlexed]

end Scanner

end MonkeyScan
