import MonkeyScan.Proofs.Lexeme.Grammar
import MonkeyScan.Scanner
import Mathlib.Data.List.Chain

/-!
# Segmentations of a text

A segmentation writes a text as blanks, and then lexemes with blanks behind each, such that a
lexeme with no blanks behind it does not glue to the next one. Every text has a segmentation, and
a scan delivers exactly the lexemes of any of them, each at its place. So what is proved about
segmentations holds of scans.
-/
namespace MonkeyScan

/-- The part of a token that does not depend on where it stands. -/
def Token.lexed (t : Token) : Kind × String := (t.kind, t.literal)

/-- A lexeme with its kind and the blanks behind it. -/
structure Segment where
  kind : Kind
  lexeme : List Char
  blanks : List Char

namespace Segment

def text (g : Segment) : List Char := g.lexeme ++ g.blanks

def lexed (g : Segment) : Kind × String := (g.kind, String.ofList g.lexeme)

/-- The token of a segment that starts at a cursor. -/
def tokenAt (g : Segment) (c : Cursor) : Token :=
  ⟨g.kind, String.ofList g.lexeme, c.line, c.column⟩

@[simp] theorem tokenAt_kind (g : Segment) (c : Cursor) : (g.tokenAt c).kind = g.kind := rfl

/-- Two segments in a row are read apart: blanks part them, or their lexemes do not glue. -/
def Parted (g h : Segment) : Prop := g.blanks = [] → ¬ Glues g.lexeme h.lexeme

end Segment

/-- A text written as blanks and segments. -/
structure Segmentation (text lead : List Char) (segments : List Segment) : Prop where
  text_eq : text = lead ++ segments.flatMap Segment.text
  lead_subset : lead ⊆ blankCharacters
  lexemes : ∀ g ∈ segments, IsLexeme g.kind g.lexeme
  blanks_subset : ∀ g ∈ segments, g.blanks ⊆ blankCharacters
  parted : segments.IsChain Segment.Parted

namespace Segmentation
variable {text lead tail : List Char} {g : Segment} {segments : List Segment}

theorem lead_blank (h : Segmentation text lead segments) : ∀ c ∈ lead, isBlank c :=
  fun _ hc => mem_blankCharacters.mp (h.lead_subset hc)

theorem blanks (h : Segmentation text lead segments) : ∀ g ∈ segments, ∀ c ∈ g.blanks, isBlank c :=
  fun g hg _ hc => mem_blankCharacters.mp (h.blanks_subset g hg hc)

theorem nil (h : ∀ c ∈ lead, isBlank c) : Segmentation lead lead [] where
  text_eq := by simp
  lead_subset := fun c hc => mem_blankCharacters.mpr (h c hc)
  lexemes := by simp
  blanks_subset := by simp
  parted := .nil

/-- Where no blanks stand in between, a lexeme glues to the rest if it glues to the next lexeme. -/
theorem glues_flatMap_iff {l : List Char} {h : Segment} (hne : h.lexeme ≠ []) :
    Glues l ((h :: segments).flatMap Segment.text) ↔ Glues l h.lexeme := by
  obtain ⟨a, more, ha⟩ := List.exists_cons_of_ne_nil hne
  apply glues_congr
  simp [Segment.text, ha]

/-- What follows the first lexeme is segmented by the blanks behind it and the other segments. -/
theorem uncons (h : Segmentation text lead (g :: segments)) :
    ∃ tail, text = lead ++ (g.lexeme ++ tail) ∧ IsLexeme g.kind g.lexeme ∧
      ¬ Glues g.lexeme tail ∧ Segmentation tail g.blanks segments := by
  refine ⟨g.blanks ++ segments.flatMap Segment.text, ?_, h.lexemes g List.mem_cons_self, ?_, ?_⟩
  · rw [h.text_eq, List.flatMap_cons, Segment.text, List.append_assoc]
  · cases hb : g.blanks with
    | cons b more =>
      exact not_glues_of_blank (b := b) rfl (h.blanks g List.mem_cons_self b (by simp [hb]))
    | nil =>
      cases segments with
      | nil => exact not_glues_nil _
      | cons g' more =>
        rw [List.nil_append, glues_flatMap_iff (h.lexemes g' (by simp)).ne_nil]
        exact (List.isChain_cons_cons.mp h.parted).1 hb
  · exact ⟨rfl, h.blanks_subset g List.mem_cons_self,
      fun x hx => h.lexemes x (List.mem_cons_of_mem g hx),
      fun x hx => h.blanks_subset x (List.mem_cons_of_mem g hx), h.parted.of_cons⟩

theorem cons (hlead : ∀ c ∈ lead, isBlank c) (hlex : IsLexeme g.kind g.lexeme)
    (hg : ¬ Glues g.lexeme tail) (h : Segmentation tail g.blanks segments) :
    Segmentation (lead ++ (g.lexeme ++ tail)) lead (g :: segments) where
  text_eq := by rw [h.text_eq, List.flatMap_cons, Segment.text, List.append_assoc]
  lead_subset := fun c hc => mem_blankCharacters.mpr (hlead c hc)
  lexemes := List.forall_mem_cons.mpr ⟨hlex, h.lexemes⟩
  blanks_subset := List.forall_mem_cons.mpr ⟨h.lead_subset, h.blanks_subset⟩
  parted := by
    rw [List.isChain_cons]
    refine ⟨?_, h.parted⟩
    intro g' hg' hb
    obtain ⟨more, rfl⟩ := List.head?_eq_some_iff.mp hg'
    rw [h.text_eq, hb, List.nil_append, glues_flatMap_iff (h.lexemes g' (by simp)).ne_nil] at hg
    exact hg

end Segmentation

/-- Every text has a segmentation: read the blanks, the lexeme behind them, and go on. -/
theorem exists_segmentation (text : List Char) :
    ∃ lead segments, Segmentation text lead segments := by
  induction hn : text.length using Nat.strong_induction_on generalizing text with
  | _ n ih =>
    have hlead : ∀ c ∈ text.takeWhile isBlank, isBlank c :=
      List.all_eq_true.mp List.all_takeWhile
    have hsplit := List.takeWhile_append_dropWhile (p := isBlank) (l := text)
    have hstop := List.head?_dropWhile_not isBlank text
    generalize text.takeWhile isBlank = lead at hlead hsplit
    generalize text.dropWhile isBlank = rest at hstop hsplit
    subst hsplit
    cases rest with
    | nil =>
      rw [List.append_nil]
      exact ⟨lead, [], .nil hlead⟩
    | cons c rest =>
      obtain ⟨l, tail, -, rfl, hlex, hg⟩ := firstLexeme_spec rest (c := c) hstop
      have hlen : tail.length < n := by
        simp only [List.length_append, List.length_cons] at hn
        omega
      obtain ⟨blanks, segments, h⟩ := ih _ hlen tail rfl
      let g : Segment := ⟨(firstLexeme c (l ++ tail)).1, c :: l, blanks⟩
      exact ⟨lead, g :: segments, Segmentation.cons (g := g) hlead hlex hg h⟩

namespace Cursor

theorem skipBlanks_of_append {c : Cursor} {lead rest : List Char} (h : c.rest = lead ++ rest)
    (hlead : ∀ x ∈ lead, isBlank x) (hrest : ∀ x ∈ rest.head?, isBlank x = false) :
    c.skipBlanks = c.advanceBy lead.length := by
  rw [skipBlanks, skipRun, run, h, takeWhile_append_stop hlead hrest]

/-- Where only blanks are left, the end token is delivered. -/
theorem next_of_nil {c : Cursor} {lead : List Char} (h : Segmentation c.rest lead []) :
    c.next = (⟨.eof, "", (c.advanceBy lead.length).line, (c.advanceBy lead.length).column⟩,
      c.advanceBy lead.length) := by
  have hrest : c.rest = lead ++ [] := by simpa using h.text_eq
  rw [next, skipBlanks_of_append hrest h.lead_blank (by simp)]
  simp [hrest]

/-- Behind the blanks, a lexeme that does not glue to the rest is delivered with the place that it
starts at. -/
theorem next_of_lexeme {c : Cursor} {kind : Kind} {lead l tail : List Char}
    (h : c.rest = lead ++ (l ++ tail)) (hlead : ∀ x ∈ lead, isBlank x) (hlex : IsLexeme kind l)
    (hg : ¬ Glues l tail) :
    c.next = (⟨kind, String.ofList l, (c.advanceBy lead.length).line,
      (c.advanceBy lead.length).column⟩, (c.advanceBy lead.length).advanceBy l.length) := by
  obtain ⟨a, l, rfl⟩ := List.exists_cons_of_ne_nil hlex.ne_nil
  have ha : ∀ x ∈ (a :: l ++ tail).head?, isBlank x = false := by
    simpa using hlex.not_blank List.mem_cons_self
  have hstart : (c.advanceBy lead.length).rest = a :: (l ++ tail) := by
    simp [h]
  rw [next, skipBlanks_of_append h hlead ha]
  simp only [hstart, firstLexeme_append hlex hg]

theorem next_of_cons {c : Cursor} {lead : List Char} {g : Segment} {segments : List Segment}
    (h : Segmentation c.rest lead (g :: segments)) :
    c.next = (g.tokenAt (c.advanceBy lead.length),
      (c.advanceBy lead.length).advanceBy g.lexeme.length) := by
  obtain ⟨tail, hrest, hlex, hg, -⟩ := h.uncons
  exact next_of_lexeme hrest h.lead_blank hlex hg

/-- Blanks can be left behind before a token is read as well as with it. -/
theorem next_of_blanks {c : Cursor} {lead rest : List Char} (h : c.rest = lead ++ rest)
    (hlead : ∀ x ∈ lead, isBlank x) : (c.advanceBy lead.length).next = c.next := by
  have hblanks : (c.advanceBy lead.length).skipBlanks = c.skipBlanks := by
    simp only [skipBlanks, skipRun, run, advanceBy_rest, h, List.drop_left,
      List.takeWhile_append_of_pos hlead, List.length_append, advanceBy_add]
  rw [next, next, hblanks]

end Cursor

/-- The tokens of segments, the first of them at a cursor. -/
def placed : Cursor → List Segment → List Token
  | _, [] => []
  | c, g :: more => g.tokenAt c :: placed (c.advanceBy g.text.length) more

theorem map_lexed_placed (c : Cursor) (segments : List Segment) :
    (placed c segments).map Token.lexed = segments.map Segment.lexed := by
  induction segments generalizing c with
  | nil => rfl
  | cons g more ih => simp [placed, ih, Segment.tokenAt, Token.lexed, Segment.lexed]

namespace Scanner

/-- A drain depends on no more than the next token and what stands behind it. -/
theorem drain_congr (s : Scanner) {c d : Cursor} (h : c.next = d.next) : s.drain c = s.drain d := by
  have hone : s.next c = s.next d := by rw [Scanner.next, Scanner.next, h]
  rw [drain.eq_def s c, drain.eq_def s d, hone]

/-- A scan delivers the lexemes of any segmentation of the rest of the text, each at its place,
and leaves the cursor at the end. -/
theorem drain_of_segmentation (s : Scanner) {c : Cursor} {lead : List Char}
    {segments : List Segment} (h : Segmentation c.rest lead segments) :
    (s.drain c).value = placed (c.advanceBy lead.length) segments ∧
      (s.drain c).cursor = c.advanceBy c.rest.length := by
  induction segments generalizing c lead with
  | nil =>
    have hnext := Cursor.next_of_nil h
    have hrest : c.rest = lead := by simpa using h.text_eq
    rw [hrest]
    simpa [hnext, placed] using s.drain_of_eof (c := c) (by rw [hnext])
  | cons g segments ih =>
    obtain ⟨tail, hrest, hlex, -, htail⟩ := h.uncons
    have hnext := Cursor.next_of_cons h
    obtain ⟨hvalue, hcursor⟩ := s.drain_of_ne_eof (c := c) (by rw [hnext]; exact hlex.kind_ne_eof)
    have hafter : c.next.2.rest = tail := by simp [hnext, hrest]
    obtain ⟨ihvalue, ihcursor⟩ := ih (c := c.next.2) (by rwa [hafter])
    rw [hvalue, hcursor, ihvalue, ihcursor, hafter, hnext]
    simp only [placed, ← Cursor.advanceBy_add, Segment.text, List.length_append]
    constructor
    · rw [Nat.add_assoc]
    · rw [hrest, List.length_append, List.length_append, Nat.add_assoc]

/-- The tokens of a text are the lexemes of any segmentation of it, and then the end token. -/
theorem tokenize_of_segmentation (s : Scanner) {text : String} {lead : List Char}
    {segments : List Segment} (h : Segmentation text.toList lead segments) :
    let start := (Cursor.ofText text).advanceBy lead.length
    let last := (Cursor.ofText text).advanceBy text.toList.length
    (s.tokenize text).1 = placed start segments ++ [⟨.eof, "", last.line, last.column⟩] := by
  obtain ⟨hvalue, hcursor⟩ := s.drain_of_segmentation (c := .ofText text) h
  have hlast : Segmentation (s.drain (.ofText text)).cursor.rest [] [] := by
    have hrest : (s.drain (.ofText text)).cursor.rest = [] := by
      rw [hcursor]
      simp
    rw [hrest]
    exact .nil (by simp)
  have hnext := Cursor.next_of_nil hlast
  simp only [tokenize, hvalue, next, hnext]
  rw [hcursor]
  rfl

/-- The tokens that are not the end token are those that a scan delivers before it. -/
theorem filter_tokenize (s : Scanner) (text : String) :
    (s.tokenize text).1.filter (fun t => t.kind ≠ .eof) = (s.drain (.ofText text)).value := by
  obtain ⟨lead, segments, hseg⟩ := exists_segmentation text.toList
  have hkinds : ∀ t ∈ placed ((Cursor.ofText text).advanceBy lead.length) segments,
      t.kind ≠ .eof := by
    intro t ht
    have hlexed := List.mem_map_of_mem (f := Token.lexed) ht
    rw [map_lexed_placed] at hlexed
    obtain ⟨g, hg, hkind⟩ := List.mem_map.mp hlexed
    have hkind' : g.kind = t.kind := congrArg Prod.fst hkind
    exact hkind' ▸ (hseg.lexemes g hg).kind_ne_eof
  rw [s.tokenize_of_segmentation hseg, (s.drain_of_segmentation (c := .ofText text) hseg).1,
    List.filter_append, List.filter_eq_self.mpr (by simpa using hkinds)]
  simp

theorem map_lexed_tokenize_of_segmentation (s : Scanner) {text : String} {lead : List Char}
    {segments : List Segment} (h : Segmentation text.toList lead segments) :
    (s.tokenize text).1.map Token.lexed = segments.map Segment.lexed ++ [(.eof, "")] := by
  rw [s.tokenize_of_segmentation h, List.map_append, map_lexed_placed]
  rfl

/-- **Longest match.** The kinds and literals of a scan are those of the segmentations of the
text, and the end token behind them. Every text has a segmentation, and all its segmentations
have the same kinds and literals. -/
theorem tokenize_iff_segmentation (s : Scanner) (text : String) :
    (∀ ts : List (Kind × String),
      (s.tokenize text).1.map Token.lexed = ts ++ [(.eof, "")] ↔
        ∃ lead segments, Segmentation text.toList lead segments ∧
          ts = segments.map Segment.lexed) ∧
    ∃! ts : List (Kind × String), ∃ lead segments, Segmentation text.toList lead segments ∧
      ts = segments.map Segment.lexed := by
  obtain ⟨lead, segments, hseg⟩ := exists_segmentation text.toList
  have hscan := s.map_lexed_tokenize_of_segmentation hseg
  refine ⟨?_, segments.map Segment.lexed, ⟨lead, segments, hseg, rfl⟩, ?_⟩
  · intro ts
    constructor
    · intro hts
      exact ⟨lead, segments, hseg, List.append_cancel_right (hts.symm.trans hscan)⟩
    · rintro ⟨lead', segments', hseg', rfl⟩
      exact s.map_lexed_tokenize_of_segmentation hseg'
  · rintro ts ⟨lead', segments', hseg', rfl⟩
    have hscan' := s.map_lexed_tokenize_of_segmentation hseg'
    exact List.append_cancel_right (hscan'.symm.trans hscan)

end Scanner

end MonkeyScan
