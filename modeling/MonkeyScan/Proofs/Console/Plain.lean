import MonkeyScan.Proofs.Console.Glyphs
import Mathlib.Data.List.Infix

/-!
# Plain text amid markup

A text is plain if no tag stands in it, escaped or not, no backslash before a bracket, and no code
of an emoji. Plain text is printed as it stands, and no other text is: what is taken out of a text or
replaced in it starts with a mark, and what is shown for it has fewer.
-/
namespace MonkeyScan.Console

variable {s before body after : List Char} {c : Char} {n offset : Nat}

/-! ## Where tags stand -/

theorem eq_append_of_untilBracket? (h : untilBracket? s = some (body, after)) :
    s = body ++ ']' :: after ∧ ∀ c ∈ body, c ≠ ']' ∧ c ≠ '[' := by
  induction s generalizing body with
  | nil => cases h
  | cons c s ih =>
    rw [untilBracket?] at h
    split at h
    · rename_i hclose
      cases h
      exact ⟨by rw [hclose, List.nil_append], List.forall_mem_nil _⟩
    · rename_i hclose
      split at h
      · cases h
      · rename_i hopen
        obtain ⟨⟨inner, rest⟩, hrest, hpair⟩ := Option.map_eq_some_iff.mp h
        cases hpair
        obtain ⟨hs, hinner⟩ := ih hrest
        exact ⟨by rw [hs, List.cons_append], List.forall_mem_cons.mpr ⟨⟨hclose, hopen⟩, hinner⟩⟩

/-- The text of a tag with some backslashes before it. -/
theorem eq_append_of_tagAt? (h : tagAt? s = some (n, body, after)) :
    s = List.replicate n '\\' ++ '[' :: (body ++ ']' :: after) ∧
      ∃ first more, body = first :: more ∧ isTagStart first ∧ ∀ c ∈ more, c ≠ ']' ∧ c ≠ '[' := by
  rw [tagAt?] at h
  split at h
  · rename_i first rest hdrop
    split at h
    · rename_i hstart
      obtain ⟨⟨more, last⟩, hrest, hpair⟩ := Option.map_eq_some_iff.mp h
      cases hpair
      obtain ⟨hsplit, hmore⟩ := eq_append_of_untilBracket? hrest
      have hslashes : s.takeWhile (· = '\\') =
          List.replicate (s.takeWhile (· = '\\')).length '\\' :=
        List.eq_replicate_of_mem fun c hc => by simpa using List.mem_takeWhile_imp hc
      refine ⟨?_, first, more, rfl, hstart, hmore⟩
      calc s = s.takeWhile (· = '\\') ++ s.dropWhile (· = '\\') := List.takeWhile_append_dropWhile.symm
        _ = _ := by rw [← hslashes, hdrop, hsplit, List.cons_append]
    · cases h
  · cases h

/-- A text is without tags exactly if no part of it is a tag. -/
theorem tagless_iff : Tagless s ↔ ∀ first more, isTagStart first →
    (∀ c ∈ more, c ≠ ']' ∧ c ≠ '[') → ¬ '[' :: first :: (more ++ [']']) <:+: s := by
  constructor
  · rintro h first more hstart hmore ⟨front, rest, rfl⟩
    have hnone := h ('[' :: first :: (more ++ ']' :: rest)) ⟨front, by simp⟩
    rw [tagAt?_tag hstart hmore] at hnone
    cases hnone
  · rintro h t ⟨front, rfl⟩
    cases htag : tagAt? t with
    | none => rfl
    | some found =>
      obtain ⟨n, body, after⟩ := found
      obtain ⟨ht, first, more, rfl, hstart, hmore⟩ := eq_append_of_tagAt? htag
      refine absurd ⟨front ++ List.replicate n '\\', after, ?_⟩ (h first more hstart hmore)
      rw [ht]
      simp

/-! ## Escapes -/

theorem mem_of_mem_unescapeBrackets (h : c ∈ unescapeBrackets s) : c ∈ s := by
  induction s using unescapeBrackets.induct with
  | case1 rest ih =>
    rw [unescapeBrackets] at h
    rcases List.mem_cons.mp h with rfl | h
    · simp
    · exact List.mem_cons_of_mem _ (List.mem_cons_of_mem _ (ih h))
  | case2 d rest hne ih =>
    rw [unescapeBrackets.eq_2 _ _ hne] at h
    rcases List.mem_cons.mp h with rfl | h
    · exact List.mem_cons_self
    · exact List.mem_cons_of_mem _ (ih h)
  | case3 => exact h

/-- Every backslash that is dropped is a mark. Where as many are left, no bracket was escaped. -/
theorem marks_unescapeBrackets (s : List Char) : marks (unescapeBrackets s) ≤ marks s ∧
    (marks s ≤ marks (unescapeBrackets s) → ¬ ['\\', '['] <:+: s) := by
  induction s using unescapeBrackets.induct with
  | case1 rest ih =>
    have hbackslash : marks ['\\'] = 1 := by decide
    rw [unescapeBrackets, marks_cons, marks_cons '\\', marks_cons '[' rest, hbackslash]
    exact ⟨by omega, fun _ => by omega⟩
  | case2 c rest hne ih =>
    rw [unescapeBrackets.eq_2 _ _ hne, marks_cons, marks_cons c rest]
    refine ⟨by omega, fun hle hinfix => ?_⟩
    rcases List.infix_cons_iff.mp hinfix with hfirst | hrest
    · obtain ⟨last, hlast⟩ := hfirst
      cases hlast
      exact hne last rfl rfl
    · exact ih.2 (by omega) hrest
  | case3 => exact ⟨Nat.le_refl _, fun _ => by simp⟩

theorem unescapeBrackets_of_unescaped (h : ¬ ['\\', '['] <:+: s) : unescapeBrackets s = s := by
  induction s using unescapeBrackets.induct with
  | case1 rest ih => exact absurd ⟨[], rest, rfl⟩ h
  | case2 c rest hne ih =>
    rw [unescapeBrackets.eq_2 _ _ hne, ih fun hrest => h (List.infix_cons hrest)]
  | case3 => rfl

/-! ## What is shown -/

/-- What is shown of a piece. -/
def MarkupPiece.shown : MarkupPiece → List Char
  | .plain s => shownPlain (unescapeBrackets s)
  | .tag _ _ => []

theorem flatMap_shown_flushed (before : List Char) :
    (flushed before).flatMap MarkupPiece.shown = shownPlain (unescapeBrackets before.reverse) := by
  unfold flushed
  split
  · rename_i hnil
    rw [hnil, List.reverse_nil, unescapeBrackets, shownPlain_nil]
    rfl
  · simp [MarkupPiece.shown]

theorem exists_of_bind_eq_ok {α β ε : Type} {x : Except ε α} {f : α → Except ε β} {b : β}
    (h : x >>= f = .ok b) : ∃ a, x = .ok a ∧ f a = .ok b := by
  cases x with
  | error e => cases h
  | ok a => exact ⟨a, rfl, h⟩

/-- The styles of a text decide whether it is shown, but not what is shown. -/
theorem StyledText.text_of_ofPieces {pieces : List MarkupPiece} {opened : List OpenStyle}
    {ended : List StyleSpan} {t : StyledText} (h : ofPieces before opened ended pieces = .ok t) :
    t.text = before.reverse ++ pieces.flatMap MarkupPiece.shown := by
  induction pieces generalizing before opened ended with
  | nil =>
    rw [ofPieces] at h
    rw [← Except.ok.inj h, List.flatMap_nil, List.append_nil]
  | cons piece pieces ih =>
    rw [List.flatMap_cons]
    cases piece with
    | plain s =>
      rw [ofPieces] at h
      rw [ih h, List.reverse_append, List.reverse_reverse, List.append_assoc]
      rfl
    | tag offset body =>
      rw [ofPieces] at h
      split at h
      · obtain ⟨⟨closed, rest⟩, -, hmore⟩ := exists_of_bind_eq_ok h
        obtain ⟨-, -, hrest⟩ := exists_of_bind_eq_ok hmore
        exact ih hrest
      · obtain ⟨style, -, hrest⟩ := exists_of_bind_eq_ok h
        exact ih hrest

theorem eq_flatMap_shown_of_ofMarkup {text : List Char} (h : ofMarkup s = .ok text) :
    text = (markupPieces 0 [] s).flatMap MarkupPiece.shown := by
  obtain ⟨t, hpieces, hshown⟩ := exists_of_bind_eq_ok h
  obtain ⟨-, -, htext⟩ := exists_of_bind_eq_ok hshown
  rw [← Except.ok.inj htext, StyledText.text_of_ofPieces hpieces, List.reverse_nil, List.nil_append]

theorem markupPieces_of_tagAt? (h : tagAt? (c :: s) = some (n, body, after)) :
    markupPieces offset before (c :: s) = flushed before ++ (flushed (List.replicate (n / 2) '\\') ++
      (if n % 2 = 1 then .plain ('[' :: (body ++ [']'])) else .tag (offset + n) body) ::
        markupPieces (offset + n + body.length + 2) [] after) := by
  rw [markupPieces]
  split
  · rename_i slashes body' after' heq
    rw [h] at heq
    cases heq
    simp [flushed]
  · rename_i heq
    rw [h] at heq
    cases heq

theorem marks_shown (s : List Char) : marks (shownPlain (unescapeBrackets s)) ≤ marks s ∧
    (marks s ≤ marks (shownPlain (unescapeBrackets s)) → ¬ ['\\', '['] <:+: s ∧ Uncoded s) := by
  have hkept : marks (shownPlain (unescapeBrackets s)) ≤ marks (replaceEmoji (unescapeBrackets s)) :=
    List.Sublist.countP_le List.filter_sublist
  have hcoded := marks_replaceEmoji (unescapeBrackets s)
  have hescaped := marks_unescapeBrackets s
  refine ⟨by omega, fun hle => ?_⟩
  have hraw : ¬ ['\\', '['] <:+: s := hescaped.2 (by omega)
  refine ⟨hraw, ?_⟩
  have huncoded := hcoded.2 (by omega)
  rwa [unescapeBrackets_of_unescaped hraw] at huncoded

/-- **Every tag costs marks,** whether it is escaped or not. -/
theorem marks_markupPieces (offset : Nat) (before s : List Char) :
    marks ((markupPieces offset before s).flatMap MarkupPiece.shown) ≤ marks before + marks s ∧
      (marks before + marks s ≤ marks ((markupPieces offset before s).flatMap MarkupPiece.shown) →
        Tagless s) := by
  induction offset, before, s using markupPieces.induct with
  | case1 offset before =>
    have hnone : Tagless [] := tagless_of_not_mem List.not_mem_nil
    have hbefore := (marks_shown before.reverse).1
    rw [marks_reverse] at hbefore
    rw [markupPieces_of_tagless hnone, List.reverse_nil, List.nil_append, flatMap_shown_flushed]
    exact ⟨by omega, fun _ => hnone⟩
  | case2 offset before c s n body after htag ih =>
    -- Even an escaped tag shows fewer backslashes than it has.
    obtain ⟨hsource, -⟩ := eq_append_of_tagAt? htag
    have hnil : marks [] = 0 := rfl
    have hopen : marks ['['] = 1 := by decide
    have hclose : marks [']'] = 0 := by decide
    have hslashes : ∀ k, marks (List.replicate k '\\') = k := fun k => by
      simp [marks, List.countP_replicate, isMark]
    have hbefore := (marks_shown before.reverse).1
    have hkept := (marks_shown (List.replicate (n / 2) '\\').reverse).1
    have htagged : n / 2 + marks (MarkupPiece.shown
        (if n % 2 = 1 then .plain ('[' :: (body ++ [']'])) else .tag (offset + n) body)) <
          n + (1 + marks body) := by
      split
      · have hplain := (marks_shown ('[' :: (body ++ [']']))).1
        rw [marks_cons, marks_append, hopen, hclose] at hplain
        rw [MarkupPiece.shown]
        omega
      · rw [MarkupPiece.shown, hnil]
        omega
    have hafter := ih.1
    rw [hnil, Nat.zero_add] at hafter
    rw [marks_reverse] at hbefore hkept
    rw [hslashes] at hkept
    have hmarks : marks (c :: s) = n + (1 + marks body + marks after) := by
      rw [hsource, marks_append, marks_cons '[', marks_append, marks_cons ']', hslashes, hopen, hclose]
      omega
    rw [markupPieces_of_tagAt? htag, hmarks, List.flatMap_append, List.flatMap_append,
      List.flatMap_cons, flatMap_shown_flushed, flatMap_shown_flushed, marks_append, marks_append,
      marks_append]
    exact ⟨by omega, fun _ => by omega⟩
  | case3 offset before c s htag ih =>
    rw [markupPieces_cons_of_tagAt?_eq_none htag, marks_cons c s]
    rw [marks_cons c before] at ih
    exact ⟨by omega, fun hle => tagless_cons.mpr ⟨htag, ih.2 (by omega)⟩⟩

theorem isKept_of_mem_shown (h : ∀ c ∈ s, isKept c) :
    ∀ c ∈ shownPlain (unescapeBrackets s), isKept c := fun c hc =>
  isKept_of_mem_replaceEmoji (fun d hd => h d (mem_of_mem_unescapeBrackets hd)) c
    (List.filter_sublist.mem hc)

/-- Markup shows no control that is not in it. -/
theorem isKept_of_mem_markupPieces (offset : Nat) (hbefore : ∀ c ∈ before, isKept c)
    (h : ∀ c ∈ s, isKept c) :
    ∀ c ∈ (markupPieces offset before s).flatMap MarkupPiece.shown, isKept c := by
  have hflushed : ∀ {text : List Char}, (∀ c ∈ text, isKept c) →
      ∀ c ∈ (flushed text).flatMap MarkupPiece.shown, isKept c := by
    intro text htext
    rw [flatMap_shown_flushed]
    exact isKept_of_mem_shown fun c hc => htext c (List.mem_reverse.mp hc)
  induction offset, before, s using markupPieces.induct with
  | case1 offset before =>
    rw [markupPieces_of_tagless (tagless_of_not_mem List.not_mem_nil), List.reverse_nil,
      List.nil_append]
    exact hflushed hbefore
  | case2 offset before c s n body after htag ih =>
    obtain ⟨hsource, -⟩ := eq_append_of_tagAt? htag
    rw [hsource] at h
    obtain ⟨hslashes, hrest⟩ := List.forall_mem_append.mp h
    obtain ⟨hopen, hmore⟩ := List.forall_mem_cons.mp hrest
    obtain ⟨hbody, hlast⟩ := List.forall_mem_append.mp hmore
    obtain ⟨hclose, hafter⟩ := List.forall_mem_cons.mp hlast
    have hkept : ∀ c ∈ List.replicate (n / 2) '\\', isKept c := fun c hc => by
      rw [List.eq_of_mem_replicate hc]
      decide
    rw [markupPieces_of_tagAt? htag, List.flatMap_append, List.flatMap_append, List.flatMap_cons]
    refine List.forall_mem_append.mpr ⟨hflushed hbefore, List.forall_mem_append.mpr
      ⟨hflushed hkept, List.forall_mem_append.mpr ⟨?_, ih (List.forall_mem_nil _) hafter⟩⟩⟩
    split
    · exact isKept_of_mem_shown (List.forall_mem_cons.mpr ⟨hopen, List.forall_mem_append.mpr
        ⟨hbody, List.forall_mem_singleton.mpr hclose⟩⟩)
    · exact List.forall_mem_nil _
  | case3 offset before c s htag ih =>
    obtain ⟨hc, hs⟩ := List.forall_mem_cons.mp h
    rw [markupPieces_cons_of_tagAt?_eq_none htag]
    exact ih (List.forall_mem_cons.mpr ⟨hc, hbefore⟩) hs

/-- Nothing that is printed is a tab or a control that is left out. -/
theorem isKept_of_mem_expandTabs {part : List Char} (hpart : ∀ c ∈ part, isKept c)
    (h : ∀ c ∈ s, isDropped c = false) (column : Nat) :
    ∀ c ∈ expandTabs column part s, isKept c := by
  have hspace : isKept ' ' := by decide
  have hread : ∀ c ∈ part.reverse, isKept c := fun c hc => hpart c (List.mem_reverse.mp hc)
  induction s generalizing column part with
  | nil => exact hread
  | cons c s ih =>
    obtain ⟨hc, hs⟩ := List.forall_mem_cons.mp h
    have hnil : ∀ c ∈ ([] : List Char), isKept c := List.forall_mem_nil _
    rw [expandTabs]
    split
    · exact List.forall_mem_append.mpr
        ⟨hread, List.forall_mem_cons.mpr ⟨by decide, ih hnil hs 0 hnil⟩⟩
    · split
      · refine List.forall_mem_append.mpr ⟨List.forall_mem_append.mpr
          ⟨List.forall_mem_append.mpr ⟨hread, List.forall_mem_singleton.mpr hspace⟩, ?_⟩,
          ih hnil hs _ hnil⟩
        intro d hd
        rwa [List.eq_of_mem_replicate hd]
      · rename_i htab
        have hmore : ∀ d ∈ c :: part, isKept d :=
          List.forall_mem_cons.mpr ⟨isKept_iff.mpr ⟨hc, htab⟩, hpart⟩
        exact ih hmore hs _ fun d hd => hmore d (List.mem_reverse.mp hd)

theorem isKept_of_printedLine {text : List Char} (h : printedLine text = s ++ ['\n']) :
    ∀ c ∈ s, isKept c := by
  rw [← List.append_cancel_right h]
  refine isKept_of_mem_expandTabs (List.forall_mem_nil _) (fun c hc => ?_) 0
  simpa using (List.mem_filter.mp hc).2

/-! ## Plain text -/

/-- A text that is printed as it stands wherever markup is. -/
structure Plain (s : List Char) : Prop where
  untagged : ∀ first more, isTagStart first → (∀ c ∈ more, c ≠ ']' ∧ c ≠ '[') →
    ¬ '[' :: first :: (more ++ [']']) <:+: s
  unescaped : ¬ ['\\', '['] <:+: s
  uncoded : Uncoded s
  kept : ∀ c ∈ s, isKept c

namespace Plain

/-- Nothing changes by a character in front that is no mark. -/
theorem cons_iff (h : isInert c ∧ c ≠ ':') : Plain (c :: s) ↔ Plain s := by
  obtain ⟨hinert, hcolon⟩ := h
  have hkept : isKept c := isKept_of_le (le_of_isInert hinert)
  simp only [isInert, Bool.and_eq_true, decide_eq_true_eq] at hinert
  obtain ⟨⟨hbracket, hbackslash⟩, -⟩ := hinert
  have hcons : ∀ {d : Char} {part : List Char}, c ≠ d → (d :: part <:+: c :: s ↔ d :: part <:+: s) := by
    intro d part hne
    rw [List.infix_cons_iff]
    refine ⟨fun hpart => hpart.resolve_left ?_, Or.inr⟩
    rintro ⟨rest, hrest⟩
    exact hne (List.cons.inj hrest).1.symm
  have hcodes : codeWords (c :: s) = codeWords s := codeWords_of_ne hcolon s
  constructor
  · rintro ⟨huntagged, hunescaped, huncoded, hall⟩
    refine ⟨fun first more hstart hmore => ?_, ?_, ?_, (List.forall_mem_cons.mp hall).2⟩
    · rw [← hcons hbracket]
      exact huntagged first more hstart hmore
    · rwa [← hcons hbackslash]
    · rwa [Uncoded, ← hcodes]
  · rintro ⟨huntagged, hunescaped, huncoded, hall⟩
    refine ⟨fun first more hstart hmore => ?_, ?_, ?_, List.forall_mem_cons.mpr ⟨hkept, hall⟩⟩
    · rw [hcons hbracket]
      exact huntagged first more hstart hmore
    · rwa [hcons hbackslash]
    · rwa [Uncoded, hcodes]

theorem tagless (h : Plain s) : Tagless s := tagless_iff.mpr h.untagged

theorem shown_eq (h : Plain s) : shownPlain (unescapeBrackets s) = s := by
  rw [unescapeBrackets_of_unescaped h.unescaped, shownPlain, replaceEmoji_of_uncoded h.uncoded,
    dropControls_of_isKept h.kept]

/-- Only plain text is shown as it stands. -/
theorem of_shown (hkept : ∀ c ∈ s, isKept c)
    (h : (markupPieces offset [] s).flatMap MarkupPiece.shown = s) : Plain s := by
  have hmarks := marks_markupPieces offset [] s
  rw [h] at hmarks
  have htagless : Tagless s := hmarks.2 (by simp [marks])
  rw [markupPieces_of_tagless htagless, flatMap_shown_flushed, List.append_nil,
    List.reverse_reverse] at h
  obtain ⟨hunescaped, huncoded⟩ := (marks_shown s).2 (by rw [h])
  exact ⟨tagless_iff.mp htagless, hunescaped, huncoded, hkept⟩

/-- Whether a text is plain can be computed. -/
theorem iff_tails : Plain s ↔ (∀ t ∈ s.tails, tagAt? t = none) ∧ ¬ ['\\', '['] <:+: s ∧
    (∀ word ∈ codeWords s, namedEmoji? word = none) ∧ s.all isKept := by
  simp only [List.mem_tails, List.all_eq_true]
  exact ⟨fun h => ⟨h.tagless, h.unescaped, h.uncoded, h.kept⟩,
    fun ⟨htagless, hunescaped, huncoded, hkept⟩ =>
      ⟨tagless_iff.mp htagless, hunescaped, huncoded, hkept⟩⟩

instance (s : List Char) : Decidable (Plain s) :=
  decidable_of_iff _ iff_tails.symm

example : Plain "a:b.json".toList ∧ ¬ Plain "notes[b].json".toList ∧ ¬ Plain "a:x:b".toList := by
  decide +kernel

end Plain

section
variable {tag tail text : List Char} {name : String}

theorem text_of_ofMarkup_tagged (h : StyleTag tag name) (hs : Verbatim s)
    (htext : ofMarkup (tagged tag s ++ tail) = .ok text) :
    ∃ offset, text = s ++ (markupPieces offset [] tail).flatMap MarkupPiece.shown := by
  obtain ⟨first, last, offset, hpieces⟩ :=
    h.markupPieces_tagged (List.forall_mem_nil _) hs.ne_bracket_backslash tail
  refine ⟨offset, ?_⟩
  rw [List.nil_append] at hpieces
  rw [eq_flatMap_shown_of_ofMarkup htext, hpieces, List.flatMap_append, List.flatMap_cons,
    List.flatMap_append, List.flatMap_cons, flatMap_shown_flushed, flatMap_shown_flushed,
    List.reverse_nil, List.reverse_nil, unescapeBrackets, shownPlain_nil, List.reverse_reverse,
    unescapeBrackets_of_not_mem hs.bracket_not_mem, hs.shownPlain_eq]
  rfl

/-- **Behind a tag plain text is printed as it stands, and no other text is.** -/
theorem printedLine_tagged_iff (h : StyleTag tag name) (hs : Verbatim s) (tail : List Char) :
    (ofMarkup (tagged tag s ++ tail)).map printedLine = .ok (s ++ (tail ++ ['\n'])) ↔ Plain tail := by
  have hinert : ∀ c ∈ s, isKept c :=
    fun c hc => isKept_of_le (le_of_isInert (hs.isInert_of_mem c hc))
  rw [← List.append_assoc]
  constructor
  · intro hline
    cases htext : ofMarkup (tagged tag s ++ tail) with
    | error fault =>
      rw [htext] at hline
      cases hline
    | ok text =>
      rw [htext] at hline
      have hprinted : printedLine text = s ++ tail ++ ['\n'] := Except.ok.inj hline
      obtain ⟨-, htail⟩ := List.forall_mem_append.mp (isKept_of_printedLine hprinted)
      obtain ⟨offset, rfl⟩ := text_of_ofMarkup_tagged h hs htext
      have hshown := isKept_of_mem_markupPieces offset (List.forall_mem_nil _) htail
      rw [printedLine_of_isKept (List.forall_mem_append.mpr ⟨hinert, hshown⟩)] at hprinted
      exact Plain.of_shown htail (List.append_cancel_left (List.append_cancel_right hprinted))
  · intro hplain
    have hmarkup := ofMarkup_tagged h (List.forall_mem_nil _) hs.ne_bracket_backslash hplain.tagless
    rw [List.nil_append, shownPlain_nil, List.nil_append, hs.shownPlain_eq,
      hplain.shown_eq] at hmarkup
    rw [hmarkup, Except.map, printedLine_of_isKept (List.forall_mem_append.mpr ⟨hinert, hplain.kept⟩)]

end

end MonkeyScan.Console
