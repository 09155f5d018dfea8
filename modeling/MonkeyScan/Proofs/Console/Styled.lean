import MonkeyScan.Console.Markup
import MonkeyScan.Proofs.Console.Codes
import Mathlib.Data.List.TakeWhile

/-!
# A styled stretch of text

The messages of the program put one stretch of text into a tag and end it by the closing tag. Where
neither that stretch nor what stands behind it can be taken for markup, the tags are well-formed and
both texts are shown. A text without controls, and with no two colons between which an emoji could
be named, is printed as it stands.
-/
namespace MonkeyScan.Console

variable {s before rest front tail tag body : List Char} {c : Char} {offset : Nat}

/-! ## Tags -/

theorem untilBracket?_append (h : ∀ c ∈ body, c ≠ ']' ∧ c ≠ '[') (rest : List Char) :
    untilBracket? (body ++ ']' :: rest) = some (body, rest) := by
  induction body with
  | nil => rfl
  | cons c body ih =>
    obtain ⟨⟨hclose, hopen⟩, hbody⟩ := List.forall_mem_cons.mp h
    rw [List.cons_append, untilBracket?, if_neg hclose, if_neg hopen, ih hbody, Option.map_some]

/-- No tag starts at a character that is neither a bracket nor a backslash. -/
theorem tagAt?_cons_of_ne (hbracket : c ≠ '[') (hbackslash : c ≠ '\\') :
    tagAt? (c :: rest) = none := by
  have hdrop : (c :: rest).dropWhile (· = '\\') = c :: rest := by simp [hbackslash]
  rw [tagAt?, hdrop]
  split
  · rename_i heq
    exact absurd (List.cons.inj heq).1 hbracket
  · rfl

/-- No tag starts without a bracket. -/
theorem tagAt?_of_not_mem (h : '[' ∉ s) : tagAt? s = none := by
  rw [tagAt?]
  split
  · rename_i heq
    have hmem : '[' ∈ s.dropWhile (· = '\\') := by simp [heq]
    exact absurd ((List.dropWhile_suffix _).subset hmem) h
  · rfl

/-- A text in which no tag starts, escaped or not. -/
def Tagless (s : List Char) : Prop :=
  ∀ t, t <:+ s → tagAt? t = none

theorem tagless_cons : Tagless (c :: s) ↔ tagAt? (c :: s) = none ∧ Tagless s := by
  constructor
  · exact fun h => ⟨h _ (List.suffix_refl _), fun t ht => h t (List.suffix_cons_iff.mpr (Or.inr ht))⟩
  · rintro ⟨hfirst, hs⟩ t ht
    rcases List.suffix_cons_iff.mp ht with rfl | ht
    · exact hfirst
    · exact hs t ht

theorem tagless_of_not_mem (h : '[' ∉ s) : Tagless s :=
  fun _ ht => tagAt?_of_not_mem fun hmem => h (ht.subset hmem)

theorem tagAt?_tag (hstart : isTagStart c) (hbody : ∀ c ∈ body, c ≠ ']' ∧ c ≠ '[')
    (rest : List Char) : tagAt? ('[' :: c :: (body ++ ']' :: rest)) = some (0, c :: body, rest) := by
  simp [tagAt?, hstart, untilBracket?_append hbody rest]

/-! ## Pieces -/

/-- The piece of plain text that was just read, last character first. -/
def flushed (before : List Char) : List MarkupPiece :=
  if before = [] then [] else [.plain before.reverse]

theorem markupPieces_cons_of_tagAt?_eq_none (h : tagAt? (c :: rest) = none) :
    markupPieces offset before (c :: rest) = markupPieces (offset + 1) (c :: before) rest := by
  rw [markupPieces]
  split
  · rename_i heq
    simp [heq] at h
  · rfl

/-- Text that can be no markup is taken over. -/
theorem markupPieces_append (h : ∀ c ∈ s, c ≠ '[' ∧ c ≠ '\\') : markupPieces offset before
    (s ++ rest) = markupPieces (offset + s.length) (s.reverse ++ before) rest := by
  induction s generalizing offset before with
  | nil => rfl
  | cons c s ih =>
    obtain ⟨⟨hbracket, hbackslash⟩, hs⟩ := List.forall_mem_cons.mp h
    rw [List.cons_append,
      markupPieces_cons_of_tagAt?_eq_none (tagAt?_cons_of_ne hbracket hbackslash), ih hs]
    simp only [List.length_cons, List.reverse_cons, List.append_assoc, List.singleton_append,
      Nat.add_comm, Nat.add_left_comm]

/-- Text without a tag is one piece to its end, backslashes included. -/
theorem markupPieces_of_tagless (h : Tagless s) :
    markupPieces offset before s = flushed (s.reverse ++ before) := by
  induction s generalizing offset before with
  | nil => rw [markupPieces]; rfl
  | cons c s ih =>
    obtain ⟨hnone, hs⟩ := tagless_cons.mp h
    rw [markupPieces_cons_of_tagAt?_eq_none hnone, ih hs]
    simp only [List.reverse_cons, List.append_assoc, List.singleton_append]

theorem markupPieces_tag (hstart : isTagStart c) (hbody : ∀ c ∈ body, c ≠ ']' ∧ c ≠ '[') :
    markupPieces offset before ('[' :: c :: (body ++ ']' :: rest)) =
      flushed before ++ .tag offset (c :: body) ::
        markupPieces (offset + (body.length + 1) + 2) [] rest := by
  have htag := tagAt?_tag hstart hbody rest
  rw [markupPieces]
  split
  · rename_i slashes body' after heq
    rw [htag] at heq
    cases heq
    simp [flushed]
  · rename_i heq
    simp [htag] at heq

/-! ## One style -/

/-- A tag of a style: it opens the style of a name, and behind a slash it closes that. -/
structure StyleTag (tag : List Char) (name : String) : Prop where
  start : tag.head?.any isTagStart
  opens : tag.head? ≠ some '/'
  brackets : tag.all fun c => c ≠ ']' && c ≠ '['
  whole : tag.all (· ≠ '=')
  stripped : strip tag = tag
  named : Style.normalForm tag = .ok name
  style : (Style.ofText? name.toList).toOption.isSome
  noAction : name.toList.head? ≠ some '@'

/-- A stretch of text in a tag. -/
def tagged (tag s : List Char) : List Char :=
  '[' :: (tag ++ ']' :: (s ++ '[' :: '/' :: (tag ++ [']'])))

/-- What is shown of plain text. -/
def shownPlain (s : List Char) : List Char :=
  dropControls (replaceEmoji s)

theorem shownPlain_nil : shownPlain [] = [] := by
  rw [shownPlain, replaceEmoji]
  rfl

theorem unescapeBrackets_of_not_mem (h : '[' ∉ s) : unescapeBrackets s = s := by
  induction s with
  | nil => rfl
  | cons c s ih =>
    have hs : '[' ∉ s := fun hmem => h (List.mem_cons_of_mem _ hmem)
    rw [unescapeBrackets, ih hs]
    rintro rest - rfl
    exact hs List.mem_cons_self

/-- A piece of plain text is shown, and an empty one is no piece. -/
theorem StyledText.ofPieces_flushed (s shown : List Char) (opened : List OpenStyle)
    (ended : List StyleSpan) (more : List MarkupPiece) :
    ofPieces shown opened ended (flushed s.reverse ++ more) =
      ofPieces ((shownPlain (unescapeBrackets s)).reverse ++ shown) opened ended more := by
  cases s with
  | nil =>
    rw [unescapeBrackets, shownPlain_nil]
    rfl
  | cons c s =>
    have hne : (c :: s).reverse ≠ [] := by simp
    rw [flushed, if_neg hne, List.reverse_reverse, List.singleton_append, ofPieces]
    rfl

namespace StyleTag
variable {name : String}

theorem exists_cons (h : StyleTag tag name) : ∃ c body, tag = c :: body ∧ isTagStart c := by
  have hstart := h.start
  cases tag with
  | nil => cases hstart
  | cons c body => exact ⟨c, body, rfl, hstart⟩

theorem ne_brackets (h : StyleTag tag name) : ∀ c ∈ tag, c ≠ ']' ∧ c ≠ '[' := by
  simpa using h.brackets

theorem takeWhile_eq (h : StyleTag tag name) : tag.takeWhile (· ≠ '=') = tag :=
  List.takeWhile_eq_self_iff.mpr (List.all_eq_true.mp h.whole)

theorem dropWhile_eq (h : StyleTag tag name) : tag.dropWhile (· ≠ '=') = [] :=
  List.dropWhile_eq_nil_iff.mpr (List.all_eq_true.mp h.whole)

theorem ofTag_eq (h : StyleTag tag name) (start : Nat) :
    OpenStyle.ofTag tag start = .ok ⟨name, none, start⟩ := by
  rw [OpenStyle.ofTag, h.takeWhile_eq, h.dropWhile_eq, h.named]
  rfl

theorem closeTag_eq (h : StyleTag tag name) (start offset : Nat) :
    closeTag [⟨name, none, start⟩] offset ('/' :: tag) = .ok (⟨name, none, start⟩, []) := by
  have htext : strip ((('/' :: tag).takeWhile (· ≠ '=')).drop 1) = tag := by
    rw [List.takeWhile_cons_of_pos (by decide), h.takeWhile_eq]
    exact h.stripped
  have hne : tag ≠ [] := by
    obtain ⟨c, body, rfl, -⟩ := h.exists_cons
    exact List.cons_ne_nil _ _
  rw [closeTag, htext, if_neg hne, h.named]
  simp [closeStyle?, Except.mapError, bind, Except.bind, pure, Except.pure]

theorem checkShown_eq (h : StyleTag tag name) (start : Nat) :
    OpenStyle.checkShown ⟨name, none, start⟩ = .ok () := by
  obtain ⟨style, hstyle⟩ : ∃ style, Style.ofText? name.toList = .ok style := by
    have hsome := h.style
    cases hstyle : Style.ofText? name.toList with
    | ok style => exact ⟨style, rfl⟩
    | error fault => simp [hstyle, Except.toOption] at hsome
  simp [OpenStyle.checkShown, OpenStyle.isAction, h.noAction, hstyle, Except.map, Except.mapError]

/-- The pieces of a tagged text, with those of what stands behind it. -/
theorem markupPieces_tagged (h : StyleTag tag name) (hfront : ∀ c ∈ front, c ≠ '[' ∧ c ≠ '\\')
    (hs : ∀ c ∈ s, c ≠ '[' ∧ c ≠ '\\') (tail : List Char) :
    ∃ first last offset, markupPieces 0 [] (front ++ (tagged tag s ++ tail)) =
      flushed front.reverse ++ .tag first tag ::
        (flushed s.reverse ++ .tag last ('/' :: tag) :: markupPieces offset [] tail) := by
  obtain ⟨c, body, rfl, hstart⟩ := h.exists_cons
  have hbody : ∀ c ∈ body, c ≠ ']' ∧ c ≠ '[' := fun c hc => h.ne_brackets c (List.mem_cons_of_mem _ hc)
  let last := 0 + front.length + (body.length + 1) + 2 + s.length
  refine ⟨0 + front.length, last, last + ((c :: body).length + 1) + 2, ?_⟩
  have hsource : tagged (c :: body) s ++ tail =
      '[' :: c :: (body ++ ']' :: (s ++ '[' :: '/' :: (c :: body ++ ']' :: tail))) := by
    simp [tagged]
  rw [hsource, markupPieces_append hfront, markupPieces_tag hstart hbody, markupPieces_append hs,
    markupPieces_tag (by decide) h.ne_brackets, List.append_nil, List.append_nil]

end StyleTag

/-- A style that is shown is one of those on the text. -/
theorem StyledText.mem_spans_of_mem_shownSpans {t : StyledText} {span : StyleSpan}
    (h : span ∈ t.shownSpans) : span ∈ t.spans := by
  unfold shownSpans at h
  simp only at h
  split at h
  · exact List.mem_mergeSort.mp (List.mem_filter.mp h).1
  · exact List.mem_mergeSort.mp h

theorem forM_eq_ok {α ε : Type} {f : α → Except ε Unit} {xs : List α}
    (h : ∀ x ∈ xs, f x = .ok ()) : xs.forM f = .ok () := by
  induction xs with
  | nil => rfl
  | cons x xs ih =>
    obtain ⟨hx, hxs⟩ := List.forall_mem_cons.mp h
    change (f x >>= fun _ => xs.forM f) = .ok ()
    rw [hx]
    exact ih hxs

/-- **Tags that close are not shown.** A stretch of text in the tag of a style, with plain text on
both sides of it, is well-formed. -/
theorem ofMarkup_tagged {name : String} (h : StyleTag tag name)
    (hfront : ∀ c ∈ front, c ≠ '[' ∧ c ≠ '\\') (hs : ∀ c ∈ s, c ≠ '[' ∧ c ≠ '\\')
    (htail : Tagless tail) : ofMarkup (front ++ (tagged tag s ++ tail)) =
      .ok (shownPlain front ++ (shownPlain s ++ shownPlain (unescapeBrackets tail))) := by
  obtain ⟨first, last, offset, hpieces⟩ := h.markupPieces_tagged hfront hs tail
  rw [markupPieces_of_tagless htail, List.append_nil] at hpieces
  have hraw : ∀ {text : List Char}, (∀ c ∈ text, c ≠ '[' ∧ c ≠ '\\') →
      unescapeBrackets text = text :=
    fun htext => unescapeBrackets_of_not_mem fun hmem => (htext _ hmem).1 rfl
  have hend : ∀ shown opened ended, StyledText.ofPieces shown opened ended (flushed tail.reverse) =
      StyledText.ofPieces ((shownPlain (unescapeBrackets tail)).reverse ++ shown) opened ended [] := by
    intro shown opened ended
    have hmore := StyledText.ofPieces_flushed tail shown opened ended []
    rwa [List.append_nil] at hmore
  let style : OpenStyle := ⟨name, none, (shownPlain front).length⟩
  let t : StyledText := ⟨shownPlain front ++ (shownPlain s ++ shownPlain (unescapeBrackets tail)),
    [⟨style, (shownPlain front ++ shownPlain s).length⟩]⟩
  have htext : StyledText.ofPieces [] [] []
      (markupPieces 0 [] (front ++ (tagged tag s ++ tail))) = .ok t := by
    have hclosed : style.checkClosed = .ok () := by
      simp [OpenStyle.checkClosed, OpenStyle.isAction, style, h.noAction]
    have hslash : ('/' :: tag).head? = some '/' := rfl
    -- Piece by piece: what stands in front, the opening tag, the stretch, the closing tag, the rest.
    rw [hpieces, StyledText.ofPieces_flushed, hraw hfront, StyledText.ofPieces,
      if_neg h.opens, h.ofTag_eq]
    simp only [bind, Except.bind, List.append_nil, List.length_reverse]
    rw [StyledText.ofPieces_flushed, hraw hs, StyledText.ofPieces, if_pos hslash, h.closeTag_eq]
    simp only [bind, Except.bind]
    rw [hclosed]
    simp [hend, StyledText.ofPieces, t, style, Nat.add_comm]
  have hshown : t.shownSpans.forM (fun span => span.style.checkShown) = .ok () := by
    refine forM_eq_ok fun span hspan => ?_
    have hmem := StyledText.mem_spans_of_mem_shownSpans hspan
    rw [List.mem_singleton.mp hmem]
    exact h.checkShown_eq _
  rw [ofMarkup, htext]
  simp only [bind, Except.bind]
  rw [hshown]
  rfl

/-! ## Texts that are printed as they stand -/

/-- A character that is no control and no part of markup. -/
def isInert (c : Char) : Bool :=
  c ≠ '[' && c ≠ '\\' && 0x20 ≤ c.toNat

/-- A text that holds nothing but inert characters, and no two colons. -/
structure Verbatim (s : List Char) : Prop where
  inert : s.all isInert
  colon : s.count ':' ≤ 1

/-- A character that every text is printed with: no control that is left out, and no tab. -/
def isKept (c : Char) : Bool :=
  !isDropped c && c ≠ '\t'

theorem isKept_iff : isKept c ↔ isDropped c = false ∧ c ≠ '\t' := by
  simp [isKept]

theorem isKept_of_le (h : 0x20 ≤ c.toNat) : isKept c := by
  refine isKept_iff.mpr ⟨?_, ?_⟩
  · simp only [isDropped, Bool.or_eq_false_iff, Bool.and_eq_false_iff, decide_eq_false_iff_not]
    omega
  · rintro rfl
    exact absurd h (by decide)

theorem dropControls_of_isKept (h : ∀ c ∈ s, isKept c) : dropControls s = s := by
  refine List.filter_eq_self.mpr fun c hc => ?_
  rw [(isKept_iff.mp (h c hc)).1]
  rfl

theorem dropControls_of_le (h : ∀ c ∈ s, 0x20 ≤ c.toNat) : dropControls s = s :=
  dropControls_of_isKept fun c hc => isKept_of_le (h c hc)

theorem expandTabs_of_isKept (h : ∀ c ∈ s, isKept c) (column : Nat) (part : List Char) :
    expandTabs column part s = part.reverse ++ s := by
  induction s generalizing column part with
  | nil => simp [expandTabs]
  | cons c s ih =>
    obtain ⟨hc, hs⟩ := List.forall_mem_cons.mp h
    rw [expandTabs]
    split
    · rename_i hfeed
      rw [ih hs, hfeed, List.reverse_nil, List.nil_append]
    · rw [if_neg (isKept_iff.mp hc).2, ih hs]
      simp

/-- Such a text is printed as it stands. -/
theorem printedLine_of_isKept (h : ∀ c ∈ s, isKept c) : printedLine s = s ++ ['\n'] := by
  rw [printedLine, dropControls_of_isKept h, expandTabs_of_isKept h, List.reverse_nil,
    List.nil_append]

/-- A text without controls is printed as it stands. -/
theorem printedLine_of_le (h : ∀ c ∈ s, 0x20 ≤ c.toNat) : printedLine s = s ++ ['\n'] :=
  printedLine_of_isKept fun c hc => isKept_of_le (h c hc)

theorem le_of_isInert (h : isInert c) : 0x20 ≤ c.toNat := by
  simp only [isInert, Bool.and_eq_true, decide_eq_true_eq] at h
  exact h.2

namespace Verbatim

theorem isInert_of_mem (h : Verbatim s) : ∀ c ∈ s, isInert c :=
  List.all_eq_true.mp h.inert

theorem shownPlain_eq (h : Verbatim s) : shownPlain s = s := by
  rw [shownPlain, replaceEmoji_of_count_le h.colon,
    dropControls_of_le fun c hc => le_of_isInert (h.isInert_of_mem c hc)]

theorem ne_bracket_backslash (h : Verbatim s) : ∀ c ∈ s, c ≠ '[' ∧ c ≠ '\\' := by
  intro c hc
  have hinert := h.isInert_of_mem c hc
  simp only [isInert, Bool.and_eq_true, decide_eq_true_eq] at hinert
  exact hinert.1

theorem bracket_not_mem (h : Verbatim s) : '[' ∉ s :=
  fun hmem => (h.ne_bracket_backslash _ hmem).1 rfl

end Verbatim

end MonkeyScan.Console
