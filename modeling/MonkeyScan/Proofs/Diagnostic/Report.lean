import MonkeyScan.Diagnostic
import MonkeyScan.Proofs.Cursor.ClosedForm
import MonkeyScan.Proofs.Scan.Location
import MonkeyScan.Proofs.Text.Hex

/-!
# Reports of illegal characters

Whether a character is illegal depends on the character alone: no run and no look ahead takes in a
character of no class. So the reports on a text are those of its foreign characters, one for each,
in the order of their offsets. Each gives the place of the character and a message that names it.
-/
namespace MonkeyScan

/-- A character of no class: no blank, no letter, no digit, and part of no operator or delimiter. -/
def isForeign (c : Char) : Bool :=
  c ∉ blankCharacters ++ letterCharacters ++ digitCharacters ++ symbolCharacters

theorem isForeign_eq (c : Char) :
    isForeign c = !(isBlank c || isLetter c || isDigit c || isSymbol c) := by
  rw [Bool.eq_iff_iff]
  simp [isForeign, and_assoc]

/-! ## Places by offsets -/

theorem length_lastLine (text : List Char) :
    ((lastLine text).length : Int) + 1 = text.length - lastLineFeed text := by
  induction text using List.reverseRecOn with
  | nil => rfl
  | append_singleton text c ih =>
    by_cases hc : c = '\n'
    · rw [hc, (textLines_append_newline text).2, lastLineFeed_append_newline]
      simp only [List.length_append, List.length_singleton, List.length_nil]
      omega
    · have hmem : '\n' ∉ [c] := by simpa using Ne.symm hc
      rw [(textLines_append_of_not_mem text hmem).2, lastLineFeed_append_of_ne text hc]
      simp only [List.length_append, List.length_singleton]
      omega

/-- The place behind a text counts its line feeds, and the characters from the last of them on. -/
theorem placeBehind_eq (text : List Char) :
    placeBehind text = (1 + (text.count '\n' : Int), text.length - lastLineFeed text) := by
  rw [← length_lastLine, placeBehind, length_textLines]
  refine Prod.ext ?_ rfl
  simp only
  omega

/-! ## The illegal tokens of a text -/

theorem IsLexeme.foreign_of_illegal {kind : Kind} {l : List Char} (h : IsLexeme kind l)
    (hkind : kind = .illegal) : ∃ c, l = [c] ∧ isForeign c := by
  obtain ⟨c, rfl, hl, hd, hs, hb⟩ := h.eq_of_illegal hkind
  exact ⟨c, rfl, by simp [isForeign_eq, hl, hd, hs, hb]⟩

/-- The characters of any other lexeme belong to a class. -/
theorem IsLexeme.not_foreign {kind : Kind} {l : List Char} (h : IsLexeme kind l)
    (hkind : kind ≠ .illegal) {c : Char} (hc : c ∈ l) : isForeign c = false := by
  cases h with
  | word _ hrun => simp [isForeign_eq, mem_letterCharacters.mp (hrun hc)]
  | number _ hrun => simp [isForeign_eq, mem_digitCharacters.mp (hrun hc)]
  | fixed hmem => simp [isForeign_eq, isSymbol_of_mem hmem hc]
  | illegal => exact absurd rfl hkind

theorem not_isForeign_of_isBlank {c : Char} (h : isBlank c) : isForeign c = false := by
  simp [isForeign_eq, h]

/-- The token of the character of a text at an offset, if it is illegal. -/
def Token.illegalAt (text : List Char) (offset : Nat) : Token :=
  let place := placeBehind (text.take offset)
  ⟨.illegal, String.ofList text[offset]?.toList, place.1, place.2⟩

theorem Token.illegalAt_length (before rest : List Char) (c : Char) :
    Token.illegalAt (before ++ c :: rest) before.length =
      ⟨.illegal, String.ofList [c], (placeBehind before).1, (placeBehind before).2⟩ := by
  simp [Token.illegalAt]

theorem Segment.findIdxs_text {g : Segment} (hlex : IsLexeme g.kind g.lexeme)
    (hblanks : ∀ c ∈ g.blanks, isBlank c) (start : Nat) :
    g.text.findIdxs isForeign start = if g.kind = .illegal then [start] else [] := by
  have hnone : g.blanks.findIdxs isForeign (start + g.lexeme.length) = [] :=
    List.findIdxs_eq_nil_iff.mpr fun c hc => not_isForeign_of_isBlank (hblanks c hc)
  rw [Segment.text, List.findIdxs_append, hnone, List.append_nil]
  by_cases hkind : g.kind = .illegal
  · obtain ⟨c, hc, hforeign⟩ := hlex.foreign_of_illegal hkind
    rw [hc, List.findIdxs_singleton, if_pos hforeign, if_pos hkind]
  · rw [if_neg hkind]
    exact List.findIdxs_eq_nil_iff.mpr fun c hc => hlex.not_foreign hkind hc

/-- The illegal tokens of segments are those of their foreign characters. -/
theorem filter_illegal_placed (before : List Char) {segments : List Segment}
    (hlex : ∀ g ∈ segments, IsLexeme g.kind g.lexeme)
    (hblanks : ∀ g ∈ segments, ∀ c ∈ g.blanks, isBlank c) :
    let text := segments.flatMap Segment.text
    (placed (.behind before text) segments).filter (fun t => t.kind = .illegal) =
      (text.findIdxs isForeign before.length).map (Token.illegalAt (before ++ text)) := by
  intro text
  induction segments generalizing before with
  | nil => rfl
  | cons g more ih =>
    obtain ⟨hg, hmore⟩ := List.forall_mem_cons.mp hlex
    obtain ⟨hgblanks, hmoreblanks⟩ := List.forall_mem_cons.mp hblanks
    have ih' := ih (before ++ g.text) hmore hmoreblanks
    simp only [text, List.flatMap_cons, placed, Cursor.advanceBy_behind, List.findIdxs_append,
      Segment.findIdxs_text hg hgblanks, List.map_append] at ih' ⊢
    rw [List.length_append, List.append_assoc] at ih'
    rw [← ih', List.filter_cons, Segment.tokenAt_kind]
    by_cases hkind : g.kind = .illegal
    · obtain ⟨c, hc, -⟩ := hg.foreign_of_illegal hkind
      have hat := Token.illegalAt_length before (g.blanks ++ more.flatMap Segment.text) c
      have htoken : g.tokenAt (.behind before (g.text ++ more.flatMap Segment.text)) =
          Token.illegalAt (before ++ (g.text ++ more.flatMap Segment.text)) before.length := by
        rw [Segment.text, hc, List.append_assoc, List.singleton_append, hat, Segment.tokenAt, hkind,
          hc]
        rfl
      rw [if_pos (decide_eq_true hkind), if_pos hkind, List.map_singleton, htoken]
      rfl
    · rw [if_neg (fun h => hkind (of_decide_eq_true h)), if_neg hkind]
      rfl

/-- **Illegal tokens are context-free.** They are those of the foreign characters of the text. -/
theorem Scanner.filter_illegal_tokenize (s : Scanner) (text : String) :
    (s.tokenize text).1.filter (fun t => t.kind = .illegal) =
      (text.toList.findIdxs isForeign).map (Token.illegalAt text.toList) := by
  obtain ⟨lead, segments, hseg⟩ := exists_segmentation text.toList
  have hnone : lead.findIdxs isForeign = [] :=
    List.findIdxs_eq_nil_iff.mpr fun c hc => not_isForeign_of_isBlank (hseg.lead_blank c hc)
  have hoffsets : text.toList.findIdxs isForeign =
      (segments.flatMap Segment.text).findIdxs isForeign lead.length := by
    rw [hseg.text_eq, List.findIdxs_append, hnone, List.nil_append, Nat.zero_add]
  have hstart : (Cursor.ofText text).advanceBy lead.length =
      .behind lead (segments.flatMap Segment.text) := by
    rw [Cursor.ofText_eq_behind, hseg.text_eq, Cursor.advanceBy_behind, List.nil_append]
  have hplaced := filter_illegal_placed lead hseg.lexemes hseg.blanks
  dsimp only at hplaced
  rw [← hseg.text_eq, ← hoffsets] at hplaced
  rw [s.tokenize_of_segmentation hseg, hstart, List.filter_append, hplaced]
  exact List.append_nil _

/-! ## Messages -/

namespace Diagnostic

/-- What a message starts with, the opening quote included. -/
def messageOpening : String := "Unexpected character '"

/-- What a message shows of a character: itself, or its code point. -/
def shownCharacter (c : Char) : List Char :=
  if isPrintable c then [c] else '\\' :: 'x' :: hexFixed (hexWidth c.toNat) c.toNat

/-- The message for a single character. -/
def characterMessage (c : Char) : String :=
  messageOpening ++ String.ofList (shownCharacter c) ++ "'"

/-- A single character has a message, printable or not. -/
theorem messageFor_character (c : Char) :
    messageFor (String.ofList [c]) = .ok (characterMessage c) := by
  have hquotes : ∀ shown : List Char,
      "Unexpected character " ++ ("'" ++ String.ofList shown ++ "'") =
        messageOpening ++ String.ofList shown ++ "'" := by
    intro shown
    rw [messageOpening, ← String.toList_inj]
    simp
  unfold messageFor describeLiteral characterMessage shownCharacter
  rw [String.toList_ofList, ← hquotes]
  by_cases hc : isPrintable c
  · simp [hc, Except.map]
  · simp [hc, Except.map, ← String.toList_inj]

/-- The character that a message names. -/
def namedCharacter? (message : String) : Option Char :=
  match (message.toList.drop messageOpening.length).dropLast with
  | [c] => some c
  | '\\' :: 'x' :: digits => (hexNumber? digits).map Char.ofNat
  | _ => none

/-- The digits of a code point leave none of it out. -/
theorem lt_pow_hexWidth (c : Char) : c.toNat < 16 ^ hexWidth c.toNat := by
  have hvalid : c.toNat < 0xd800 ∨ 0xdfff < c.toNat ∧ c.toNat < 0x110000 := c.valid
  unfold hexWidth
  split_ifs <;> omega

/-- **A message names its character.** -/
theorem namedCharacter?_characterMessage (c : Char) :
    namedCharacter? (characterMessage c) = some c := by
  have hshown : ((characterMessage c).toList.drop messageOpening.length).dropLast =
      shownCharacter c := by
    have hlength : messageOpening.length = messageOpening.toList.length := rfl
    rw [characterMessage, String.toList_append, String.toList_append, String.toList_ofList,
      List.append_assoc, hlength, List.drop_left]
    exact List.dropLast_concat
  rw [namedCharacter?, hshown, shownCharacter]
  by_cases hc : isPrintable c
  · rw [if_pos hc]
  · rw [if_neg hc]
    simp only [hexNumber?_hexFixed, Nat.mod_eq_of_lt (lt_pow_hexWidth c), Option.map_some,
      Char.ofNat_toNat]

theorem messageFor_injective {c c' : Char}
    (h : messageFor (String.ofList [c]) = messageFor (String.ofList [c'])) : c = c' := by
  rw [messageFor_character, messageFor_character, Except.ok.injEq] at h
  have hnamed := congrArg namedCharacter? h
  rwa [namedCharacter?_characterMessage, namedCharacter?_characterMessage, Option.some.injEq]
    at hnamed

/-! ## The report -/

/-- A traversal goes through if each of its steps does. -/
theorem mapM_eq_ok_iff {α β ε : Type} {f : α → Except ε β} {xs : List α} {ys : List β} :
    xs.mapM f = .ok ys ↔ List.Forall₂ (fun x y => f x = .ok y) xs ys := by
  induction xs generalizing ys with
  | nil =>
    show Except.ok [] = .ok ys ↔ _
    rw [Except.ok.injEq, List.forall₂_nil_left_iff, eq_comm]
  | cons x xs ih =>
    rw [List.mapM_cons]
    constructor
    · intro h
      cases hx : f x with
      | error e =>
        rw [hx] at h
        cases h
      | ok y =>
        cases hmore : xs.mapM f with
        | error e =>
          rw [hx, hmore] at h
          cases h
        | ok more =>
          rw [hx, hmore] at h
          cases h
          exact .cons hx (ih.mp hmore)
    · rintro (_ | ⟨hx, hmore⟩)
      rw [hx, ih.mpr hmore]
      rfl

/-- A list of tokens is reported if each illegal one of them has a diagnostic. -/
theorem collect_eq_ok_iff {file : String} {tokens : List Token} {diagnostics : List Diagnostic} :
    collect file tokens = .ok diagnostics ↔
      List.Forall₂ (fun t d => ofToken file t = .ok d)
        (tokens.filter fun t => t.kind = .illegal) diagnostics :=
  mapM_eq_ok_iff

/-- A diagnostic has a message for its token, the place of the token and a hint. -/
theorem eq_of_ofToken {file : String} {t : Token} {d : Diagnostic} (h : ofToken file t = .ok d) :
    ∃ message, messageFor t.literal = .ok message ∧
      d = ⟨message, file, t.line, t.column, some removalHint⟩ := by
  cases hmessage : messageFor t.literal with
  | error fault =>
    rw [ofToken, hmessage] at h
    cases h
  | ok message =>
    rw [ofToken, hmessage] at h
    cases h
    exact ⟨message, rfl, rfl⟩

/-- A diagnostic keeps the place of its token. -/
theorem place_of_ofToken {file : String} {t : Token} {d : Diagnostic} (h : ofToken file t = .ok d) :
    d.file = file ∧ d.line = t.line ∧ d.column = t.column := by
  obtain ⟨message, -, rfl⟩ := eq_of_ofToken h
  exact ⟨rfl, rfl, rfl⟩

/-- All that is reported comes with the same hint. -/
theorem suggestion_of_mem_collect {file : String} {tokens : List Token}
    {diagnostics : List Diagnostic} (h : collect file tokens = .ok diagnostics) :
    ∀ d ∈ diagnostics, d.suggestion = some removalHint := by
  rw [collect_eq_ok_iff] at h
  generalize tokens.filter (fun t => t.kind = .illegal) = illegal at h
  induction h with
  | nil => simp
  | cons htoken _ ih =>
    obtain ⟨message, -, rfl⟩ := eq_of_ofToken htoken
    exact List.forall_mem_cons.mpr ⟨rfl, ih⟩

/-- The diagnostic of a character behind a text. -/
def ofCharacter (file : String) (before : List Char) (c : Char) : Diagnostic :=
  ⟨characterMessage c, file, (placeBehind before).1, (placeBehind before).2, some removalHint⟩

theorem ofToken_illegalAt (file : String) {text : List Char} {offset : Nat} {c : Char}
    (h : text[offset]? = some c) :
    ofToken file (Token.illegalAt text offset) = .ok (ofCharacter file (text.take offset) c) := by
  rw [ofToken, Token.illegalAt, h, Option.toList_some, messageFor_character]
  rfl

/-- What is to be reported at an offset of a text: the place, by the line feeds before it, and the
character that stands there, by a message that names it. -/
structure Reports (file : String) (text : List Char) (offset : Nat) (d : Diagnostic) : Prop where
  file_eq : d.file = file
  line_eq : d.line = 1 + (text.take offset).count '\n'
  column_eq : d.column = offset - lastLineFeed (text.take offset)
  display_eq : d.display =
    file ++ ":" ++ toString d.line ++ ":" ++ toString d.column ++ ": " ++ d.message
  character : ∃ c, text[offset]? = some c ∧ messageFor (String.ofList [c]) = .ok d.message ∧
    namedCharacter? d.message = some c

theorem reports_ofCharacter (file : String) {text : List Char} {offset : Nat} {c : Char}
    (h : text[offset]? = some c) :
    Reports file text offset (ofCharacter file (text.take offset) c) := by
  have hlt : offset < text.length := (List.getElem?_eq_some_iff.mp h).1
  have hlength : (text.take offset).length = offset := by
    rw [List.length_take]
    omega
  have hplace := placeBehind_eq (text.take offset)
  rw [hlength] at hplace
  refine ⟨rfl, ?_, ?_, rfl, c, h, messageFor_character c, namedCharacter?_characterMessage c⟩
  · rw [ofCharacter, hplace]
  · rw [ofCharacter, hplace]

/-- Illegal tokens at offsets of a text are reported, each at its offset. -/
theorem exists_reports (file : String) {text : List Char} {offsets : List Nat}
    (h : ∀ offset ∈ offsets, ∃ c, text[offset]? = some c) :
    ∃ diagnostics,
      List.Forall₂ (fun t d => ofToken file t = .ok d) (offsets.map (Token.illegalAt text))
        diagnostics ∧
      List.Forall₂ (Reports file text) offsets diagnostics := by
  induction offsets with
  | nil => exact ⟨[], .nil, .nil⟩
  | cons offset more ih =>
    obtain ⟨⟨c, hc⟩, hmore⟩ := List.forall_mem_cons.mp h
    obtain ⟨diagnostics, htokens, hreports⟩ := ih hmore
    exact ⟨_ :: diagnostics, .cons (ofToken_illegalAt file hc) htokens,
      .cons (reports_ofCharacter file hc) hreports⟩

theorem mem_findIdxs_isForeign_iff {text : List Char} {offset : Nat} :
    offset ∈ text.findIdxs isForeign ↔ ∃ c, text[offset]? = some c ∧ isForeign c := by
  rw [List.mem_findIdxs_iff_exists_getElem_pos]
  constructor
  · rintro ⟨hlt, hc⟩
    exact ⟨_, List.getElem?_eq_getElem hlt, hc⟩
  · rintro ⟨c, hget, hc⟩
    obtain ⟨hlt, rfl⟩ := List.getElem?_eq_some_iff.mp hget
    exact ⟨hlt, hc⟩

/-- A scanned text can always be reported: there is one diagnostic for each offset of a foreign
character. -/
theorem exists_collect_tokenize (s : Scanner) (file text : String) :
    ∃ diagnostics, collect file (s.tokenize text).1 = .ok diagnostics ∧
      List.Forall₂ (Reports file text.toList) (text.toList.findIdxs isForeign) diagnostics := by
  have hinside : ∀ offset ∈ text.toList.findIdxs isForeign, ∃ c, text.toList[offset]? = some c := by
    intro offset hmem
    obtain ⟨c, hc, -⟩ := mem_findIdxs_isForeign_iff.mp hmem
    exact ⟨c, hc⟩
  obtain ⟨diagnostics, htokens, hreports⟩ := exists_reports file hinside
  refine ⟨diagnostics, ?_, hreports⟩
  rw [collect_eq_ok_iff, s.filter_illegal_tokenize]
  exact htokens

/-- **Reports are exact.** A scanned text can always be reported. There is one diagnostic for each
offset at which a character of no class stands, whatever stands next to it, in increasing order. It
gives the place of the character and a message that names it, and no two characters have the same
message. -/
theorem collect_tokenize_exact (s : Scanner) (file text : String) :
    let source := text.toList
    ∃ offsets diagnostics, collect file (s.tokenize text).1 = .ok diagnostics ∧
      offsets.Pairwise (· < ·) ∧
      (∀ offset, offset ∈ offsets ↔ ∃ c, source[offset]? = some c ∧ isForeign c) ∧
      List.Forall₂ (Reports file source) offsets diagnostics ∧
      ∀ c c', messageFor (String.ofList [c]) = messageFor (String.ofList [c']) → c = c' := by
  intro source
  obtain ⟨diagnostics, hcollect, hreports⟩ := exists_collect_tokenize s file text
  exact ⟨source.findIdxs isForeign, diagnostics, hcollect, List.pairwise_findIdxs,
    fun offset => mem_findIdxs_isForeign_iff, hreports, fun c c' => messageFor_injective⟩

end Diagnostic

end MonkeyScan
