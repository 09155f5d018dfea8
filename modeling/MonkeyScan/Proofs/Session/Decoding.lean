import MonkeyScan.Proofs.Cursor.Place
import MonkeyScan.Proofs.Session.Agreement
import Mathlib.Data.Bool.AllAny

/-!
# What a session prints can be read back

The printed form of a token has no escapes, so tokens can be made that differ and are printed alike.
A scan makes none of them. Neither the kind nor the literal of a scanned token holds a blank, so each
line of a reply is one token, and its kind ends at the first space. What the literal holds does not
matter: all that follows up to the closing brace at the end of the line belongs to it.
-/
namespace MonkeyScan

/-- No label of a lexeme's kind holds a blank. -/
theorem IsLexeme.label_not_blank {kind : Kind} {l : List Char} (h : IsLexeme kind l) :
    ∀ c ∈ kind.label.toList, isBlank c = false := by
  rw [← List.all_iff_forall_prop]
  cases h with
  | word =>
    have hall : ∀ kind ∈ Kind.ident :: keywords.map Prod.snd,
        kind.label.toList.all fun c => isBlank c = false := by decide
    exact hall _ (lookupIdent_mem _)
  | number => decide
  | fixed hmem =>
    have hall : ∀ spelling ∈ fixedSpellings,
        spelling.2.label.toList.all fun c => isBlank c = false := by decide
    exact hall _ hmem
  | illegal => decide

namespace Token
variable {t u : Token}

/-- Neither the kind nor the literal holds a blank. -/
structure Unbroken (t : Token) : Prop where
  label : ∀ c ∈ t.kind.label.toList, isBlank c = false
  literal : ∀ c ∈ t.literal.toList, isBlank c = false

/-- The kind and the literal that a printed form shows when the kind ends at the first space. -/
def ofDisplay (form : List Char) : Kind × String :=
  let body := form.drop "\x7bType:".length
  let label := body.takeWhile fun c => c ≠ ' '
  (⟨String.ofList label⟩,
    String.ofList (body.drop (label.length + " Literal:".length)).dropLast)

theorem toList_display (t : Token) : t.display.toList =
    "\x7bType:".toList ++ (t.kind.label.toList ++ (" Literal:".toList ++
      (t.literal.toList ++ "\x7d".toList))) := by
  simp only [display, String.toList_append, List.append_assoc]

theorem ofDisplay_display (h : t.Unbroken) : ofDisplay t.display.toList = t.lexed := by
  have hlabel : ∀ c ∈ t.kind.label.toList, (c ≠ ' ' : Bool) := by
    rintro c hc
    have hblank := h.label c hc
    rw [decide_eq_true_eq]
    rintro rfl
    exact absurd hblank (by decide)
  have hbody : t.display.toList.drop "\x7bType:".length = t.kind.label.toList ++
      (" Literal:".toList ++ (t.literal.toList ++ "\x7d".toList)) := by
    rw [toList_display]
    exact List.drop_left
  have hkind : (t.display.toList.drop "\x7bType:".length).takeWhile (fun c => c ≠ ' ') =
      t.kind.label.toList := by
    rw [hbody]
    exact takeWhile_append_stop hlabel (by simp)
  have hliteral : (t.display.toList.drop "\x7bType:".length).drop
      (t.kind.label.toList.length + " Literal:".length) = t.literal.toList ++ ['}'] := by
    rw [hbody, ← List.append_assoc]
    exact List.drop_left' List.length_append
  rw [ofDisplay, hkind, hliteral, List.dropLast_concat, String.ofList_toList, String.ofList_toList]
  rfl

theorem newline_not_mem_display (h : t.Unbroken) : '\n' ∉ t.display.toList := by
  rw [toList_display]
  simp only [List.mem_append, not_or]
  refine ⟨by decide, fun hc => ?_, by decide, fun hc => ?_, by decide⟩
  · exact absurd (h.label _ hc) (by decide)
  · exact absurd (h.literal _ hc) (by decide)

theorem lexed_eq_iff : t.lexed = u.lexed ↔ t.same u = true := by
  rw [same_iff, lexed, lexed, Prod.mk.injEq]

end Token

theorem Scanner.unbroken_of_mem_tokenize (s : Scanner) {text : String} {t : Token}
    (ht : t ∈ (s.tokenize text).1.filter fun t => t.kind ≠ .eof) : t.Unbroken := by
  obtain ⟨l, hlex, hliteral⟩ := s.exists_lexeme_of_mem_tokenize ht
  refine ⟨hlex.label_not_blank, ?_⟩
  rw [hliteral, String.toList_ofList]
  exact fun c hc => hlex.not_blank hc

namespace Session
variable {s : Scanner} {tokens tokens' : List Token} {line rest : List Char}

/-- The tokens that a text shows line by line. -/
def readBack (text : String) : List (Kind × String) :=
  (textLines text.toList).dropLast.map Token.ofDisplay

theorem toList_printed_reply (tokens : List Token) : (printed (reply tokens)).toList =
    (tokens.map fun t => t.display.toList).flatMap fun l => l ++ ['\n'] := by
  rw [printed, reply, String.toList_join]
  simp [List.flatMap_map]

/-- **A printed reply is read back**, if its tokens hold no blanks. -/
theorem readBack_printed_reply (h : ∀ t ∈ tokens, t.Unbroken) :
    readBack (printed (reply tokens)) = tokens.map Token.lexed := by
  have hforms : ∀ l ∈ tokens.map (fun t => t.display.toList), '\n' ∉ l := by
    rw [List.forall_mem_map]
    exact fun t ht => Token.newline_not_mem_display (h t ht)
  rw [readBack, toList_printed_reply, textLines_flatMap hforms, List.dropLast_concat, List.map_map]
  exact List.map_congr_left fun t ht => Token.ofDisplay_display (h t ht)

/-- **Replies are told apart exactly as their tokens are**, if these hold no blanks. -/
theorem printed_reply_inj (h : ∀ t ∈ tokens, t.Unbroken) (h' : ∀ t ∈ tokens', t.Unbroken) :
    printed (reply tokens) = printed (reply tokens') ↔
      tokens.map Token.lexed = tokens'.map Token.lexed := by
  constructor
  · intro hprinted
    rw [← readBack_printed_reply h, hprinted, readBack_printed_reply h']
  · intro hlexed
    rw [reply_eq_map_lexed, hlexed, ← reply_eq_map_lexed]

/-- A line at the front of an input that a session answers. -/
structure IsAnswered (line rest : List Char) : Prop where
  ne_nil : line ≠ []
  split : splitLine (line ++ rest) = (line, rest)
  stays : asksToLeave line = false

/-- A session answers its first line, and goes on behind it as a session over the rest. -/
theorem run_of_isAnswered (s : Scanner) (prompt : String) (h : IsAnswered line rest) :
    (run s prompt (line ++ rest)).writes =
      ask prompt ++ spoken s line ++ (run s prompt rest).writes := by
  obtain ⟨hne, hsplit, hstays⟩ := h
  obtain ⟨c, more, rfl⟩ := List.exists_cons_of_ne_nil hne
  rw [List.cons_append] at hsplit ⊢
  rw [run]
  simp [hsplit, respond, hstays, spoken_eq]

/-- **What a session prints is unambiguous.** Behind the prompt it prints the same for two lines if
and only if they have the same tokens, the end tokens aside, and the tokens are read back from it.
Tokens that no scan makes can differ and be printed alike. -/
theorem replies_unambiguous (s s' : Scanner) (prompt prompt' : String) {x rest y rest' : List Char}
    (hx : IsAnswered x rest) (hy : IsAnswered y rest') :
    let tokens := (s.tokenize (String.ofList x)).1.filter fun t => t.kind ≠ .eof
    let tokens' := (s'.tokenize (String.ofList y)).1.filter fun t => t.kind ≠ .eof
    (∃ writes writes' : List Write,
      (run s prompt (x ++ rest)).writes = ask prompt ++ writes ++ (run s prompt rest).writes ∧
      (run s' prompt' (y ++ rest')).writes =
        ask prompt' ++ writes' ++ (run s' prompt' rest').writes ∧
      (printed writes = printed writes' ↔ List.Forall₂ (fun t u => t.same u) tokens tokens') ∧
      readBack (printed writes) = tokens.map Token.lexed ∧
      readBack (printed writes') = tokens'.map Token.lexed) ∧
    ∃ t u : Token, t.display = u.display ∧ t.same u = false := by
  intro tokens tokens'
  have hunbroken : ∀ t ∈ tokens, t.Unbroken := fun t => s.unbroken_of_mem_tokenize
  have hunbroken' : ∀ t ∈ tokens', t.Unbroken := fun t => s'.unbroken_of_mem_tokenize
  have hsame : List.Forall₂ (fun t u => t.same u) tokens tokens' ↔
      tokens.map Token.lexed = tokens'.map Token.lexed := by
    rw [← List.forall₂_eq_eq_eq, List.forall₂_map_left_iff, List.forall₂_map_right_iff]
    simp only [Token.lexed_eq_iff]
  refine ⟨⟨reply tokens, reply tokens', run_of_isAnswered s prompt hx,
    run_of_isAnswered s' prompt' hy, ?_, readBack_printed_reply hunbroken,
    readBack_printed_reply hunbroken'⟩, ?_⟩
  · rw [hsame, printed_reply_inj hunbroken hunbroken']
  · exact ⟨⟨⟨"A Literal:B"⟩, "C", 0, 0⟩, ⟨⟨"A"⟩, "B Literal:C", 0, 0⟩, by decide +kernel,
      by decide +kernel⟩

theorem replies_unambiguous_illegal :
    ∃ writes writes' : List Write,
      (run {} ">> " "\u0085\x7d \x7b\nexit".toList).writes =
        ask ">> " ++ writes ++ (run {} ">> " "exit".toList).writes ∧
      (run {} "$ " " \u0085 \x7d\x7b".toList).writes =
        ask "$ " ++ writes' ++ (run {} "$ " "".toList).writes ∧
      printed writes = printed writes' ∧
      readBack (printed writes) =
        [(.illegal, "\u0085"), (.rbrace, "\x7d"), (.lbrace, "\x7b")] := by
  have hx : IsAnswered "\u0085\x7d \x7b\n".toList "exit".toList :=
    ⟨by decide +kernel, by decide +kernel, by decide +kernel⟩
  have hy : IsAnswered " \u0085 \x7d\x7b".toList "".toList :=
    ⟨by decide +kernel, by decide +kernel, by decide +kernel⟩
  obtain ⟨⟨writes, writes', hwrites, hwrites', hprinted, hread, -⟩, -⟩ :=
    replies_unambiguous {} {} ">> " "$ " hx hy
  exact ⟨writes, writes', hwrites, hwrites', hprinted.mpr (by decide +kernel),
    hread.trans (by decide +kernel)⟩

end Session

end MonkeyScan
