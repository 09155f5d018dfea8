import MonkeyScan.Lexeme

/-!
# The lexemes of the language

A lexeme is a run of letters, a run of digits, one of the fixed spellings, or a single character
that is none of these and no blank. A lexeme glues to what follows it if the two would be read as
one. What the scanner reads at a character is the only lexeme there that does not glue to the rest
of the text, so longest match is a law of its own and not a way of reading.
-/
namespace MonkeyScan

/-- The characters that words are made of. -/
def letterCharacters : List Char :=
  "abcdefghijklmnopqrstuvwxyzABCDEFGHIJKLMNOPQRSTUVWXYZ_".toList

def digitCharacters : List Char :=
  "0123456789".toList

/-- The characters that operators and delimiters are made of. -/
def symbolCharacters : List Char :=
  ['=', '!', '+', '-', '*', '/', '<', '>', '(', ')', '{', '}', ',', ';']

/-- The characters that may stand between lexemes. -/
def blankCharacters : List Char :=
  [' ', '\t', '\n', '\r']

/-- The lexemes that are spelled in one way only, with their kinds. -/
def fixedSpellings : List (List Char × Kind) := [
  ("==".toList, .eq), ("!=".toList, .notEq), ("=".toList, .assign), ("!".toList, .bang),
  ("+".toList, .plus), ("-".toList, .minus), ("*".toList, .asterisk), ("/".toList, .slash),
  ("<".toList, .lt), (">".toList, .gt), ("(".toList, .lparen), (")".toList, .rparen),
  ("\x7b".toList, .lbrace), ("\x7d".toList, .rbrace), (",".toList, .comma), (";".toList, .semicolon)]

/-- Whether a character occurs in a fixed spelling. -/
def isSymbol (c : Char) : Bool :=
  fixedSpellings.any fun spelling => spelling.1.contains c

/-- The characters of a lexeme with its kind. -/
inductive IsLexeme : Kind → List Char → Prop
  | word {l} : l ≠ [] → l ⊆ letterCharacters → IsLexeme (lookupIdent (String.ofList l)) l
  | number {l} : l ≠ [] → l ⊆ digitCharacters → IsLexeme .int l
  | fixed {l kind} : (l, kind) ∈ fixedSpellings → IsLexeme kind l
  | illegal {c} : c ∉ letterCharacters → c ∉ digitCharacters → c ∉ symbolCharacters →
      c ∉ blankCharacters → IsLexeme .illegal [c]

/-- Whether a lexeme and the text behind it would be read as one: two letters meet, or two digits,
or a `'='` meets an operator that it lengthens. -/
def Glues (lexeme following : List Char) : Prop :=
  ∃ a ∈ lexeme.getLast?, ∃ b ∈ following.head?,
    (a ∈ letterCharacters ∧ b ∈ letterCharacters) ∨ (a ∈ digitCharacters ∧ b ∈ digitCharacters) ∨
      ((lexeme = ['='] ∨ lexeme = ['!']) ∧ b = '=')

/-! ## The classes of characters -/

/-- The characters of a class in ASCII are found by trying all that are there. -/
theorem mem_iff_of_ascii {p : Char → Bool} {characters : List Char}
    (hascii : ∀ c, p c → c.toNat < 128) (hall : characters.all p = true)
    (hmem : ∀ n < 128, p (Char.ofNat n) → Char.ofNat n ∈ characters) (c : Char) :
    c ∈ characters ↔ p c = true := by
  refine ⟨List.all_eq_true.mp hall c, fun hc => ?_⟩
  have hlt := hascii c hc
  rw [← Char.ofNat_toNat c] at hc ⊢
  exact hmem c.toNat hlt hc

theorem isLetter_iff {c : Char} : isLetter c = true ↔
    97 ≤ c.toNat ∧ c.toNat ≤ 122 ∨ 65 ≤ c.toNat ∧ c.toNat ≤ 90 ∨ c.toNat = 95 := by
  simp only [isLetter, Bool.or_eq_true, Bool.and_eq_true, decide_eq_true_eq, Char.le_def,
    UInt32.le_iff_toNat_le, beq_iff_eq, or_assoc, ← Char.toNat_inj]
  exact Iff.rfl

theorem isDigit_iff {c : Char} : isDigit c = true ↔ 48 ≤ c.toNat ∧ c.toNat ≤ 57 := by
  simp only [isDigit, Bool.and_eq_true, decide_eq_true_eq, Char.le_def, UInt32.le_iff_toNat_le]
  exact Iff.rfl

@[simp] theorem mem_letterCharacters {c : Char} : c ∈ letterCharacters ↔ isLetter c = true := by
  refine mem_iff_of_ascii (fun c hc => ?_) (by decide) (by decide) c
  have hbounds := isLetter_iff.mp hc
  omega

@[simp] theorem mem_digitCharacters {c : Char} : c ∈ digitCharacters ↔ isDigit c = true := by
  refine mem_iff_of_ascii (fun c hc => ?_) (by decide) (by decide) c
  have hbounds := isDigit_iff.mp hc
  omega

@[simp] theorem mem_blankCharacters {c : Char} : c ∈ blankCharacters ↔ isBlank c = true := by
  simp [blankCharacters, isBlank, or_assoc]

theorem not_isLetter_of_isDigit {c : Char} (hc : isDigit c) : isLetter c = false := by
  rw [isDigit_iff] at hc
  rw [← Bool.not_eq_true, isLetter_iff]
  omega

@[simp] theorem mem_symbolCharacters {c : Char} : c ∈ symbolCharacters ↔ isSymbol c = true := by
  simp [symbolCharacters, isSymbol, fixedSpellings]
  grind

theorem isSymbol_of_mem {l : List Char} {kind : Kind} (h : (l, kind) ∈ fixedSpellings) {c : Char}
    (hc : c ∈ l) : isSymbol c := by
  simp only [isSymbol, List.any_eq_true]
  exact ⟨_, h, by simpa using hc⟩

theorem classless_iff {c : Char} : (c ∉ letterCharacters ∧ c ∉ digitCharacters ∧
    c ∉ symbolCharacters ∧ c ∉ blankCharacters) ↔
      isLetter c = false ∧ isDigit c = false ∧ isSymbol c = false ∧ isBlank c = false := by
  simp

/-- A symbol is neither letter nor digit nor blank. -/
theorem isSymbol_apart {c : Char} (hc : isSymbol c) :
    isLetter c = false ∧ isDigit c = false ∧ isBlank c = false := by
  simp only [← mem_symbolCharacters, symbolCharacters, List.mem_cons, List.not_mem_nil,
    or_false] at hc
  rcases hc with rfl | rfl | rfl | rfl | rfl | rfl | rfl | rfl | rfl | rfl | rfl | rfl | rfl | rfl <;>
    decide

theorem not_isSymbol_of_run {c : Char} (hc : isLetter c ∨ isDigit c) : isSymbol c = false := by
  cases hs : isSymbol c with
  | false => rfl
  | true =>
    obtain ⟨hl, hd, -⟩ := isSymbol_apart hs
    simp [hl, hd] at hc

theorem isBlank_apart {c : Char} (hc : isBlank c) :
    isLetter c = false ∧ isDigit c = false ∧ isSymbol c = false := by
  simp only [isBlank, Bool.or_eq_true, beq_iff_eq] at hc
  rcases hc with ((rfl | rfl) | rfl) | rfl <;> decide

/-- The symbols are the characters that reading looks up. -/
theorem not_isSymbol_iff {c : Char} :
    isSymbol c = false ↔ lengthened? c = none ∧ symbolKind? c = none := by
  constructor
  · intro hc
    constructor
    · unfold lengthened?
      split <;> first | rfl | exact absurd hc (by decide)
    · unfold symbolKind?
      split <;> first | rfl | exact absurd hc (by decide)
  · rintro ⟨hlen, hkind⟩
    cases hs : isSymbol c with
    | false => rfl
    | true =>
      simp only [← mem_symbolCharacters, symbolCharacters, List.mem_cons, List.not_mem_nil,
        or_false] at hs
      rcases hs with rfl | rfl | rfl | rfl | rfl | rfl | rfl | rfl | rfl | rfl | rfl | rfl | rfl | rfl <;>
        first | exact absurd hlen (by decide) | exact absurd hkind (by decide)

theorem symbolKind?_eq_some {c : Char} {kind : Kind} (h : symbolKind? c = some kind) :
    ([c], kind) ∈ fixedSpellings ∧ lengthened? c = none := by
  unfold symbolKind? at h
  split at h <;> cases h <;> exact ⟨by decide, rfl⟩

theorem lengthened?_eq_some {c : Char} {alone pair : Kind} (h : lengthened? c = some (alone, pair)) :
    (c = '=' ∨ c = '!') ∧ ([c], alone) ∈ fixedSpellings ∧ ([c, '='], pair) ∈ fixedSpellings := by
  unfold lengthened? at h
  split at h <;> cases h <;> decide

/-- The fixed spellings are those that reading tells apart by their first character. -/
theorem fixedSpellings_cases {c : Char} {l : List Char} {kind : Kind}
    (h : (c :: l, kind) ∈ fixedSpellings) :
    (∃ pair, lengthened? c = some (kind, pair) ∧ l = []) ∨
    (∃ alone, lengthened? c = some (alone, kind) ∧ l = ['=']) ∨
    (symbolKind? c = some kind ∧ l = []) := by
  simp [fixedSpellings] at h
  rcases h with ⟨⟨rfl, rfl⟩, rfl⟩ | ⟨⟨rfl, rfl⟩, rfl⟩ | ⟨⟨rfl, rfl⟩, rfl⟩ | ⟨⟨rfl, rfl⟩, rfl⟩ | h
  · exact Or.inr (Or.inl ⟨_, rfl, rfl⟩)
  · exact Or.inr (Or.inl ⟨_, rfl, rfl⟩)
  · exact Or.inl ⟨_, rfl, rfl⟩
  · exact Or.inl ⟨_, rfl, rfl⟩
  · refine Or.inr (Or.inr ?_)
    rcases h with h | h | h | h | h | h | h | h | h | h | h | h <;>
      obtain ⟨⟨rfl, rfl⟩, rfl⟩ := h <;> exact ⟨rfl, rfl⟩

theorem IsLexeme.ne_nil {kind : Kind} {l : List Char} (h : IsLexeme kind l) : l ≠ [] := by
  cases h with
  | word hne _ => exact hne
  | number hne _ => exact hne
  | fixed hmem =>
    have hall : ∀ spelling ∈ fixedSpellings, spelling.1 ≠ [] := by decide
    exact hall _ hmem
  | illegal => exact List.cons_ne_nil _ _

theorem IsLexeme.not_blank {kind : Kind} {l : List Char} (h : IsLexeme kind l) {c : Char}
    (hc : c ∈ l) : isBlank c = false := by
  cases hb : isBlank c with
  | false => rfl
  | true =>
    obtain ⟨hl, hd, hs⟩ := isBlank_apart hb
    cases h with
    | word _ hrun => simp [mem_letterCharacters.mp (hrun hc)] at hl
    | number _ hrun => simp [mem_digitCharacters.mp (hrun hc)] at hd
    | fixed hmem => simp [isSymbol_of_mem hmem hc] at hs
    | illegal _ _ _ hblank =>
      obtain rfl := List.mem_singleton.mp hc
      exact absurd (mem_blankCharacters.mpr hb) hblank

theorem IsLexeme.newline_not_mem {kind : Kind} {l : List Char} (h : IsLexeme kind l) : '\n' ∉ l := by
  intro hmem
  have hblank := h.not_blank hmem
  exact absurd hblank (by decide)

/-- No lexeme is classified as the end of a text. -/
theorem IsLexeme.kind_ne_eof {kind : Kind} {l : List Char} (h : IsLexeme kind l) : kind ≠ .eof := by
  cases h with
  | word => exact lookupIdent_ne_eof _
  | number => decide
  | fixed hmem =>
    have hall : ∀ spelling ∈ fixedSpellings, spelling.2 ≠ .eof := by decide
    exact hall _ hmem
  | illegal => decide

/-- An illegal lexeme is a single character of no class. -/
theorem IsLexeme.eq_of_illegal {kind : Kind} {l : List Char} (h : IsLexeme kind l)
    (hkind : kind = .illegal) : ∃ c, l = [c] ∧ isLetter c = false ∧ isDigit c = false ∧
      isSymbol c = false ∧ isBlank c = false := by
  cases h with
  | word =>
    have hall : ∀ kind ∈ Kind.ident :: keywords.map Prod.snd, kind ≠ .illegal := by decide
    exact absurd hkind (hall _ (lookupIdent_mem _))
  | number => exact absurd hkind (by decide)
  | fixed hmem =>
    have hall : ∀ spelling ∈ fixedSpellings, spelling.2 ≠ .illegal := by decide
    exact absurd hkind (hall _ hmem)
  | illegal hl hd hs hb => exact ⟨_, rfl, classless_iff.mp ⟨hl, hd, hs, hb⟩⟩

/-! ## The lexeme at a character -/

theorem firstLexeme_of_isLetter {c : Char} (rest : List Char) (hc : isLetter c) :
    firstLexeme c rest = (lookupIdent (String.ofList (c :: rest.takeWhile isLetter)),
      c :: rest.takeWhile isLetter) := by
  obtain ⟨hlen, hkind⟩ := not_isSymbol_iff.mp (not_isSymbol_of_run (Or.inl hc))
  simp [firstLexeme, hlen, hkind, hc]

theorem firstLexeme_of_isDigit {c : Char} (rest : List Char) (hc : isDigit c) :
    firstLexeme c rest = (.int, c :: rest.takeWhile isDigit) := by
  obtain ⟨hlen, hkind⟩ := not_isSymbol_iff.mp (not_isSymbol_of_run (Or.inr hc))
  simp [firstLexeme, hlen, hkind, hc, not_isLetter_of_isDigit hc]

theorem firstLexeme_of_lengthened? {c : Char} {alone pair : Kind} (rest : List Char)
    (hc : lengthened? c = some (alone, pair)) : firstLexeme c rest =
      if rest.head? = some '=' then (pair, [c, '=']) else (alone, [c]) := by
  simp [firstLexeme, hc]

theorem firstLexeme_of_symbolKind? {c : Char} {kind : Kind} (rest : List Char)
    (hc : symbolKind? c = some kind) : firstLexeme c rest = (kind, [c]) := by
  simp [firstLexeme, (symbolKind?_eq_some hc).2, hc]

theorem firstLexeme_of_illegal {c : Char} (rest : List Char) (hl : isLetter c = false)
    (hd : isDigit c = false) (hs : isSymbol c = false) : firstLexeme c rest = (.illegal, [c]) := by
  obtain ⟨hlen, hkind⟩ := not_isSymbol_iff.mp hs
  simp [firstLexeme, hlen, hkind, hl, hd]

/-! ## Where a lexeme ends -/

theorem glues_iff {lexeme following : List Char} : Glues lexeme following ↔
    ∃ a ∈ lexeme.getLast?, ∃ b ∈ following.head?, (isLetter a ∧ isLetter b) ∨
      (isDigit a ∧ isDigit b) ∨ ((lexeme = ['='] ∨ lexeme = ['!']) ∧ b = '=') := by
  simp only [Glues, mem_letterCharacters, mem_digitCharacters]

theorem not_glues_nil (lexeme : List Char) : ¬ Glues lexeme [] := by
  rintro ⟨a, _, b, hb, _⟩
  simp at hb

/-- Gluing depends on no more than the first character of what follows. -/
theorem glues_congr {lexeme s t : List Char} (h : s.head? = t.head?) :
    Glues lexeme s ↔ Glues lexeme t := by
  simp only [Glues, h]

theorem not_glues_of_blank {lexeme following : List Char} {b : Char}
    (hb : b ∈ following.head?) (hblank : isBlank b) : ¬ Glues lexeme following := by
  rw [glues_iff]
  rintro ⟨a, _, b', hb', h⟩
  obtain rfl : b = b' := Option.mem_unique hb hb'
  obtain ⟨hl, hd, hs⟩ := isBlank_apart hblank
  simp only [hl, hd, Bool.false_eq_true, and_false, false_or] at h
  obtain ⟨-, rfl⟩ := h
  exact absurd hs (by decide)

theorem not_glues_blanks {lexeme blanks : List Char} (h : ∀ c ∈ blanks, isBlank c) :
    ¬ Glues lexeme blanks := by
  cases blanks with
  | nil => exact not_glues_nil lexeme
  | cons b more => exact not_glues_of_blank (b := b) rfl (h b List.mem_cons_self)

theorem takeWhile_append_stop {p : Char → Bool} {l tail : List Char} (hl : ∀ c ∈ l, p c)
    (ht : ∀ b ∈ tail.head?, p b = false) : (l ++ tail).takeWhile p = l := by
  rw [List.takeWhile_append_of_pos hl]
  cases tail with
  | nil => simp
  | cons b tail => simp [ht b rfl]

/-- A run glues to whatever carries it on. -/
theorem glues_run_iff {p : Char → Bool} {lexeme following : List Char}
    (hp : p = isLetter ∨ p = isDigit) (hne : lexeme ≠ []) (hl : ∀ c ∈ lexeme, p c) :
    Glues lexeme following ↔ ∃ b ∈ following.head?, p b := by
  have hlast := List.getLast?_eq_some_getLast hne
  have ha := hl _ (List.getLast_mem hne)
  generalize lexeme.getLast hne = a at hlast ha
  simp only [glues_iff, hlast, Option.mem_some, exists_eq_left']
  constructor
  · rintro ⟨b, hb, h⟩
    refine ⟨b, hb, ?_⟩
    rcases h with h | h | ⟨h, -⟩
    · rcases hp with rfl | rfl
      · exact h.2
      · simp [not_isLetter_of_isDigit ha] at h
    · rcases hp with rfl | rfl
      · simp [not_isLetter_of_isDigit h.1] at ha
      · exact h.2
    · rcases h with rfl | rfl <;> rcases hp with rfl | rfl <;>
        exact absurd (hl _ List.mem_cons_self) (by decide)
  · rintro ⟨b, hb, h⟩
    refine ⟨b, hb, ?_⟩
    rcases hp with rfl | rfl
    · exact Or.inl ⟨ha, h⟩
    · exact Or.inr (Or.inl ⟨ha, h⟩)

/-- A character that is no part of a run glues to a `'='` only, and only if it is lengthened. -/
theorem glues_singleton_iff {c : Char} {following : List Char} (hl : isLetter c = false)
    (hd : isDigit c = false) :
    Glues [c] following ↔ (c = '=' ∨ c = '!') ∧ following.head? = some '=' := by
  rw [glues_iff]
  constructor
  · rintro ⟨a, ha, b, hb, h⟩
    obtain rfl : c = a := by simpa using ha
    simp only [hl, hd, Bool.false_eq_true, false_and, false_or, List.cons.injEq, and_true] at h
    exact ⟨h.1, h.2 ▸ hb⟩
  · rintro ⟨hc, hhead⟩
    exact ⟨c, rfl, '=', hhead, Or.inr (Or.inr ⟨by simpa using hc, rfl⟩)⟩

theorem not_glues_pair (c : Char) (following : List Char) : ¬ Glues [c, '='] following := by
  rw [glues_iff]
  rintro ⟨a, ha, b, -, h⟩
  obtain rfl : '=' = a := by simpa using ha
  revert h
  simp [isLetter, isDigit]

/-! ## Longest match -/

/-- Reading at a lexeme that does not glue to what follows gives that lexeme. -/
theorem firstLexeme_append {kind : Kind} {c : Char} {l tail : List Char}
    (h : IsLexeme kind (c :: l)) (hg : ¬ Glues (c :: l) tail) :
    firstLexeme c (l ++ tail) = (kind, c :: l) := by
  cases h with
  | word hne hrun =>
    have hl : ∀ x ∈ c :: l, isLetter x := fun x hx => mem_letterCharacters.mp (hrun hx)
    rw [glues_run_iff (Or.inl rfl) hne hl] at hg
    rw [firstLexeme_of_isLetter _ (hl c List.mem_cons_self),
      takeWhile_append_stop (fun x hx => hl x (List.mem_cons_of_mem c hx)) (by simpa using hg)]
  | number hne hrun =>
    have hl : ∀ x ∈ c :: l, isDigit x := fun x hx => mem_digitCharacters.mp (hrun hx)
    rw [glues_run_iff (Or.inr rfl) hne hl] at hg
    rw [firstLexeme_of_isDigit _ (hl c List.mem_cons_self),
      takeWhile_append_stop (fun x hx => hl x (List.mem_cons_of_mem c hx)) (by simpa using hg)]
  | fixed hmem =>
    rcases fixedSpellings_cases hmem with ⟨pair, hc, rfl⟩ | ⟨alone, hc, rfl⟩ | ⟨hc, rfl⟩
    · obtain ⟨hop, hfix, -⟩ := lengthened?_eq_some hc
      obtain ⟨hl, hd, -⟩ := isSymbol_apart (isSymbol_of_mem hfix List.mem_cons_self)
      rw [glues_singleton_iff hl hd] at hg
      rw [List.nil_append, firstLexeme_of_lengthened? _ hc, if_neg fun hhead => hg ⟨hop, hhead⟩]
    · rw [firstLexeme_of_lengthened? _ hc]
      exact if_pos rfl
    · exact firstLexeme_of_symbolKind? _ hc
  | illegal hl hd hs hb =>
    obtain ⟨hl, hd, hs, -⟩ := classless_iff.mp ⟨hl, hd, hs, hb⟩
    exact firstLexeme_of_illegal _ hl hd hs

/-- A longest run is a run, and it does not glue to what follows it. -/
theorem longestRun_spec {p : Char → Bool} {c : Char} (rest : List Char)
    (hp : p = isLetter ∨ p = isDigit) (hc : p c) :
    (∀ x ∈ c :: rest.takeWhile p, p x) ∧
      ¬ Glues (c :: rest.takeWhile p) (rest.dropWhile p) := by
  have hrun : ∀ x ∈ c :: rest.takeWhile p, p x := by
    simpa [hc] using List.all_eq_true.mp List.all_takeWhile
  refine ⟨hrun, ?_⟩
  rw [glues_run_iff hp (List.cons_ne_nil _ _) hrun]
  rintro ⟨b, hb, h⟩
  have hstop := List.head?_dropWhile_not p rest
  rw [Option.mem_def] at hb
  simp [hb, h] at hstop

/-- What is read at a character that is not blank is a lexeme, the text goes on behind it, and
the two do not glue. -/
theorem firstLexeme_spec {c : Char} (rest : List Char) (hc : isBlank c = false) :
    ∃ l tail, (firstLexeme c rest).2 = c :: l ∧ rest = l ++ tail ∧
      IsLexeme (firstLexeme c rest).1 (c :: l) ∧ ¬ Glues (c :: l) tail := by
  by_cases hl : isLetter c
  · obtain ⟨hrun, hstop⟩ := longestRun_spec rest (Or.inl rfl) hl
    rw [firstLexeme_of_isLetter _ hl]
    exact ⟨_, _, rfl, List.takeWhile_append_dropWhile.symm, .word (List.cons_ne_nil _ _)
      fun x hx => mem_letterCharacters.mpr (hrun x hx), hstop⟩
  by_cases hd : isDigit c
  · obtain ⟨hrun, hstop⟩ := longestRun_spec rest (Or.inr rfl) hd
    rw [firstLexeme_of_isDigit _ hd]
    exact ⟨_, _, rfl, List.takeWhile_append_dropWhile.symm, .number (List.cons_ne_nil _ _)
      fun x hx => mem_digitCharacters.mpr (hrun x hx), hstop⟩
  rw [Bool.not_eq_true] at hl hd
  cases hlen : lengthened? c with
  | some kinds =>
    obtain ⟨alone, pair⟩ := kinds
    obtain ⟨-, halone, hpair⟩ := lengthened?_eq_some hlen
    rw [firstLexeme_of_lengthened? _ hlen]
    by_cases hhead : rest.head? = some '='
    · rw [if_pos hhead]
      obtain ⟨tail, rfl⟩ := List.head?_eq_some_iff.mp hhead
      exact ⟨['='], tail, rfl, rfl, .fixed hpair, not_glues_pair c tail⟩
    · rw [if_neg hhead]
      exact ⟨[], rest, rfl, rfl, .fixed halone, fun hg => hhead ((glues_singleton_iff hl hd).mp hg).2⟩
  | none =>
    have hop : ¬ Glues [c] rest := by
      rw [glues_singleton_iff hl hd]
      rintro ⟨rfl | rfl, -⟩ <;> cases hlen
    cases hkind : symbolKind? c with
    | some kind =>
      rw [firstLexeme_of_symbolKind? _ hkind]
      exact ⟨[], rest, rfl, rfl, .fixed (symbolKind?_eq_some hkind).1, hop⟩
    | none =>
      have hs := not_isSymbol_iff.mpr ⟨hlen, hkind⟩
      rw [firstLexeme_of_illegal _ hl hd hs]
      obtain ⟨hl, hd, hs, hb⟩ := classless_iff.mpr ⟨hl, hd, hs, hc⟩
      exact ⟨[], rest, rfl, rfl, .illegal hl hd hs hb, hop⟩

/-- The operators that can be lengthened and have not been. -/
theorem IsLexeme.alone_iff {kind : Kind} {l : List Char} (h : IsLexeme kind l) :
    (kind = .assign ∨ kind = .bang) ↔ l = ['='] ∨ l = ['!'] := by
  constructor
  · intro hkind
    cases h with
    | word =>
      have hall : ∀ kind ∈ Kind.ident :: keywords.map Prod.snd,
          ¬ (kind = .assign ∨ kind = .bang) := by decide
      exact absurd hkind (hall _ (lookupIdent_mem _))
    | number => exact absurd hkind (by decide)
    | fixed hmem =>
      have hall : ∀ spelling ∈ fixedSpellings, spelling.2 = .assign ∨ spelling.2 = .bang →
          spelling.1 = ['='] ∨ spelling.1 = ['!'] := by decide
      exact hall _ hmem hkind
    | illegal => exact absurd hkind (by decide)
  · rintro (rfl | rfl)
    · have hfirst := firstLexeme_append h (not_glues_nil ['='])
      exact Or.inl (Prod.mk.inj hfirst).1.symm
    · have hfirst := firstLexeme_append h (not_glues_nil ['!'])
      exact Or.inr (Prod.mk.inj hfirst).1.symm

end MonkeyScan
