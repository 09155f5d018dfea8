import MonkeyScan.Command.Run
import MonkeyScan.Proofs.Console.Styled
import MonkeyScan.Proofs.Console.Tables
import MonkeyScan.Proofs.Scan.Concatenation
import MonkeyScan.Proofs.Text.Decimal
import MonkeyScan.Proofs.Text.Quoted

/-!
# The tables of the program

The table of the settings shows the level and the quoted prompt, and the table of a scan a row for
each token. Both show all of this on a console with room for it.
-/
namespace MonkeyScan

open Console (Table ShowsTable LineFits Whole width)

/-- A text whose characters are all visible is one line of a cell. -/
theorem Console.Table.readable_of_not_stripped {cell : String}
    (h : ∀ c ∈ cell.toList, isStripped c = false) :
    '\n' ∉ cell.toList ∧ Whole (Table.cellText cell) := by
  refine ⟨fun hnew => absurd (h _ hnew) (by decide), Or.inr fun c hc => h c ?_⟩
  exact List.mem_of_mem_filter (List.mem_of_getLast? hc)

/-! ## Settings -/

/-- The rows of the table of some settings. -/
def Settings.shownRows (s : Settings) : List (List String) :=
  [["debug_level", s.level.name], ["prompt", quoted s.prompt]]

/-- The console has room for the longest level, and for the quoted prompt. -/
structure Settings.FitsOn (columns : Nat) (s : Settings) : Prop where
  level : 25 ≤ columns
  prompt : width (quotedChars s.prompt.toList) + 18 ≤ columns

namespace Command.Run

theorem newline_not_mem_quoted (text : String) : '\n' ∉ (quoted text).toList := by
  rw [quoted, String.toList_ofList]
  exact fun h => absurd (le_of_mem_quotedChars _ _ h) (by decide)

theorem cellText_quoted (text : String) : Table.cellText (quoted text) = quotedChars text.toList := by
  rw [Table.cellText, quoted, String.toList_ofList]
  exact Console.dropControls_of_le (le_of_mem_quotedChars _)

theorem whole_quotedChars (text : List Char) : Whole (quotedChars text) := by
  refine Or.inr fun c hc => ?_
  have hmark : c = quoteMark text := by
    rw [quotedChars, List.getLast?_concat] at hc
    exact (Option.some.inj hc).symm
  rcases quoteMark_cases text with h | h <;> rw [hmark, h] <;> decide

/-- The names of the levels are short words. -/
theorem cellText_levelName (level : Level) : '\n' ∉ level.name.toList ∧
    Whole (Table.cellText level.name) ∧ width (Table.cellText level.name) ≤ 7 := by
  have hall : level.name.toList.all fun c => isStripped c = false := by
    cases level <;> decide
  have hwidth : width (Table.cellText level.name) ≤ 7 := by
    cases level <;> decide
  obtain ⟨hnew, hwhole⟩ := Table.readable_of_not_stripped (List.all_iff_forall_prop.mp hall)
  exact ⟨hnew, hwhole, hwidth⟩

theorem regular_settingsTable (s : Settings) : (settingsTable s).Regular where
  length_eq := by
    simp [settingsTable]
  names := ⟨List.cons_ne_nil _ _, by simp only [settingsTable]; decide⟩
  cells := by
    obtain ⟨hlevel, hwhole, -⟩ := cellText_levelName s.level
    have hprompt : Whole (Table.cellText (quoted s.prompt)) :=
      cellText_quoted s.prompt ▸ whole_quotedChars _
    have hnames : ∀ name ∈ ["Key", "Value", "debug_level", "prompt"],
        '\n' ∉ name.toList ∧ Whole (Table.cellText name) := by
      have hall : ∀ name ∈ ["Key", "Value", "debug_level", "prompt"],
          name.toList.all fun c => isStripped c = false := by decide
      exact fun name hname =>
        Table.readable_of_not_stripped (List.all_iff_forall_prop.mp (hall name hname))
    simp only [List.forall_mem_cons] at hnames
    obtain ⟨hkey, hvalue, hdebug, hname, hnone⟩ := hnames
    simp only [settingsTable, List.forall_mem_cons]
    exact ⟨⟨hkey, hvalue, hnone⟩, ⟨hdebug, ⟨hlevel, hwhole⟩, hnone⟩,
      ⟨hname, ⟨newline_not_mem_quoted _, hprompt⟩, hnone⟩, List.forall_mem_nil _⟩
  title := by
    simp only [settingsTable]
    exact ⟨by decide, by decide, by decide⟩

theorem showsTable_settings {columns : Nat} {s : Settings} (h : s.FitsOn columns) :
    ShowsTable "Settings" ["Key", "Value"] s.shownRows ((settingsTable s).text columns) := by
  refine (regular_settingsTable s).showsTable ⟨[11, columns - 18], ?_, ?_⟩
  · have hcolumns := h.level
    simp only [List.foldr_cons, List.foldr_nil]
    omega
  · have hlevel : width (Console.shownCell s.level.name) ≤ columns - 18 := by
      have hname := (cellText_levelName s.level).2.2
      have hcolumns := h.level
      rw [Table.cellText_eq_shownCell] at hname
      omega
    have hprompt : width (Console.shownCell (quoted s.prompt)) ≤ columns - 18 := by
      have hquoted := h.prompt
      rw [← Table.cellText_eq_shownCell, cellText_quoted]
      omega
    have hvalue : width (Console.shownCell "Value") ≤ columns - 18 := by
      have hname : width (Console.shownCell "Value") = 5 := by decide
      have hcolumns := h.level
      omega
    simp only [settingsTable, List.forall_mem_cons]
    exact ⟨.cons (by decide) (.cons hvalue .nil), .cons (by decide) (.cons hlevel .nil),
      .cons (by decide) (.cons hprompt .nil), List.forall_mem_nil _⟩

end Command.Run

/-! ## Tokens -/

/-- The row of a token. -/
def Token.shownRow (t : Token) : List String :=
  [t.kind.label, t.literal, toString t.line, toString t.column]

theorem IsLexeme.label_readable {kind : Kind} {l : List Char} (h : IsLexeme kind l) :
    '\n' ∉ kind.label.toList ∧ Whole (Table.cellText kind.label) := by
  refine Table.readable_of_not_stripped (List.all_iff_forall_prop.mp ?_)
  cases h with
  | word =>
    have hall : ∀ kind ∈ Kind.ident :: keywords.map Prod.snd,
        kind.label.toList.all fun c => isStripped c = false := by decide
    exact hall _ (lookupIdent_mem _)
  | number => decide
  | fixed hmem =>
    have hall : ∀ spelling ∈ fixedSpellings,
        spelling.2.label.toList.all fun c => isStripped c = false := by decide
    exact hall _ hmem
  | illegal => decide

/-- A run or a symbol has no blank of any kind, and an illegal character stands alone. -/
theorem IsLexeme.literal_readable {kind : Kind} {l : List Char} (h : IsLexeme kind l) :
    '\n' ∉ (String.ofList l).toList ∧ Whole (Table.cellText (String.ofList l)) := by
  have hnew := h.newline_not_mem
  cases h with
  | word _ hrun =>
    have hall : ∀ c ∈ letterCharacters, isStripped c = false :=
      List.all_iff_forall_prop.mp (by decide)
    exact Table.readable_of_not_stripped fun c hc => hall c (hrun (by simpa using hc))
  | number _ hrun =>
    have hall : ∀ c ∈ digitCharacters, isStripped c = false :=
      List.all_iff_forall_prop.mp (by decide)
    exact Table.readable_of_not_stripped fun c hc => hall c (hrun (by simpa using hc))
  | fixed hmem =>
    have hall : ∀ spelling ∈ fixedSpellings, spelling.1.all fun c => isStripped c = false := by
      decide
    exact Table.readable_of_not_stripped fun c hc =>
      List.all_iff_forall_prop.mp (hall _ hmem) c (by simpa using hc)
  | illegal =>
    rw [String.toList_ofList]
    refine ⟨hnew, Or.inl ?_⟩
    rw [Table.cellText, String.toList_ofList]
    exact List.length_filter_le _ _

theorem toString_int_readable (n : Int) :
    '\n' ∉ (toString n).toList ∧ Whole (Table.cellText (toString n)) := by
  refine Table.readable_of_not_stripped fun c hc => ?_
  rcases isDigit_or_minus_of_mem_toString hc with hdigit | rfl
  · obtain ⟨hlow, hhigh⟩ := toNat_of_isDigit hdigit
    exact isStripped_of_visible (by omega) (by omega)
  · decide

namespace Command.Run

theorem regular_tokenTable (s : Scanner) (text : String) :
    (tokenTable ((s.tokenize text).1.filter fun t => t.kind ≠ .eof)).Regular where
  length_eq := by
    simp only [tokenTable, List.forall_mem_map]
    exact fun _ _ => rfl
  names := ⟨List.cons_ne_nil _ _, by simp only [tokenTable]; decide⟩
  cells := by
    have hall : ∀ name ∈ ["Type", "Literal", "Line", "Column"],
        name.toList.all fun c => isStripped c = false := by decide
    refine List.forall_mem_cons.mpr ⟨fun name hname =>
      Table.readable_of_not_stripped (List.all_iff_forall_prop.mp (hall name hname)), ?_⟩
    simp only [tokenTable, List.forall_mem_cons, List.forall_mem_map]
    intro t ht
    obtain ⟨l, hlex, hliteral⟩ := s.exists_lexeme_of_mem_tokenize ht
    rw [hliteral]
    exact ⟨hlex.label_readable, hlex.literal_readable, toString_int_readable _,
      toString_int_readable _, List.forall_mem_nil _⟩
  title := by
    simp only [tokenTable]
    exact ⟨by decide, by decide, by decide⟩

end Command.Run

end MonkeyScan
