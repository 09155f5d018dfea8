import MonkeyScan.Proofs.Scan.Boundary
import MonkeyScan.Proofs.Scan.Resumption

/-!
# One character of look ahead

Whether a lexeme ends is decided by the character behind it. So the lexemes that end before the last
character of a text are the same whatever stands behind the text, and the registers behind them hold
nothing of what they have not reached. One character less would not do: a lexeme that ends with the
text may go on.
-/
namespace MonkeyScan

/-! ## Offsets of places -/

/-- The offset of a place in a text: the lines above it, each with its line feed, and the columns to
the left of it. -/
def offsetAt (text : List Char) (line column : Int) : Nat :=
  (((textLines text).take (line - 1).toNat).flatMap fun l => l ++ ['\n']).length + (column - 1).toNat

/-- The offset behind the lexeme of a token. -/
def Token.endOffset (text : List Char) (t : Token) : Nat :=
  offsetAt text t.line t.column + t.literal.length

/-- What stands behind a text has the length of that text for its offset. -/
theorem offsetAt_placeBehind (before rest : List Char) :
    offsetAt (before ++ rest) (placeBehind before).1 (placeBehind before).2 = before.length := by
  have hline : ((placeBehind before).1 - 1).toNat = (textLines before).dropLast.length := by
    rw [List.length_dropLast]
    simp only [placeBehind]
    omega
  have hcolumn : ((placeBehind before).2 - 1).toNat = (lastLine before).length := by
    simp only [placeBehind]
    omega
  rw [offsetAt, hline, hcolumn, textLines_append, List.take_left, ← List.length_append,
    flatMap_lines]

theorem endOffset_placeBehind (kind : Kind) (literal before rest : List Char) :
    Token.endOffset (before ++ rest) ⟨kind, String.ofList literal, (placeBehind before).1,
      (placeBehind before).2⟩ = before.length + literal.length := by
  rw [Token.endOffset, offsetAt_placeBehind, String.length_ofList]

namespace Scanner
variable {before x b lead : List Char} {segments : List Segment} {t : Token}

/-- Where only blanks are left, the token that remains ends with the text. -/
theorem endOffset_of_blank (s : Scanner) (h : ∀ c ∈ x, isBlank c)
    (ht : t ∈ s.remaining (.behind before x)) :
    t.endOffset (before ++ x) = (before ++ x).length := by
  rw [s.remaining_of_blank h, List.mem_singleton] at ht
  have hend := endOffset_placeBehind .eof [] (before ++ x) []
  rw [List.append_nil] at hend
  rw [ht]
  exact hend

/-- No token that remains ends before the cursor. -/
theorem le_endOffset_of_mem_remaining (s : Scanner) (h : Segmentation x lead segments)
    (ht : t ∈ s.remaining (.behind before x)) : before.length ≤ t.endOffset (before ++ x) := by
  induction segments generalizing before x lead with
  | nil =>
    have hblank : ∀ c ∈ x, isBlank c := by
      obtain rfl : x = lead := by simpa using h.text_eq
      exact h.lead_blank
    rw [s.endOffset_of_blank hblank ht, List.length_append]
    omega
  | cons g more ih =>
    obtain ⟨tail, rfl, hlex, hglue, htail⟩ := h.uncons
    rw [s.remaining_of_lexeme _ h.lead_blank hlex hglue, List.mem_cons] at ht
    rcases ht with rfl | ht
    · rw [← List.append_assoc, endOffset_placeBehind, List.length_append]
      omega
    · have hle := ih htail ht
      simp only [List.append_assoc, List.length_append] at hle ⊢
      omega

/-- Behind a text, the text `x` decides on the tokens `ts`: whatever stands behind `x`, they are
delivered first, and what is left of `x` then is not empty. -/
structure Decides (s : Scanner) (before x : List Char) (ts : List Token) (passed left : List Char) :
    Prop where
  text_eq : x = passed ++ left
  left_ne_nil : left ≠ []
  remaining_eq : ∀ b, s.remaining (.behind before (x ++ b)) =
    ts ++ s.remaining (.behind (before ++ passed) (left ++ b))
  pulled_eq : ∀ b, (s.performAll (List.replicate ts.length .nextToken)
    (.behind before (x ++ b))).map Step.value = ts.map .token
  cursor_eq : ∀ b, s.cursorAfter (List.replicate ts.length .nextToken) (.behind before (x ++ b)) =
    .behind (before ++ passed) (left ++ b)

namespace Decides
variable {l left passed : List Char} {ts : List Token}

theorem nil (s : Scanner) (before : List Char) (hx : x ≠ []) : s.Decides before x [] [] x where
  text_eq := rfl
  left_ne_nil := hx
  remaining_eq b := by rw [List.append_nil, List.nil_append]
  pulled_eq _ := rfl
  cursor_eq b := by rw [List.append_nil]; rfl

theorem cons {s : Scanner} (hkind : t.kind ≠ .eof)
    (hnext : ∀ b, (Cursor.behind before (l ++ x ++ b)).next = (t, .behind (before ++ l) (x ++ b)))
    (h : s.Decides (before ++ l) x ts passed left) :
    s.Decides before (l ++ x) (t :: ts) (l ++ passed) left := by
  have hplace : before ++ l ++ passed = before ++ (l ++ passed) := List.append_assoc ..
  have hstep : ∀ b, s.perform .nextToken (.behind before (l ++ x ++ b)) =
      ⟨.token t, s.trace t, .behind (before ++ l) (x ++ b)⟩ := by
    intro b
    simp only [perform, Scanner.next, hnext b]
  refine ⟨?_, h.left_ne_nil, fun b => ?_, fun b => ?_, fun b => ?_⟩
  · rw [h.text_eq, List.append_assoc]
  · rw [s.remaining_of_ne_eof (by rw [hnext]; exact hkind), hnext, h.remaining_eq, hplace]
    rfl
  · rw [List.length_cons, List.replicate_succ, performAll, hstep, List.map_cons, List.map_cons,
      h.pulled_eq]
  · rw [← hplace, ← h.cursor_eq b, List.length_cons, List.replicate_succ, cursorAfter,
      List.foldl_cons, hstep]
    rfl

end Decides

/-- A lexeme is decided by the character behind it. -/
theorem next_behind_decided {l : List Char} {kind : Kind} (before : List Char)
    (hlead : ∀ c ∈ lead, isBlank c) (hlex : IsLexeme kind l) (hglue : ¬ Glues l (x ++ b))
    (hx : x ≠ []) (b' : List Char) : (Cursor.behind before (lead ++ l ++ x ++ b')).next =
      (⟨kind, String.ofList l, (placeBehind (before ++ lead)).1, (placeBehind (before ++ lead)).2⟩,
        .behind (before ++ (lead ++ l)) (x ++ b')) := by
  have hhead : (x ++ b).head? = (x ++ b').head? := by
    rw [List.head?_append_of_ne_nil _ hx, List.head?_append_of_ne_nil _ hx]
  rw [List.append_assoc, List.append_assoc]
  exact Cursor.next_behind before hlead hlex (mt (glues_congr hhead).mpr hglue)

/-- **What a text decides.** The tokens that a text decides on, whatever stands behind it, are those
that end before its last character. -/
theorem exists_decides (s : Scanner) (before : List Char)
    (h : Segmentation (x ++ b) lead segments) (hx : x ≠ []) :
    ∃ ts passed left, s.Decides before x ts passed left ∧
      (∀ t ∈ ts, t.endOffset (before ++ (x ++ b)) < (before ++ x).length) ∧
      ∀ t ∈ s.remaining (.behind (before ++ passed) (left ++ b)),
        (before ++ x).length ≤ t.endOffset (before ++ (x ++ b)) := by
  induction segments generalizing before x lead with
  | nil =>
    have hblank : ∀ c ∈ x ++ b, isBlank c := by
      have hlead : x ++ b = lead := by simpa using h.text_eq
      exact hlead ▸ h.lead_blank
    refine ⟨[], [], x, .nil s before hx, List.forall_mem_nil _, fun t ht => ?_⟩
    rw [List.append_nil] at ht
    rw [s.endOffset_of_blank hblank ht]
    simp only [List.length_append]
    omega
  | cons g more ih =>
    obtain ⟨tail, htext, hlex, hglue, htail⟩ := h.uncons
    rw [← List.append_assoc] at htext
    have hend := endOffset_placeBehind g.kind g.lexeme (before ++ lead) (g.lexeme ++ tail)
    rw [List.append_assoc, ← List.append_assoc lead, ← htext] at hend
    by_cases hinside : (lead ++ g.lexeme).length < x.length
    · -- The lexeme ends before the last character of `x`, which goes on behind it.
      obtain ⟨y, rfl, rfl⟩ : ∃ y, x = lead ++ g.lexeme ++ y ∧ tail = y ++ b := by
        rcases List.append_eq_append_iff.mp htext with ⟨y, hlong, -⟩ | ⟨y, hy⟩
        · rw [hlong, List.length_append] at hinside
          omega
        · exact ⟨y, hy⟩
      have hy : y ≠ [] := by
        rintro rfl
        simp at hinside
      obtain ⟨ts, passed, left, hdecides, hearly, hlate⟩ :=
        ih (before ++ (lead ++ g.lexeme)) htail hy
      refine ⟨_, _, left, .cons hlex.kind_ne_eof
        (next_behind_decided before h.lead_blank hlex hglue hy) hdecides, ?_, ?_⟩
      · have hearly' : ∀ t ∈ ts, t.endOffset (before ++ (lead ++ g.lexeme ++ y ++ b)) <
            (before ++ (lead ++ g.lexeme ++ y)).length := by
          simpa only [List.append_assoc] using hearly
        refine List.forall_mem_cons.mpr ⟨?_, hearly'⟩
        rw [hend]
        simp only [List.length_append] at hinside ⊢
        omega
      · simpa only [List.append_assoc] using hlate
    · refine ⟨[], [], x, .nil s before hx, List.forall_mem_nil _, fun t ht => ?_⟩
      rw [List.append_nil, htext, List.append_assoc lead,
        s.remaining_of_lexeme _ h.lead_blank hlex hglue, List.mem_cons] at ht
      rcases ht with rfl | ht
      · rw [hend]
        simp only [List.length_append] at hinside ⊢
        omega
      · have hle := s.le_endOffset_of_mem_remaining htail ht
        rw [htext, ← List.append_assoc before]
        simp only [List.length_append] at hinside hle ⊢
        omega

/-- A token that ends with a text is another one if the text merges with what stands behind it. -/
theorem exists_changed_of_merges (s : Scanner) {a c : String} (h : s.Merges a c) :
    ∃ (i : Nat) (t : Token), (s.tokenize a).1[i]? = some t ∧ t.endOffset a.toList = a.length ∧
      (s.tokenize (a ++ c)).1[i]? ≠ some t := by
  obtain ⟨lead, segments, ha⟩ := exists_segmentation a.toList
  rcases List.eq_nil_or_concat' segments with rfl | ⟨segments, g, rfl⟩
  · exact absurd h (s.not_merges_of_nil ha)
  obtain ⟨hnone, hglue⟩ := (s.merges_iff_glues ha).mp h
  obtain ⟨before, tokens, htext, hlex, -, -, hwhole⟩ := s.remaining_unconcat ha
  rw [hnone, List.append_nil] at htext
  have hat : ∀ b, (Cursor.behind before (g.lexeme ++ b)).next.1.kind ≠ .eof →
      (s.remaining (.behind [] (before ++ (g.lexeme ++ b))))[tokens.length]? =
        some (Cursor.behind before (g.lexeme ++ b)).next.1 := by
    intro b hkind
    rw [hwhole, s.remaining_of_ne_eof hkind]
    simp
  have hnext := Cursor.next_behind before (List.forall_mem_nil _) hlex (not_glues_nil g.lexeme)
  rw [List.nil_append, List.nil_append, List.append_nil before] at hnext
  obtain ⟨hliteral, hkind⟩ := next_ne_of_glues before hlex hglue
  have hlast := hat [] (by rw [hnext]; exact hlex.kind_ne_eof)
  rw [hnext, List.append_nil, ← htext, ← s.tokenize_eq_behind] at hlast
  have hother := hat c.toList hkind
  rw [← List.append_assoc, ← htext, ← String.toList_append, ← s.tokenize_eq_behind] at hother
  refine ⟨tokens.length, _, hlast, ?_, ?_⟩
  · rw [htext, endOffset_placeBehind, ← String.length_toList, htext, List.length_append]
  · rw [hother]
    intro hsame
    exact hliteral (congrArg Token.literal (Option.some.inj hsame))

/-- **One character of look ahead is enough, and it is needed.** The tokens of a text that end before
the last character of its part `a`, and the registers after as many pulls, are the same whatever
stands behind `a`. A token that ends with `a` is another one if `a` merges with what stands behind
it. -/
theorem tokenize_looks_ahead_one (s : Scanner) (a b b' : String) (ha : a ≠ "") :
    let tokens := (s.tokenize (a ++ b)).1
    let k := tokens.countP fun t : Token => t.endOffset (a ++ b).toList < a.length
    let pulls := List.replicate k Op.nextToken
    tokens.take k = (s.tokenize (a ++ b')).1.take k ∧
    Registers.answers (a ++ b).toList pulls (.start (a ++ b).toList) = (tokens.take k).map .token ∧
    Registers.after (a ++ b).toList pulls = Registers.after (a ++ b').toList pulls ∧
    ∀ c, s.Merges a c → ∃ (i : Nat) (t : Token), (s.tokenize a).1[i]? = some t ∧
      t.endOffset a.toList = a.length ∧ (s.tokenize (a ++ c)).1[i]? ≠ some t := by
  intro tokens k pulls
  have hx : a.toList ≠ [] := by simpa using ha
  obtain ⟨lead, segments, h⟩ := exists_segmentation (a.toList ++ b.toList)
  obtain ⟨ts, passed, left, hdecides, hearly, hlate⟩ := s.exists_decides [] h hx
  have htokens : ∀ b : String, (s.tokenize (a ++ b)).1 =
      ts ++ s.remaining (.behind passed (left ++ b.toList)) := by
    intro b
    rw [s.tokenize_eq_behind, String.toList_append, hdecides.remaining_eq]
    rfl
  have hlength : a.toList.length = a.length := String.length_toList
  have hk : k = ts.length := by
    have hnone : (s.remaining (.behind passed (left ++ b.toList))).countP
        (fun t : Token => t.endOffset (a ++ b).toList < a.length) = 0 := by
      rw [List.countP_eq_zero]
      intro t ht
      have hle := hlate t ht
      simpa [hlength] using hle
    have hall : ts.countP (fun t : Token => t.endOffset (a ++ b).toList < a.length) = ts.length := by
      rw [List.countP_eq_length]
      intro t ht
      have hlt := hearly t ht
      simpa [hlength] using hlt
    simp only [k, tokens]
    rw [htokens, List.countP_append, hall, hnone, Nat.add_zero]
  have htake : ∀ b : String, (s.tokenize (a ++ b)).1.take k = ts := by
    intro b
    rw [htokens, hk, List.take_left]
  have hstart : ∀ b : String, Cursor.ofText (a ++ b) = .behind [] (a.toList ++ b.toList) := by
    intro b
    rw [Cursor.ofText_eq_behind, String.toList_append]
  have hafter : ∀ b : String, Registers.after (a ++ b).toList pulls =
      .ofCursor (.behind passed (left ++ b.toList)) := by
    intro b
    rw [(Registers.after_eq s (a ++ b) pulls).1, hstart]
    simp only [pulls, hk, hdecides.cursor_eq, List.nil_append]
  refine ⟨(htake b).trans (htake b').symm, ?_, ?_, fun c => s.exists_changed_of_merges⟩
  · rw [Registers.start_eq, Registers.answers_ofCursor s pulls (Cursor.Over.ofText _), hstart]
    have hfirst : tokens.take k = ts := htake b
    rw [hfirst]
    simp only [pulls, hk]
    exact hdecides.pulled_eq b.toList
  · -- The current character is one of those that are left of `a`.
    have hhead : (left ++ b.toList).head? = (left ++ b'.toList).head? := by
      rw [List.head?_append_of_ne_nil _ hdecides.left_ne_nil,
        List.head?_append_of_ne_nil _ hdecides.left_ne_nil]
    rw [hafter, hafter]
    simp only [Registers.ofCursor, Cursor.behind, hhead]

/-- Behind `"ab ="` stands what lengthens the operator, or a blank: one token is decided, and the
operator is not. -/
theorem tokenize_looks_ahead_one_operator :
    let s : Scanner := {}
    let a := "ab ="
    a ≠ "" ∧ s.Merges a "=" ∧
      (s.tokenize (a ++ "= 1")).1.take 1 = (s.tokenize (a ++ " 1")).1.take 1 ∧
      Registers.after (a ++ "= 1").toList [.nextToken] =
        Registers.after (a ++ " 1").toList [.nextToken] ∧
      ∃ (i : Nat) (t : Token), (s.tokenize a).1[i]? = some t ∧ t.endOffset a.toList = a.length ∧
        (s.tokenize (a ++ "=")).1[i]? ≠ some t := by
  intro s a
  have hne : a ≠ "" := by decide
  have hmerges : s.Merges a "=" :=
    ⟨'=', by decide, '=', by decide, Or.inr (Or.inr ⟨rfl, ⟨.assign, "=", 1, 4⟩, by decide +kernel,
      Or.inl rfl, by decide +kernel⟩)⟩
  obtain ⟨hsame, -, hafter, hchanged⟩ := s.tokenize_looks_ahead_one a "= 1" " 1" hne
  have hk : (s.tokenize (a ++ "= 1")).1.countP
      (fun t : Token => t.endOffset (a ++ "= 1").toList < a.length) = 1 := by decide +kernel
  rw [hk] at hsame hafter
  exact ⟨hne, hmerges, hsame, hafter, hchanged "=" hmerges⟩

end Scanner

end MonkeyScan
