import MonkeyScan.Proofs.Scan.Segmentation

/-!
# Every way of pulling tokens delivers the same stream

What a scan has still to deliver at a cursor is what a drain delivers there. Each pull takes its
share from the front of that and leaves the rest of it, and the cursor that the scan ends at, as they
were. So the shares of any row of pulls are the beginning of the tokens of the text. Once a pull has
met the end token the cursor stands behind the text, and no pull moves it again.
-/
namespace MonkeyScan

namespace Cursor
variable {c : Cursor}

theorem skipBlanks_skipBlanks (c : Cursor) : c.skipBlanks.skipBlanks = c.skipBlanks :=
  skipRun_of_run_eq_nil (run_skipRun isBlank c)

theorem next_skipBlanks (c : Cursor) : c.skipBlanks.next = c.next := by
  unfold next
  rw [skipBlanks_skipBlanks]

/-- At the end of the text the end token is delivered, and nothing moves. -/
theorem next_of_rest_nil (h : c.rest = []) : c.next = (⟨.eof, "", c.line, c.column⟩, c) := by
  have hnil : Segmentation c.rest [] [] := by
    rw [h]
    exact .nil (by simp)
  exact next_of_nil hnil

/-- Where the end token is delivered only blanks were left, and the next pull delivers it again. -/
theorem next_of_eof (h : c.next.1.kind = .eof) :
    c.next.2.rest = [] ∧ c.next.2.next = c.next := by
  obtain ⟨lead, segments, hseg⟩ := exists_segmentation c.rest
  cases segments with
  | nil =>
    have hrest : c.rest = lead := by simpa using hseg.text_eq
    have hnext := next_of_nil hseg
    have hend : c.next.2.rest = [] := by simp [hnext, hrest]
    refine ⟨hend, ?_⟩
    rw [next_of_rest_nil hend, hnext]
  | cons g segments =>
    obtain ⟨tail, -, hlex, -⟩ := hseg.uncons
    have hkind : c.next.1.kind = g.kind := by rw [next_of_cons hseg]; rfl
    exact absurd (hkind.symm.trans h) hlex.kind_ne_eof

end Cursor

namespace Scanner
variable {s : Scanner} {c c' c'' : Cursor} {ts ts' : List Token}

/-- The operations that pull tokens, and those that only look at what comes next. -/
inductive Pull
  | nextToken
  | take (n : Nat)
  | drain
  | peekChar
  | skipBlanks
  deriving DecidableEq, Repr

namespace Pull

def op : Pull → Op
  | nextToken => .nextToken
  | take n => .take n
  | drain => .drain
  | peekChar => .peekChar
  | skipBlanks => .skipBlanks

/-- What a pull delivers where some tokens remain before the end token. -/
def share (remaining : List Token) (last : Token) : Pull → List Token
  | nextToken => [remaining.headD last]
  | take n => remaining.take n
  | drain => remaining
  | peekChar | skipBlanks => []

/-- By its answer a pull has met the end token: this was delivered, or fewer tokens came than were
asked for. -/
def MetEnd : Pull → Answer → Prop
  | nextToken, .token t => t.kind = .eof
  | take n, .tokens ts => ts.length < n
  | drain, .tokens _ => True
  | _, _ => False

end Pull

/-- From a cursor tokens are delivered and another cursor is left, from where the scan goes on to the
same end. -/
structure Delivers (s : Scanner) (c : Cursor) (ts : List Token) (c' : Cursor) : Prop where
  value : (s.drain c).value = ts ++ (s.drain c').value
  finish : (s.drain c).cursor = (s.drain c').cursor

namespace Delivers

theorem refl (s : Scanner) (c : Cursor) : s.Delivers c [] c := ⟨rfl, rfl⟩

theorem trans (h : s.Delivers c ts c') (h' : s.Delivers c' ts' c'') :
    s.Delivers c (ts ++ ts') c'' where
  value := by rw [h.value, h'.value, List.append_assoc]
  finish := h.finish.trans h'.finish

end Delivers

theorem delivers_next (h : c.next.1.kind ≠ .eof) : s.Delivers c [c.next.1] c.next.2 :=
  ⟨(s.drain_of_ne_eof h).1, (s.drain_of_ne_eof h).2⟩

theorem drain_of_rest_nil (h : c.rest = []) : (s.drain c).value = [] ∧ (s.drain c).cursor = c := by
  have hnext := Cursor.next_of_rest_nil h
  have hdrain := s.drain_of_eof (c := c) (by rw [hnext])
  rwa [hnext] at hdrain

theorem delivers_of_eof (h : c.next.1.kind = .eof) : s.Delivers c [] c.next.2 := by
  obtain ⟨hvalue, hcursor⟩ := s.drain_of_eof h
  obtain ⟨hvalue', hcursor'⟩ := s.drain_of_rest_nil (Cursor.next_of_eof h).1
  exact ⟨by rw [hvalue, hvalue']; rfl, by rw [hcursor, hcursor']⟩

/-- Blanks can be skipped before a pull as well as by it. -/
theorem delivers_skipBlanks (s : Scanner) (c : Cursor) : s.Delivers c [] c.skipBlanks := by
  have hdrain : s.drain c.skipBlanks = s.drain c := s.drain_congr c.next_skipBlanks
  exact ⟨by rw [hdrain, List.nil_append], by rw [hdrain]⟩

/-- A drain ends behind the text. -/
theorem drain_cursor_rest (s : Scanner) (c : Cursor) : (s.drain c).cursor.rest = [] := by
  obtain ⟨lead, segments, hseg⟩ := exists_segmentation c.rest
  rw [(s.drain_of_segmentation hseg).2]
  simp

theorem delivers_drain (s : Scanner) (c : Cursor) :
    s.Delivers c (s.drain c).value (s.drain c).cursor := by
  obtain ⟨hvalue, hcursor⟩ := s.drain_of_rest_nil (s.drain_cursor_rest c)
  exact ⟨by rw [hvalue, List.append_nil], hcursor.symm⟩

/-- Taking delivers the first tokens that remain; if it comes short it ends behind the text. -/
theorem take_spec (s : Scanner) (n : Nat) (c : Cursor) :
    (s.take n c).value = (s.drain c).value.take n ∧
      s.Delivers c (s.take n c).value (s.take n c).cursor ∧
      ((s.take n c).value.length < n → (s.take n c).cursor.rest = []) := by
  induction n generalizing c with
  | zero => exact ⟨rfl, .refl s c, fun h => absurd h (Nat.not_lt_zero _)⟩
  | succ n ih =>
    rw [take]
    by_cases hkind : c.next.1.kind = .eof
    · rw [if_pos (show (s.next c).value.kind = .eof from hkind)]
      refine ⟨?_, delivers_of_eof hkind, fun _ => (Cursor.next_of_eof hkind).1⟩
      rw [(s.drain_of_eof hkind).1]
      rfl
    · rw [if_neg (show (s.next c).value.kind ≠ .eof from hkind)]
      obtain ⟨hvalue, hdelivers, hshort⟩ := ih c.next.2
      refine ⟨?_, (delivers_next hkind).trans hdelivers, ?_⟩
      · rw [(s.drain_of_ne_eof hkind).1, List.take_succ_cons, ← hvalue]
        rfl
      · intro hlt
        exact hshort (Nat.lt_of_succ_lt_succ hlt)

/-- A drain delivers no end token. -/
theorem kind_ne_eof_of_mem_drain {t : Token} (ht : t ∈ (s.drain c).value) : t.kind ≠ .eof := by
  induction hn : c.rest.length using Nat.strong_induction_on generalizing c with
  | _ n ih =>
    by_cases hkind : c.next.1.kind = .eof
    · rw [(s.drain_of_eof hkind).1] at ht
      simp at ht
    · rw [(s.drain_of_ne_eof hkind).1] at ht
      rcases List.mem_cons.mp ht with rfl | ht
      · exact hkind
      · exact ih _ (hn ▸ Cursor.next_rest_length_lt hkind) ht rfl

theorem filter_drain_eq_self (h : ∀ t ∈ ts, t ∈ (s.drain c).value) :
    ts.filter (fun t => t.kind ≠ .eof) = ts := by
  rw [List.filter_eq_self]
  intro t ht
  simpa using kind_ne_eof_of_mem_drain (h t ht)

/-- A pull delivers its share of what remains, moves on by exactly that, and stands behind the text
if it has met the end token. -/
theorem perform_pull (s : Scanner) (p : Pull) (c : Cursor) :
    let step := s.perform p.op c
    step.value.delivered = p.share (s.drain c).value (s.drain c).cursor.next.1 ∧
      s.Delivers c (step.value.delivered.filter fun t => t.kind ≠ .eof) step.cursor ∧
      (p.MetEnd step.value → step.cursor.rest = []) := by
  cases p with
  | nextToken =>
    show [c.next.1] = [_] ∧ s.Delivers c ([c.next.1].filter _) c.next.2 ∧
      (c.next.1.kind = .eof → c.next.2.rest = [])
    refine ⟨?_, ?_, fun hkind => (Cursor.next_of_eof hkind).1⟩
    · by_cases hkind : c.next.1.kind = .eof
      · obtain ⟨hvalue, hcursor⟩ := s.drain_of_eof hkind
        rw [hvalue, hcursor, (Cursor.next_of_eof hkind).2]
        rfl
      · rw [(s.drain_of_ne_eof hkind).1]
        rfl
    · by_cases hkind : c.next.1.kind = .eof
      · simpa [hkind] using delivers_of_eof hkind
      · simpa [hkind] using delivers_next hkind
  | take n =>
    obtain ⟨hvalue, hdelivers, hshort⟩ := s.take_spec n c
    have hmem : ∀ t ∈ (s.take n c).value, t ∈ (s.drain c).value := by
      rw [hvalue]
      exact fun t => List.mem_of_mem_take
    have hfresh := filter_drain_eq_self hmem
    exact ⟨hvalue, hfresh.symm ▸ hdelivers, hshort⟩
  | drain =>
    have hmem : ∀ t ∈ (s.drain c).value, t ∈ (s.drain c).value := fun _ => id
    have hfresh := filter_drain_eq_self hmem
    exact ⟨rfl, hfresh.symm ▸ s.delivers_drain c, fun _ => s.drain_cursor_rest c⟩
  | peekChar => exact ⟨rfl, .refl s c, False.elim⟩
  | skipBlanks => exact ⟨rfl, s.delivers_skipBlanks c, False.elim⟩

/-- Behind the text no pull moves the cursor. -/
theorem perform_pull_of_rest_nil (p : Pull) (h : c.rest = []) : (s.perform p.op c).cursor = c := by
  have hnext := Cursor.next_of_rest_nil h
  cases p with
  | nextToken => exact congrArg Prod.snd hnext
  | take n =>
    cases n with
    | zero => rfl
    | succ n =>
      have hkind : (s.next c).value.kind = .eof := by simp [Scanner.next, hnext]
      show (s.take (n + 1) c).cursor = c
      rw [take, if_pos hkind]
      exact congrArg Prod.snd hnext
  | drain => exact (s.drain_of_rest_nil h).2
  | peekChar => rfl
  | skipBlanks =>
    show c.skipBlanks = c
    simp [Cursor.skipBlanks, Cursor.skipRun, Cursor.run, h, Cursor.advanceBy]

/-- The tokens that a row of pulls delivers, end tokens aside. -/
def pulled (s : Scanner) (pulls : List Pull) (c : Cursor) : List Token :=
  (s.performAll (pulls.map Pull.op) c).flatMap fun step =>
    step.value.delivered.filter fun t => t.kind ≠ .eof

/-- The cursor that a row of pulls leaves. -/
def pulledTo (s : Scanner) (pulls : List Pull) (c : Cursor) : Cursor :=
  s.cursorAfter (pulls.map Pull.op) c

theorem delivers_pulled (s : Scanner) (pulls : List Pull) (c : Cursor) :
    s.Delivers c (s.pulled pulls c) (s.pulledTo pulls c) := by
  induction pulls generalizing c with
  | nil => exact .refl s c
  | cons p pulls ih =>
    obtain ⟨-, hstep, -⟩ := s.perform_pull p c
    exact hstep.trans (ih _)

theorem pulledTo_of_rest_nil (pulls : List Pull) (h : c.rest = []) : s.pulledTo pulls c = c := by
  induction pulls with
  | nil => rfl
  | cons p pulls ih =>
    have hstep : (s.perform p.op c).cursor = c := perform_pull_of_rest_nil p h
    show s.pulledTo pulls (s.perform p.op c).cursor = c
    rw [hstep, ih]

theorem pulledTo_append_cons (s : Scanner) (before : List Pull) (p : Pull) (more : List Pull)
    (c : Cursor) : s.pulledTo (before ++ p :: more) c =
      s.pulledTo more (s.perform p.op (s.pulledTo before c)).cursor := by
  simp only [pulledTo, cursorAfter, List.map_append, List.map_cons, List.foldl_append,
    List.foldl_cons]

/-- **One stream.** The tokens of a text are its tokens before the end token, and that one. After any
row of pulls, what has been delivered is the beginning of the former, and a further pull delivers its
share of those that remain: the next of them, or the end token if there is none; as many as are asked
for, or all. Once a pull has met the end token, none moves the cursor any more. -/
theorem pulls_deliver_tokenize (s : Scanner) (text : String) :
    ∃ tokens last, (s.tokenize text).1 = tokens ++ [last] ∧ last.kind = .eof ∧
      (∀ t ∈ tokens, t.kind ≠ .eof) ∧
      ∀ (pulls : List Pull) (p : Pull),
        let delivered := s.pulled pulls (.ofText text)
        let remaining := tokens.drop delivered.length
        let step := s.perform p.op (s.pulledTo pulls (.ofText text))
        tokens = delivered ++ remaining ∧
        step.value.delivered = p.share remaining last ∧
        (∀ t ∈ step.value.delivered, t.kind = .eof → remaining = [] ∧ t = last) ∧
        ∀ before q more, pulls = before ++ q :: more →
          q.MetEnd (s.perform q.op (s.pulledTo before (.ofText text))).value →
          step.cursor = s.pulledTo pulls (.ofText text) := by
  let start := Cursor.ofText text
  refine ⟨(s.drain start).value, (s.drain start).cursor.next.1, rfl, ?_,
    fun t => kind_ne_eof_of_mem_drain, ?_⟩
  · rw [Cursor.next_of_rest_nil (s.drain_cursor_rest start)]
  intro pulls p delivered remaining step
  obtain ⟨hvalue, hfinish⟩ := s.delivers_pulled pulls start
  have hremaining : remaining = (s.drain (s.pulledTo pulls start)).value := by
    simp only [remaining, delivered, start, hvalue, List.drop_left]
  obtain ⟨hshare, -, -⟩ := s.perform_pull p (s.pulledTo pulls start)
  rw [← hremaining, ← hfinish] at hshare
  refine ⟨by rw [hremaining, hvalue], hshare, ?_, ?_⟩
  · intro t ht hkind
    rw [hshare] at ht
    have hnone : t ∉ remaining := fun hmem =>
      kind_ne_eof_of_mem_drain (hremaining ▸ hmem) hkind
    cases p with
    | nextToken =>
      obtain rfl : t = remaining.headD _ := List.mem_singleton.mp ht
      cases hcases : remaining with
      | nil => exact ⟨rfl, rfl⟩
      | cons first more => simp [hcases] at hnone
    | take n => exact absurd (List.mem_of_mem_take ht) hnone
    | drain => exact absurd ht hnone
    | peekChar => exact absurd ht List.not_mem_nil
    | skipBlanks => exact absurd ht List.not_mem_nil
  · rintro before q more rfl hmet
    obtain ⟨-, -, hend⟩ := s.perform_pull q (s.pulledTo before start)
    have hrest : (s.pulledTo (before ++ q :: more) start).rest = [] := by
      rw [pulledTo_append_cons, pulledTo_of_rest_nil more (hend hmet)]
      exact hend hmet
    exact perform_pull_of_rest_nil p hrest

end Scanner

end MonkeyScan
