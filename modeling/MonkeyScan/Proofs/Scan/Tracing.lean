import MonkeyScan.Proofs.Diagnostic.Report

/-!
# The trace of a scan mirrors its illegal tokens

The level of the settings and the logger decide whether illegal characters are traced, and nothing
else. What is delivered and where the cursor stands are the same under all of them. If illegal
characters are traced, the records are those of the illegal tokens delivered, one for each and in
the same order, however the tokens are pulled. Records and diagnostics of a text are told apart by
nothing but their wording.
-/
namespace MonkeyScan

/-- A level shows debug records if it is the level of them. -/
theorem Level.shows_debug_iff {level : Level} :
    level.shows Severity.debug.number = true ↔ level = .debug := by
  cases level <;> decide

namespace Scanner
variable {c : Cursor}

/-- Illegal characters are traced: the level is that of debug records, and the logger lets them
through. -/
def Watched (s : Scanner) : Prop :=
  s.level = .debug ∧ s.logger.passes Severity.debug.number = true

instance (s : Scanner) : Decidable s.Watched :=
  inferInstanceAs (Decidable (_ ∧ _))

theorem traces_iff (s : Scanner) : s.traces = true ↔ s.Watched := by
  rw [traces, Bool.and_eq_true, Level.shows_debug_iff, Watched]

/-- The record of an illegal token in a file. -/
def illegalRecord (file : String) (t : Token) : Record where
  severity := .debug
  source := "monkey.lexer"
  text := file ++ ":" ++ toString t.line ++ ":" ++ toString t.column ++ ": illegal character " ++
    quoted t.literal

/-- What the log shows of tokens: one record for each illegal one, if they are watched. -/
def mirror (s : Scanner) (ts : List Token) : List Record :=
  if s.Watched then (ts.filter fun t => t.kind = .illegal).map (illegalRecord s.file) else []

/-- The records of tokens delivered one after the other. -/
def traceAll (s : Scanner) (ts : List Token) : List Record :=
  ts.flatMap s.trace

theorem traceAll_eq_mirror (s : Scanner) (ts : List Token) : s.traceAll ts = s.mirror ts := by
  induction ts with
  | nil => simp [traceAll, mirror]
  | cons t ts ih =>
    have hcons : s.traceAll (t :: ts) = s.trace t ++ s.traceAll ts := List.flatMap_cons
    have hrecord : s.traceRecord t = illegalRecord s.file t := rfl
    rw [hcons, ih]
    simp only [trace, mirror, List.filter_cons, traces_iff, hrecord]
    by_cases hwatched : s.Watched
    · by_cases hkind : t.kind = .illegal
      · simp [hwatched, hkind]
      · simp [hwatched, hkind]
    · simp [hwatched]

/-- The end token is not traced. -/
theorem trace_of_eof (s : Scanner) {t : Token} (h : t.kind = .eof) : s.trace t = [] := by
  have hkind : t.kind ≠ .illegal := by rw [h]; decide
  rw [trace, if_neg fun hboth => hkind hboth.1]

theorem drain_log (s : Scanner) (c : Cursor) : (s.drain c).log = s.traceAll (s.drain c).value := by
  fun_induction drain s c with
  | case1 c one h => exact s.trace_of_eof h
  | case2 c one h more ih =>
    show one.log ++ more.log = _
    rw [ih]
    rfl

theorem take_log (s : Scanner) (n : Nat) (c : Cursor) :
    (s.take n c).log = s.traceAll (s.take n c).value := by
  fun_induction take s n c with
  | case1 c => rfl
  | case2 n c one h => exact s.trace_of_eof h
  | case3 n c one h more ih =>
    show one.log ++ more.log = _
    rw [ih]
    rfl

/-- An operation logs the trace of what it delivers. -/
theorem perform_log (s : Scanner) (op : Op) (c : Cursor) :
    (s.perform op c).log = s.traceAll (s.perform op c).value.delivered := by
  cases op with
  | nextToken => exact (List.append_nil _).symm
  | drain => exact s.drain_log c
  | take n => exact s.take_log n c
  | readChar => rfl
  | peekChar => rfl
  | skipBlanks => rfl
  | readIdentifier => rfl
  | readNumber => rfl
  | isLetter text => rfl
  | isDigit text => rfl

/-- A step of a run is an operation at some cursor. -/
theorem exists_perform_of_mem {s : Scanner} {ops : List Op} {step : Step Answer}
    (h : step ∈ s.performAll ops c) : ∃ op c', step = s.perform op c' := by
  induction ops generalizing c with
  | nil => cases h
  | cons op ops ih =>
    obtain rfl | hmore := List.mem_cons.mp h
    · exact ⟨op, c, rfl⟩
    · exact ih hmore

theorem log_of_mem {s : Scanner} {ops : List Op} {step : Step Answer}
    (h : step ∈ s.performAll ops c) : step.log = s.traceAll step.value.delivered := by
  obtain ⟨op, c', rfl⟩ := exists_perform_of_mem h
  exact s.perform_log op c'

theorem tokenize_log (s : Scanner) (text : String) :
    (s.tokenize text).2 = s.traceAll (s.tokenize text).1 := by
  have hall : s.traceAll (s.tokenize text).1 = s.traceAll (s.drain (.ofText text)).value ++
      s.traceAll [(s.drain (.ofText text)).cursor.next.1] := List.flatMap_append
  rw [hall, ← s.drain_log]
  exact congrArg _ (List.append_nil _).symm

/-! ## What is delivered under any setting -/

theorem drain_unobserved (s s' : Scanner) (c : Cursor) :
    (s.drain c).value = (s'.drain c).value ∧ (s.drain c).cursor = (s'.drain c).cursor := by
  obtain ⟨lead, segments, hseg⟩ := exists_segmentation c.rest
  obtain ⟨hvalue, hcursor⟩ := s.drain_of_segmentation hseg
  obtain ⟨hvalue', hcursor'⟩ := s'.drain_of_segmentation hseg
  exact ⟨hvalue.trans hvalue'.symm, hcursor.trans hcursor'.symm⟩

theorem take_unobserved (s s' : Scanner) (n : Nat) (c : Cursor) :
    (s.take n c).value = (s'.take n c).value ∧ (s.take n c).cursor = (s'.take n c).cursor := by
  fun_induction take s n c with
  | case1 c => exact ⟨rfl, rfl⟩
  | case2 n c one h =>
    rw [take, if_pos (show (s'.next c).value.kind = .eof from h)]
    exact ⟨rfl, rfl⟩
  | case3 n c one h more ih =>
    rw [take, if_neg (show (s'.next c).value.kind ≠ .eof from h)]
    exact ⟨congrArg (one.value :: ·) ih.1, ih.2⟩

theorem perform_unobserved (s s' : Scanner) (op : Op) (c : Cursor) :
    (s.perform op c).value = (s'.perform op c).value ∧
      (s.perform op c).cursor = (s'.perform op c).cursor := by
  cases op with
  | drain =>
    obtain ⟨hvalue, hcursor⟩ := drain_unobserved s s' c
    exact ⟨congrArg Answer.tokens hvalue, hcursor⟩
  | take n =>
    obtain ⟨hvalue, hcursor⟩ := take_unobserved s s' n c
    exact ⟨congrArg Answer.tokens hvalue, hcursor⟩
  | nextToken => exact ⟨rfl, rfl⟩
  | readChar => exact ⟨rfl, rfl⟩
  | peekChar => exact ⟨rfl, rfl⟩
  | skipBlanks => exact ⟨rfl, rfl⟩
  | readIdentifier => exact ⟨rfl, rfl⟩
  | readNumber => exact ⟨rfl, rfl⟩
  | isLetter text => exact ⟨rfl, rfl⟩
  | isDigit text => exact ⟨rfl, rfl⟩

/-- What a run shows apart from its records. -/
def observed (steps : List (Step Answer)) : List (Answer × Cursor) :=
  steps.map fun step => (step.value, step.cursor)

theorem performAll_unobserved (s s' : Scanner) (ops : List Op) (c : Cursor) :
    observed (s.performAll ops c) = observed (s'.performAll ops c) := by
  induction ops generalizing c with
  | nil => rfl
  | cons op ops ih =>
    obtain ⟨hvalue, hcursor⟩ := perform_unobserved s s' op c
    have hmore := ih (s.perform op c).cursor
    rw [observed, observed] at hmore ⊢
    rw [performAll, performAll, List.map_cons, List.map_cons, hmore, hvalue, hcursor]

theorem tokenize_unobserved (s s' : Scanner) (text : String) :
    (s.tokenize text).1 = (s'.tokenize text).1 := by
  obtain ⟨hvalue, hcursor⟩ := drain_unobserved s s' (.ofText text)
  show (s.drain (.ofText text)).value ++ [(s.drain (.ofText text)).cursor.next.1] = _
  rw [hvalue, hcursor]
  rfl

/-! ## Records and diagnostics -/

/-- A record and a diagnostic that start with the same place. -/
def SamePlace (r : Record) (d : Diagnostic) : Prop :=
  ∃ wording, r.text = place d.file d.line d.column ++ ": " ++ wording ∧
    d.display = place d.file d.line d.column ++ ": " ++ d.message

theorem samePlace_of_ofToken {file : String} {t : Token} {d : Diagnostic}
    (h : Diagnostic.ofToken file t = .ok d) : SamePlace (illegalRecord file t) d := by
  obtain ⟨hfile, hline, hcolumn⟩ := Diagnostic.place_of_ofToken h
  refine ⟨"illegal character " ++ quoted t.literal, ?_, rfl⟩
  rw [hfile, hline, hcolumn, place, illegalRecord]
  simp only [String.append_assoc]
  rfl

/-- If tokens are watched, each record of them stands for one diagnostic, and the other way. -/
theorem forall₂_samePlace {s : Scanner} (h : s.Watched) {tokens : List Token}
    {diagnostics : List Diagnostic}
    (hcollect : Diagnostic.collect s.file tokens = .ok diagnostics) :
    List.Forall₂ SamePlace (s.mirror tokens) diagnostics := by
  rw [mirror, if_pos h, List.forall₂_map_left_iff]
  exact (Diagnostic.collect_eq_ok_iff.mp hcollect).imp fun t d => samePlace_of_ofToken

/-- **The log mirrors the illegal tokens.** Under any other setting a run delivers the same tokens
and leaves the same cursors. Each step of it, and so the whole run, logs one record for each illegal
token delivered if they are watched, in order, and nothing else. So does a whole scan, and its
records and its diagnostics are as many, and start with the same places. -/
theorem log_mirrors_tokens (s : Scanner) (text : String) (ops : List Op) :
    let steps := s.performAll ops (.ofText text)
    (∀ s' : Scanner, observed (s'.performAll ops (.ofText text)) = observed steps ∧
      (s'.tokenize text).1 = (s.tokenize text).1) ∧
    (∀ step ∈ steps, step.log = s.mirror step.value.delivered) ∧
    steps.flatMap Step.log = s.mirror (steps.flatMap fun step => step.value.delivered) ∧
    (s.tokenize text).2 = s.mirror (s.tokenize text).1 ∧
    (s.Watched → ∃ diagnostics, Diagnostic.collect s.file (s.tokenize text).1 = .ok diagnostics ∧
      (s.tokenize text).2.length = diagnostics.length ∧
      List.Forall₂ SamePlace (s.tokenize text).2 diagnostics) := by
  intro steps
  have hsteps : ∀ step ∈ steps, step.log = s.traceAll step.value.delivered :=
    fun step => log_of_mem
  have hrun : steps.flatMap Step.log =
      s.traceAll (steps.flatMap fun step => step.value.delivered) := by
    rw [List.flatMap_congr hsteps]
    exact List.flatMap_assoc.symm
  have htokens := s.tokenize_log text
  simp only [traceAll_eq_mirror] at hsteps hrun htokens
  refine ⟨fun s' => ⟨performAll_unobserved s' s ops _, tokenize_unobserved s' s text⟩, hsteps, hrun,
    htokens, fun hwatched => ?_⟩
  obtain ⟨diagnostics, hcollect, -⟩ := Diagnostic.exists_collect_tokenize s s.file text
  have hplaces := forall₂_samePlace hwatched hcollect
  rw [← htokens] at hplaces
  exact ⟨diagnostics, hcollect, hplaces.length_eq, hplaces⟩

end Scanner

end MonkeyScan
