import MonkeyScan.Proofs.Diagnostic.Report
import MonkeyScan.Proofs.Text.Decimal

/-!
# Reporting arbitrary tokens

Tokens need not come from a scan. An illegal one whose literal is not a single character can still be
reported if all of the literal is printable. Otherwise there is no code point to name it by, and the
first such token of a list is the fault of the whole list. What is reported of an illegal token
depends on that token alone, and no other kind of token matters.
-/
namespace MonkeyScan.Diagnostic

variable {file literal : String} {t : Token} {tokens : List Token}

/-! ## Literals -/

/-- The message for a literal that can be reported: each character as itself or by its code point. -/
def literalMessage (literal : String) : String :=
  messageOpening ++ String.ofList (literal.toList.flatMap shownCharacter) ++ "'"

theorem flatMap_shownCharacter_of_printable {text : List Char} (h : ∀ c ∈ text, isPrintable c) :
    text.flatMap shownCharacter = text := by
  induction text with
  | nil => rfl
  | cons c text ih =>
    obtain ⟨hc, htext⟩ := List.forall_mem_cons.mp h
    rw [List.flatMap_cons, ih htext, shownCharacter, if_pos hc, List.singleton_append]

/-- A literal whose characters are all printable is named by itself. -/
theorem messageFor_of_printable (h : ∀ c ∈ literal.toList, isPrintable c) :
    messageFor literal = .ok (literalMessage literal) := by
  have hall : literal.toList.all isPrintable = true := List.all_eq_true.mpr h
  rw [messageFor, describeLiteral, if_pos hall, literalMessage,
    flatMap_shownCharacter_of_printable h, String.ofList_toList, Except.map, Except.ok.injEq,
    ← String.toList_inj]
  simp [messageOpening]

/-- A literal of one character can always be named. -/
theorem messageFor_of_length (h : literal.length = 1) :
    messageFor literal = .ok (literalMessage literal) := by
  rw [← String.length_toList, List.length_eq_one_iff] at h
  obtain ⟨c, hc⟩ := h
  have hliteral : literal = String.ofList [c] := by rw [← hc, String.ofList_toList]
  rw [hliteral, messageFor_character, characterMessage, literalMessage, String.toList_ofList,
    List.flatMap_singleton]

/-- Any other literal has no name. -/
theorem messageFor_of_unprintable (h : ∃ c ∈ literal.toList, ¬ isPrintable c)
    (hlength : literal.length ≠ 1) :
    messageFor literal = .error (.notOneCharacter literal.length) := by
  have hall : ¬ literal.toList.all isPrintable = true := by
    intro hall
    obtain ⟨c, hc, hprintable⟩ := h
    exact hprintable (List.all_eq_true.mp hall c hc)
  rw [messageFor, describeLiteral, if_neg hall]
  split
  · rename_i c hc
    exact absurd (by rw [← String.length_toList, hc, List.length_singleton]) hlength
  · rw [String.length_toList]
    rfl

/-! ## Tokens -/

/-- An illegal token that cannot be reported. -/
structure Unreportable (t : Token) : Prop where
  illegal : t.kind = .illegal
  unprintable : ∃ c ∈ t.literal.toList, ¬ isPrintable c
  length_ne_one : t.literal.length ≠ 1

theorem unreportable_iff : Unreportable t ↔
    t.kind = .illegal ∧ ¬ t.literal.toList.all isPrintable ∧ t.literal.length ≠ 1 := by
  have hprintable : (∃ c ∈ t.literal.toList, ¬ isPrintable c) ↔
      ¬ t.literal.toList.all isPrintable := by simp
  exact ⟨fun h => ⟨h.illegal, hprintable.mp h.unprintable, h.length_ne_one⟩,
    fun h => ⟨h.1, hprintable.mpr h.2.1, h.2.2⟩⟩

instance : DecidablePred Unreportable :=
  fun _ => decidable_of_iff _ unreportable_iff.symm

/-- The report of an illegal token: its place, and what its literal is named by. -/
def ofIllegal (file : String) (t : Token) : Diagnostic :=
  ⟨literalMessage t.literal, file, t.line, t.column, some removalHint⟩

theorem ofToken_of_unreportable (h : Unreportable t) :
    ofToken file t = .error (.notOneCharacter t.literal.length) := by
  rw [ofToken, messageFor_of_unprintable h.unprintable h.length_ne_one]
  rfl

theorem ofToken_of_reportable (hkind : t.kind = .illegal) (h : ¬ Unreportable t) :
    ofToken file t = .ok (ofIllegal file t) := by
  have hmessage : messageFor t.literal = .ok (literalMessage t.literal) := by
    by_cases hlength : t.literal.length = 1
    · exact messageFor_of_length hlength
    · refine messageFor_of_printable fun c hc => ?_
      by_contra hprintable
      exact h ⟨hkind, ⟨c, hc, hprintable⟩, hlength⟩
  rw [ofToken, hmessage]
  rfl

/-! ## Lists -/

theorem collect_cons_of_ne (h : t.kind ≠ .illegal) :
    collect file (t :: tokens) = collect file tokens := by
  rw [collect, List.filter_cons_of_neg (by simpa using h), collect]

theorem collect_cons_of_illegal (h : t.kind = .illegal) :
    collect file (t :: tokens) =
      (ofToken file t >>= fun d => (collect file tokens).map (d :: ·)) := by
  rw [collect, List.filter_cons_of_pos (by simpa using h), List.mapM_cons, collect]
  rfl

/-- The first token that cannot be reported decides; without one every illegal token is reported. -/
theorem collect_eq (file : String) (tokens : List Token) :
    collect file tokens =
      match tokens.find? fun t => Unreportable t with
      | some t => .error (.notOneCharacter t.literal.length)
      | none => .ok ((tokens.filter fun t => t.kind = .illegal).map (ofIllegal file)) := by
  induction tokens with
  | nil => rfl
  | cons t tokens ih =>
    by_cases hkind : t.kind = .illegal
    · rw [collect_cons_of_illegal hkind]
      by_cases hbad : Unreportable t
      · rw [ofToken_of_unreportable hbad, List.find?_cons_of_pos (by simpa using hbad)]
        rfl
      · rw [ofToken_of_reportable hkind hbad, List.find?_cons_of_neg (by simpa using hbad),
          List.filter_cons_of_pos (by simpa using hkind), ih]
        cases tokens.find? fun t => Unreportable t <;> rfl
    · have hgood : ¬ Unreportable t := fun hbad => hkind hbad.illegal
      rw [collect_cons_of_ne hkind, List.find?_cons_of_neg (by simpa using hgood),
        List.filter_cons_of_neg (by simpa using hkind), ih]

theorem find?_unreportable_eq_none_iff :
    (tokens.find? fun t => Unreportable t) = none ↔ ∀ t ∈ tokens, ¬ Unreportable t := by
  simp

theorem find?_unreportable_eq_some_iff : (tokens.find? fun t => Unreportable t) = some t ↔
    ∃ before after, tokens = before ++ t :: after ∧ (∀ u ∈ before, ¬ Unreportable u) ∧
      Unreportable t := by
  rw [List.find?_eq_some_iff_append]
  constructor
  · rintro ⟨hbad, before, after, hsplit, hbefore⟩
    exact ⟨before, after, hsplit, by simpa using hbefore, by simpa using hbad⟩
  · rintro ⟨before, after, hsplit, hbefore, hbad⟩
    exact ⟨by simpa using hbad, before, after, hsplit, by simpa using hbefore⟩

/-- A list has a fault for the length of its first token that cannot be reported. -/
theorem collect_eq_error_iff {fault : DiagnosticFault} : collect file tokens = .error fault ↔
    ∃ before t after, tokens = before ++ t :: after ∧ (∀ u ∈ before, ¬ Unreportable u) ∧
      Unreportable t ∧ fault = .notOneCharacter t.literal.length := by
  rw [collect_eq]
  constructor
  · intro h
    cases hfind : tokens.find? fun t => Unreportable t with
    | none =>
      rw [hfind] at h
      cases h
    | some t =>
      rw [hfind] at h
      obtain ⟨before, after, hsplit, hbefore, hbad⟩ := find?_unreportable_eq_some_iff.mp hfind
      exact ⟨before, t, after, hsplit, hbefore, hbad, (Except.error.inj h).symm⟩
  · rintro ⟨before, t, after, hsplit, hbefore, hbad, rfl⟩
    rw [find?_unreportable_eq_some_iff.mpr ⟨before, after, hsplit, hbefore, hbad⟩]

/-- A list whose illegal tokens can all be reported has a diagnostic for each of these. -/
theorem collect_eq_ok_iff_reportable {diagnostics : List Diagnostic} :
    collect file tokens = .ok diagnostics ↔ (∀ t ∈ tokens, ¬ Unreportable t) ∧
      diagnostics = (tokens.filter fun t => t.kind = .illegal).map (ofIllegal file) := by
  rw [collect_eq, ← find?_unreportable_eq_none_iff]
  cases tokens.find? fun t => Unreportable t with
  | none => exact ⟨fun h => ⟨rfl, (Except.ok.inj h).symm⟩, fun h => congrArg Except.ok h.2.symm⟩
  | some t => exact ⟨fun h => (nomatch h), fun h => (nomatch h.1)⟩

/-- The text of a fault gives the length. -/
theorem message_eq_iff {fault : DiagnosticFault} {n : Nat} : fault.message =
    "ord() expected a character, but string of length " ++ toString n ++ " found" ↔
      fault = .notOneCharacter n := by
  obtain ⟨m⟩ := fault
  change "ord() expected a character, but string of length " ++ toString m ++ " found" =
    "ord() expected a character, but string of length " ++ toString n ++ " found" ↔ _
  rw [String.append_left_inj, String.append_right_inj, DiagnosticFault.notOneCharacter.injEq]
  exact ⟨toString_inj, fun h => h ▸ rfl⟩

/-- **The first token without a name is the fault of a list.** There is a fault exactly if some
illegal token has a literal that is not printable and not a single character, and it gives the length
of the first such literal. Otherwise there is one diagnostic for each illegal token, in order, made
from that token and the name of the file. So tokens of other kinds may be put in or left out
anywhere. -/
theorem collect_law (file : String) (tokens : List Token) :
    (∀ fault, collect file tokens = .error fault ↔
      ∃ before t after, tokens = before ++ t :: after ∧ (∀ u ∈ before, ¬ Unreportable u) ∧
        Unreportable t ∧ fault.message = "ord() expected a character, but string of length " ++
          toString t.literal.length ++ " found") ∧
    (∀ diagnostics, collect file tokens = .ok diagnostics ↔
      (∀ t ∈ tokens, ¬ Unreportable t) ∧
        diagnostics = (tokens.filter fun t => t.kind = .illegal).map (ofIllegal file)) ∧
    ∀ others : List Token, (others.filter fun t => t.kind = .illegal) =
      (tokens.filter fun t => t.kind = .illegal) → collect file others = collect file tokens := by
  refine ⟨fun fault => ?_, fun diagnostics => collect_eq_ok_iff_reportable, fun others hothers => ?_⟩
  · simp only [collect_eq_error_iff, message_eq_iff]
  · rw [collect, hothers, collect]

end MonkeyScan.Diagnostic
