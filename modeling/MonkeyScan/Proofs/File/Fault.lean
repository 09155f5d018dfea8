import MonkeyScan.File.Tree

/-!
# Faults of the files themselves

Every fault but one is the files' own and has a number. A null character is refused before the files
are asked, and only where a path has one: the directories that a path lies in have no character that
it lacks, but for the dot of the current directory.
-/
namespace MonkeyScan

theorem mem_intercalate_iff {c : Char} {separator : String} (hc : c ∉ separator.toList)
    (parts : List String) :
    c ∈ (separator.intercalate parts).toList ↔ ∃ part ∈ parts, c ∈ part.toList := by
  induction parts with
  | nil => simp
  | cons first more ih =>
    cases more with
    | nil => simp
    | cons next more =>
      rw [String.intercalate_cons_cons, String.toList_append, String.toList_append]
      simp only [List.mem_append, hc, or_false, ih]
      constructor
      · rintro (hfirst | ⟨part, hpart, hmem⟩)
        · exact ⟨first, List.mem_cons_self, hfirst⟩
        · exact ⟨part, List.mem_cons_of_mem _ hpart, hmem⟩
      · rintro ⟨part, hpart, hmem⟩
        rcases List.mem_cons.mp hpart with rfl | hpart
        · exact Or.inl hmem
        · exact Or.inr ⟨part, hpart, hmem⟩

namespace Path

/-- A null character in the text of a path stands in one of its components. -/
theorem nullCharacter_mem_text_iff (p : Path) :
    '\x00' ∈ p.text.toList ↔ ∃ part ∈ p.parts, '\x00' ∈ part.toList := by
  unfold text
  by_cases hempty : p.anchor = .relative ∧ p.parts = []
  · simp [hempty]
  · have hanchor : '\x00' ∉ p.anchor.text.toList := by
      cases p.anchor <;> decide
    have hslash : '\x00' ∉ "/".toList := by decide
    simp only [hempty, if_false, String.toList_append, List.mem_append, hanchor, false_or,
      mem_intercalate_iff hslash]

theorem nullCharacter_mem_of_parent {p : Path} (h : '\x00' ∈ p.parent.text.toList) :
    '\x00' ∈ p.text.toList := by
  rw [nullCharacter_mem_text_iff] at h ⊢
  obtain ⟨part, hpart, hnull⟩ := h
  exact ⟨part, (List.dropLast_sublist p.parts).mem hpart, hnull⟩

end Path

namespace FileTree
variable {t after : FileTree} {path : String} {fault : SystemFault}

theorem follow_ne_nullCharacter (t : FileTree) (start components : List String) :
    t.follow start components ≠ .error .nullCharacter := by
  induction components generalizing start with
  | nil => simp [follow]
  | cons component more ih =>
    rw [follow]
    split
    · simp
    · simp
    · split
      · simp
      · exact ih _

theorem locate_eq_nullCharacter (h : t.locate path = .error .nullCharacter) :
    '\x00' ∈ path.toList := by
  unfold locate at h
  split at h
  · assumption
  · split at h
    · simp at h
    · split at h
      · simp at h
      · exact absurd h (follow_ne_nullCharacter t _ _)

theorem write_eq_nullCharacter {bytes : List UInt8}
    (h : t.write path bytes = .error .nullCharacter) : '\x00' ∈ path.toList := by
  unfold write at h
  cases hloc : t.locate path with
  | error fault =>
    have hfault : fault = .nullCharacter := by simpa [hloc, bind, Except.bind] using h
    exact locate_eq_nullCharacter (hfault ▸ hloc)
  | ok place =>
    rcases hplace : t.root.get? place with _ | ⟨old⟩ | ⟨entries⟩ <;>
      simp [hloc, hplace, bind, Except.bind, pure, Except.pure, throw, throwThe,
        MonadExceptOf.throw] at h

theorem makeDir_eq_nullCharacter (h : t.makeDir path = .error .nullCharacter) :
    '\x00' ∈ path.toList := by
  unfold makeDir at h
  cases hloc : t.locate path with
  | error fault =>
    have hfault : fault = .nullCharacter := by simpa [hloc, bind, Except.bind] using h
    exact locate_eq_nullCharacter (hfault ▸ hloc)
  | ok place =>
    cases hplace : t.root.get? place <;>
      simp [hloc, hplace, bind, Except.bind, pure, Except.pure, throw, throwThe,
        MonadExceptOf.throw] at h

theorem ensureDir_eq_nullCharacter (h : t.ensureDir path = .error fault)
    (hfault : fault.fault = .nullCharacter) : '\x00' ∈ path.toList := by
  unfold ensureDir at h
  cases hmake : t.makeDir path with
  | ok made => simp [hmake] at h
  | error refused =>
    simp only [hmake] at h
    split at h
    · simp at h
    · obtain rfl := Except.error.inj h
      obtain rfl : refused = .nullCharacter := hfault
      exact makeDir_eq_nullCharacter hmake

/-- Directories are refused for a null character only if their path has one. -/
theorem makeDirs_eq_nullCharacter {p : Path} (h : t.makeDirs p = (.error fault, after))
    (hfault : fault.fault = .nullCharacter) : '\x00' ∈ p.text.toList := by
  induction hn : p.parts.length using Nat.strongRecOn generalizing p after with
  | _ n ih =>
    rw [makeDirs] at h
    cases hfirst : t.ensureDir p.text with
    | ok made => simp [hfirst] at h
    | error first =>
      simp only [hfirst] at h
      by_cases hretry : first.fault = .noEntry ∧ p.parts ≠ []
      · rw [if_pos hretry] at h
        rcases houter : t.makeDirs p.parent with ⟨refused | _, outer⟩
        · -- The fault is that of the outer directory, whose path is shorter.
          simp only [houter, Prod.mk.injEq] at h
          obtain rfl := Except.error.inj h.1
          have hpos := List.length_pos_iff.mpr hretry.2
          have hlt : p.parent.parts.length < n := by
            simp only [Path.parent, List.length_dropLast]
            omega
          exact Path.nullCharacter_mem_of_parent (ih _ hlt houter rfl)
        · cases hsecond : outer.ensureDir p.text with
          | ok made => simp [houter, hsecond] at h
          | error second =>
            simp only [houter, hsecond, Prod.mk.injEq] at h
            obtain rfl := Except.error.inj h.1
            exact ensureDir_eq_nullCharacter hsecond hfault
      · rw [if_neg hretry] at h
        simp only [Prod.mk.injEq] at h
        obtain rfl := Except.error.inj h.1
        exact ensureDir_eq_nullCharacter hfirst hfault

/-- **A file is refused for its null character only if its path has one.** -/
theorem store_eq_nullCharacter {p : Path} {bytes : List UInt8}
    (h : t.store p bytes = (.error fault, after)) (hfault : fault.fault = .nullCharacter) :
    '\x00' ∈ p.text.toList := by
  unfold store at h
  rcases hdirs : t.makeDirs p.parent with ⟨refused | _, made⟩
  · simp only [hdirs, Prod.mk.injEq] at h
    obtain rfl := Except.error.inj h.1
    exact Path.nullCharacter_mem_of_parent (makeDirs_eq_nullCharacter hdirs hfault)
  · cases hwrite : made.write p.text bytes with
    | ok written => simp [hdirs, hwrite] at h
    | error refused =>
      simp only [hdirs, hwrite, Prod.mk.injEq] at h
      obtain rfl := Except.error.inj h.1
      obtain rfl : refused = .nullCharacter := hfault
      exact write_eq_nullCharacter hwrite

end FileTree

end MonkeyScan
