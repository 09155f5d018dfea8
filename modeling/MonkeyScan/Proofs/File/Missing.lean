import MonkeyScan.Proofs.File.Canonical
import MonkeyScan.Proofs.File.Store

/-!
# Where something is missing

Reading finds no entry exactly if the text can be followed, through directories, to where nothing
is: at a directory that is missing on the way, or at its end.
-/
namespace MonkeyScan

namespace FileTree
variable {t : FileTree} {path : String} {start : List String}

/-- A text with which the files can be asked leads through directories to where nothing is, with all
its components or before that. The empty text leads nowhere. -/
structure Missing (t : FileTree) (path : String) : Prop where
  nullCharacter : '\x00' ∉ path.toList
  text_le : path.utf8ByteSize ≤ longestText
  gap : path = "" ∨ ∃ front back place, components path = front ++ back ∧
    t.follow (if path.toList.head? = some '/' then [] else t.current) front = .ok place ∧
    t.root.get? place = none

theorem follow_eq_noEntry_iff {all : List String} : t.follow start all = .error .noEntry ↔
    ∃ front back place, all = front ++ back ∧ back ≠ [] ∧ t.follow start front = .ok place ∧
      t.root.get? place = none := by
  induction all generalizing start with
  | nil =>
    constructor
    · intro h
      cases h
    · rintro ⟨front, back, place, hall, hback, -, -⟩
      exact absurd (List.append_eq_nil_iff.mp hall.symm).2 hback
  | cons component more ih =>
    constructor
    · intro h
      rw [follow] at h
      cases hstart : t.root.get? start with
      | none => exact ⟨[], _, start, rfl, List.cons_ne_nil _ _, rfl, hstart⟩
      | some node =>
        rw [hstart] at h
        cases node with
        | file bytes => cases h
        | dir entries =>
          by_cases hlong : longestName < component.utf8ByteSize
          · simp [hlong] at h
          · simp only [if_neg hlong] at h
            obtain ⟨front, back, place, rfl, hback, hfollow, hnone⟩ := ih.mp h
            refine ⟨component :: front, back, place, rfl, hback, ?_, hnone⟩
            exact follow_cons_eq_ok.mpr ⟨⟨entries, hstart⟩, Nat.not_lt.mp hlong, hfollow⟩
    · rintro ⟨front, back, place, hall, hback, hfollow, hnone⟩
      cases front with
      | nil =>
        obtain rfl : start = place := Except.ok.inj hfollow
        rw [follow, hnone]
      | cons first front =>
        obtain ⟨rfl, rfl⟩ := List.cons.inj hall
        obtain ⟨⟨entries, hstart⟩, hsize, hfollow'⟩ := follow_cons_eq_ok.mp hfollow
        rw [follow, hstart]
        simp only [if_neg (Nat.not_lt.mpr hsize)]
        exact ih.mpr ⟨front, back, place, rfl, hback, hfollow', hnone⟩

theorem read_eq_noEntry_iff_locate : t.read path = .error .noEntry ↔
    t.locate path = .error .noEntry ∨ ∃ place, t.locate path = .ok place ∧
      t.root.get? place = none := by
  unfold read FileTree.node
  cases hloc : t.locate path with
  | error fault => simp [bind, Except.bind]
  | ok place =>
    rcases hplace : t.root.get? place with _ | ⟨bytes⟩ | ⟨entries⟩ <;>
      simp [bind, Except.bind, hplace, pure, Except.pure, throw, throwThe, MonadExceptOf.throw]

/-- **Reading finds no entry exactly where something is missing.** -/
theorem read_eq_noEntry_iff : t.read path = .error .noEntry ↔ t.Missing path := by
  rw [read_eq_noEntry_iff_locate]
  unfold locate
  by_cases hnull : '\x00' ∈ path.toList
  · rw [if_pos hnull]
    constructor
    · rintro (h | ⟨place, h, -⟩) <;> cases h
    · exact fun h => absurd hnull h.nullCharacter
  by_cases hempty : path = ""
  · rw [if_neg hnull, if_pos hempty]
    have hshort : path.utf8ByteSize ≤ longestText := by
      rw [hempty]
      decide
    exact ⟨fun _ => ⟨hnull, hshort, Or.inl hempty⟩, fun _ => Or.inl rfl⟩
  by_cases hlong : longestText < path.utf8ByteSize
  · rw [if_neg hnull, if_neg hempty, if_pos hlong]
    constructor
    · rintro (h | ⟨place, h, -⟩) <;> cases h
    · exact fun h => absurd hlong (Nat.not_lt.mpr h.text_le)
  rw [if_neg hnull, if_neg hempty, if_neg hlong]
  change t.follow _ (components path) = _ ∨ (∃ place, t.follow _ (components path) = _ ∧ _) ↔ _
  rw [follow_eq_noEntry_iff]
  constructor
  · rintro (⟨front, back, place, hall, -, hfollow, hnone⟩ | ⟨place, hfollow, hnone⟩)
    · exact ⟨hnull, Nat.not_lt.mp hlong, Or.inr ⟨front, back, place, hall, hfollow, hnone⟩⟩
    · exact ⟨hnull, Nat.not_lt.mp hlong,
        Or.inr ⟨components path, [], place, (List.append_nil _).symm, hfollow, hnone⟩⟩
  · rintro ⟨-, -, h⟩
    obtain ⟨front, back, place, hall, hfollow, hnone⟩ := h.resolve_left hempty
    cases back with
    | nil =>
      rw [List.append_nil] at hall
      exact Or.inr ⟨place, hall ▸ hfollow, hnone⟩
    | cons name back =>
      exact Or.inl ⟨front, _, place, hall, List.cons_ne_nil _ _, hfollow, hnone⟩

end FileTree

end MonkeyScan
