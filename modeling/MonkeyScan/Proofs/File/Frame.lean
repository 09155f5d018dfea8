import MonkeyScan.Proofs.File.Store

/-!
# What a change of the files leaves alone

At a place stands a file with its bytes, or a directory, whatever it holds. A node that is put into
a directory changes what stands at its own place and nowhere else. So the making of directories
leaves every file as it was and loses no directory, whether or not it comes to its end, and a file
that is stored changes what stands at one place.
-/
namespace MonkeyScan

/-- What stands at a place, whatever a directory holds. -/
inductive Entry
  | file (bytes : List UInt8)
  | dir
  deriving DecidableEq, Repr

namespace Node
variable {n new : Node} {entries : List (String × Node)} {name : String}
  {p q outer : List String} {bytes : List UInt8}

def entry : Node → Entry
  | .file bytes => .file bytes
  | .dir _ => .dir

/-- What stands where a list of names leads, if anything does. -/
def standing? (n : Node) (place : List String) : Option Entry :=
  (n.get? place).map entry

@[simp] theorem standing?_nil (n : Node) : n.standing? [] = some n.entry := by
  cases n <;> rfl

@[simp] theorem standing?_file_cons : (Node.file bytes).standing? (name :: p) = none := rfl

theorem standing?_dir_cons : (Node.dir entries).standing? (name :: p) =
    (entries.lookup name).bind fun node => node.standing? p := by
  rw [standing?, get?]
  cases entries.lookup name <;> rfl

theorem standing?_eq_dir_iff : n.standing? p = some .dir ↔ n.HasDir p := by
  rw [standing?, HasDir]
  cases n.get? p with
  | none => simp
  | some node => cases node <;> simp [entry]

theorem standing?_eq_file_iff : n.standing? p = some (.file bytes) ↔ n.get? p = some (.file bytes) := by
  rw [standing?]
  cases n.get? p with
  | none => simp
  | some node => cases node <;> simp [entry]

theorem standing?_eq_none_iff : n.standing? p = none ↔ n.get? p = none :=
  Option.map_eq_none_iff

/-- Only a directory has something below it. -/
theorem HasDir.of_standing? {e : Entry} (h : n.standing? (p ++ name :: q) = some e) : n.HasDir p := by
  induction p generalizing n with
  | nil =>
    cases n with
    | file bytes => simp at h
    | dir entries => exact ⟨entries, rfl⟩
  | cons first p ih =>
    cases n with
    | file bytes => simp at h
    | dir entries =>
      rw [List.cons_append, standing?_dir_cons] at h
      obtain ⟨node, hfirst, hnode⟩ := Option.bind_eq_some_iff.mp h
      exact hasDir_cons_iff.mpr ⟨entries, node, rfl, hfirst, ih hnode⟩

/-- Nothing stands below what is no directory. -/
theorem standing?_below (h : ¬ n.HasDir p) (name : String) (q : List String) :
    n.standing? (p ++ name :: q) = none := by
  cases hentry : n.standing? (p ++ name :: q) with
  | none => rfl
  | some e => exact absurd (.of_standing? hentry) h

/-- A node put into a directory changes what stands at its own place and nowhere else, if it holds
nothing and replaces no directory. -/
theorem standing?_put (houter : n.HasDir outer) (hplace : ¬ n.HasDir (outer ++ [name]))
    (hnew : ∀ first more, new.standing? (first :: more) = none) (q : List String) :
    (n.put (outer ++ [name]) new).standing? q =
      if q = outer ++ [name] then some new.entry else n.standing? q := by
  induction outer generalizing n q with
  | nil =>
    obtain ⟨entries, rfl⟩ := hasDir_nil_iff.mp houter
    cases q with
    | nil => rfl
    | cons first more =>
      simp only [List.nil_append, put, standing?_dir_cons, List.cons.injEq] at hplace ⊢
      by_cases hfirst : first = name
      · -- Below the place neither the new node nor the old one has anything.
        subst hfirst
        rw [lookup_setEntry_self, Option.bind_some]
        cases more with
        | nil => simp
        | cons next more =>
          have hold := standing?_below hplace next more
          rw [List.singleton_append, standing?_dir_cons] at hold
          simp [hnew, hold]
      · rw [lookup_setEntry_of_ne _ _ hfirst, if_neg fun h => hfirst h.1]
  | cons first outer ih =>
    obtain ⟨entries, node, rfl, hfirst, hnode⟩ := hasDir_cons_iff.mp houter
    have hinner : ¬ node.HasDir (outer ++ [name]) := fun hdir =>
      hplace (hasDir_cons_iff.mpr ⟨entries, node, rfl, hfirst, hdir⟩)
    cases q with
    | nil => rfl
    | cons next more =>
      simp only [List.cons_append, put, standing?_dir_cons, List.cons.injEq]
      by_cases hnext : next = first
      · subst hnext
        rw [lookup_setEntry_self, hfirst, Option.getD_some, Option.bind_some, Option.bind_some,
          ih hnode hinner]
        simp
      · rw [lookup_setEntry_of_ne _ _ hnext, if_neg fun h => hnext h.1]

end Node

namespace FileTree
variable {t made after : FileTree} {path : String} {place : List String} {new : Node}
  {bytes : List UInt8} {result : Except SystemFault Unit}

/-- What is put where a text leads, and no directory stands, changes nothing elsewhere. -/
theorem placing_standing? (hloc : t.locate path = .ok place) (hdir : ¬ t.root.HasDir place)
    (hnew : ∀ first more, new.standing? (first :: more) = none) (q : List String) :
    (t.placing place new).root.standing? q =
      if q = place then some new.entry else t.root.standing? q := by
  rcases locate_spec hloc with hplace | ⟨outer, name, rfl, houter⟩
  · exact absurd hplace hdir
  · exact Node.standing?_put houter hdir hnew q

/-- Every file is as it was, and no directory is lost. -/
structure Keeps (t after : FileTree) : Prop where
  current : after.current = t.current
  file : ∀ q bytes, after.root.standing? q = some (.file bytes) ↔ t.root.standing? q = some (.file bytes)
  dir : ∀ q, t.root.HasDir q → after.root.HasDir q

namespace Keeps

theorem refl (t : FileTree) : t.Keeps t := ⟨rfl, fun _ _ => .rfl, fun _ => id⟩

theorem trans (h : t.Keeps made) (h' : made.Keeps after) : t.Keeps after where
  current := h'.current.trans h.current
  file q bytes := (h'.file q bytes).trans (h.file q bytes)
  dir q hq := h'.dir q (h.dir q hq)

end Keeps

/-! ## Directories -/

/-- A directory is made where nothing stood, and nothing else changes. -/
theorem makeDir_standing? (h : t.makeDir path = .ok after) :
    ∃ place, t.locate path = .ok place ∧ t.root.standing? place = none ∧
      after.current = t.current ∧
      ∀ q, after.root.standing? q = if q = place then some .dir else t.root.standing? q := by
  obtain ⟨place, hloc, hnone, rfl⟩ := makeDir_eq_ok.mp h
  have hentry : t.root.standing? place = none := Node.standing?_eq_none_iff.mpr hnone
  have hdir : ¬ t.root.HasDir place := by
    rw [← Node.standing?_eq_dir_iff, hentry]
    simp
  have hempty : ∀ first more, (Node.dir []).standing? (first :: more) = none := fun _ _ => rfl
  exact ⟨place, hloc, hentry, rfl, placing_standing? hloc hdir hempty⟩

theorem makeDir_keeps (h : t.makeDir path = .ok after) : t.Keeps after := by
  obtain ⟨place, -, hnone, hcurrent, hentry⟩ := makeDir_standing? h
  refine ⟨hcurrent, ?_, ?_⟩
  · intro q bytes
    rw [hentry]
    by_cases hq : q = place
    · simp [hq, hnone]
    · rw [if_neg hq]
  · intro q hq
    rw [← Node.standing?_eq_dir_iff] at hq ⊢
    rw [hentry]
    split
    · rfl
    · exact hq

theorem ensureDir_keeps (h : t.ensureDir path = .ok after) : t.Keeps after := by
  unfold ensureDir at h
  cases hmake : t.makeDir path with
  | ok made =>
    rw [hmake] at h
    obtain rfl : made = after := by simpa using h
    exact makeDir_keeps hmake
  | error fault =>
    rw [hmake] at h
    by_cases hthere : fault ≠ .noEntry ∧ t.isDir path
    · simp only [if_pos hthere, Except.ok.injEq] at h
      exact h ▸ .refl t
    · simp [if_neg hthere] at h

/-- The making of directories keeps what was there, also where it fails. -/
theorem makeDirs_keeps {p : Path} (h : t.makeDirs p = (result, made)) : t.Keeps made := by
  induction hn : p.parts.length using Nat.strongRecOn generalizing p result made with
  | _ n ih =>
    rw [makeDirs] at h
    cases hfirst : t.ensureDir p.text with
    | ok after =>
      simp only [hfirst, Prod.mk.injEq] at h
      exact h.2 ▸ ensureDir_keeps hfirst
    | error fault =>
      simp only [hfirst] at h
      by_cases hretry : fault.fault = .noEntry ∧ p.parts ≠ []
      · rw [if_pos hretry] at h
        have hpos := List.length_pos_iff.mpr hretry.2
        have hlt : p.parent.parts.length < n := by
          simp only [Path.parent, List.length_dropLast]
          omega
        rcases houter : t.makeDirs p.parent with ⟨refused | _, outer⟩
        · simp only [houter, Prod.mk.injEq] at h
          exact h.2 ▸ ih _ hlt houter rfl
        · have hkept := ih _ hlt houter rfl
          cases hsecond : outer.ensureDir p.text with
          | ok after =>
            simp only [houter, hsecond, Prod.mk.injEq] at h
            exact h.2 ▸ hkept.trans (ensureDir_keeps hsecond)
          | error second =>
            simp only [houter, hsecond, Prod.mk.injEq] at h
            exact h.2 ▸ hkept
      · simp only [if_neg hretry, Prod.mk.injEq] at h
        exact h.2 ▸ .refl t

/-! ## Files -/

/-- A written file changes nothing but what stands at its place. -/
theorem write_standing? (h : t.write path bytes = .ok after) :
    ∃ place, after.locate path = .ok place ∧ ¬ t.root.HasDir place ∧
      ∀ q, after.root.standing? q = if q = place then some (.file bytes) else t.root.standing? q := by
  obtain ⟨place, hloc, hdir, rfl⟩ := write_eq_ok.mp h
  have hleaf : ∀ first more, (Node.file bytes).standing? (first :: more) = none := fun _ _ => rfl
  exact ⟨place, (placing_spec hloc hdir _).1, hdir, placing_standing? hloc hdir hleaf⟩

/-- A file that cannot be stored leaves every file as it was. -/
theorem store_keeps {p : Path} {fault : SystemFault}
    (h : t.store p bytes = (.error fault, after)) : t.Keeps after := by
  unfold store at h
  rcases hdirs : t.makeDirs p.parent with ⟨refused | _, made⟩
  · simp only [hdirs, Prod.mk.injEq] at h
    exact h.2 ▸ makeDirs_keeps hdirs
  · cases hwrite : made.write p.text bytes with
    | ok written => simp [hdirs, hwrite] at h
    | error refused =>
      simp only [hdirs, hwrite, Prod.mk.injEq] at h
      exact h.2 ▸ makeDirs_keeps hdirs

/-- A file that is stored stands at its place, every other file is as it was, and no directory is
lost. -/
theorem store_standing? {p : Path} (h : t.store p bytes = (.ok (), after)) :
    ∃ place, after.locate p.text = .ok place ∧ after.root.standing? place = some (.file bytes) ∧
      (∀ q, q ≠ place → ∀ other,
        after.root.standing? q = some (.file other) ↔ t.root.standing? q = some (.file other)) ∧
      ∀ q, t.root.HasDir q → after.root.HasDir q := by
  obtain ⟨made, hdirs, hwrite⟩ := store_eq_ok.mp h
  have hkept := makeDirs_keeps hdirs
  obtain ⟨place, hloc, hdir, hentry⟩ := write_standing? hwrite
  refine ⟨place, hloc, by rw [hentry, if_pos rfl], ?_, ?_⟩
  · intro q hq other
    rw [hentry, if_neg hq, hkept.file]
  · intro q hq
    have hmade := hkept.dir q hq
    have hne : q ≠ place := fun hq => hdir (hq ▸ hmade)
    rw [← Node.standing?_eq_dir_iff, hentry, if_neg hne, Node.standing?_eq_dir_iff]
    exact hmade

/-- Whether a file can be stored does not depend on its bytes. -/
theorem exists_store {p : Path} (h : t.store p bytes = (.ok (), after)) (other : List UInt8) :
    ∃ after, t.store p other = (.ok (), after) := by
  obtain ⟨made, hdirs, hwrite⟩ := store_eq_ok.mp h
  obtain ⟨place, hloc, hdir, -⟩ := write_eq_ok.mp hwrite
  exact ⟨_, store_eq_ok.mpr ⟨made, hdirs, write_eq_ok.mpr ⟨place, hloc, hdir, rfl⟩⟩⟩

end FileTree

end MonkeyScan
