import MonkeyScan.File.Tree

/-!
# What is stored can be read

A text is followed through directories, and putting a node where no directory stands leaves every
directory a directory. So the text of a file leads to the same place before and after the file is
written, and its bytes are found there. The directories made for it are there afterwards, so it can
be written again.
-/
namespace MonkeyScan

namespace Node
variable {n new : Node} {entries : List (String × Node)} {name : String} {p q place : List String}

/-- A list of names leads to a directory. -/
def HasDir (n : Node) (place : List String) : Prop :=
  ∃ entries, n.get? place = some (.dir entries)

theorem lookup_setEntry_self (entries : List (String × Node)) (name : String) (node : Node) :
    (setEntry entries name node).lookup name = some node := by
  induction entries with
  | nil => simp [setEntry]
  | cons entry more ih =>
    obtain ⟨other, old⟩ := entry
    by_cases hother : other = name
    · simp [setEntry, hother]
    · have hne : (name == other) = false := by simpa using Ne.symm hother
      simp [setEntry, hother, List.lookup_cons, hne, ih]

theorem lookup_setEntry_of_ne {other : String} (entries : List (String × Node)) (node : Node)
    (h : other ≠ name) : (setEntry entries name node).lookup other = entries.lookup other := by
  induction entries with
  | nil =>
    have hne : (other == name) = false := by simpa using h
    simp [setEntry, List.lookup_cons, hne]
  | cons entry more ih =>
    obtain ⟨first, old⟩ := entry
    by_cases hfirst : first = name
    · have hne : (other == first) = false := by simpa [hfirst] using h
      simp only [setEntry, if_pos hfirst, List.lookup_cons, hne]
    · simp only [setEntry, if_neg hfirst, List.lookup_cons, ih]

theorem hasDir_nil_iff : n.HasDir [] ↔ ∃ entries, n = .dir entries := by
  simp [HasDir, get?]

theorem hasDir_cons_iff : n.HasDir (name :: p) ↔
    ∃ entries node, n = .dir entries ∧ entries.lookup name = some node ∧ node.HasDir p := by
  cases n with
  | file bytes => simp [HasDir, get?]
  | dir entries =>
    cases hname : entries.lookup name with
    | none => simp [HasDir, get?, hname]
    | some node => simp [HasDir, get?, hname]

/-- What leads to a directory leads through directories. -/
theorem HasDir.of_append (h : n.HasDir (p ++ q)) : n.HasDir p := by
  induction p generalizing n with
  | nil =>
    rw [hasDir_nil_iff]
    cases q with
    | nil => exact hasDir_nil_iff.mp h
    | cons name q =>
      obtain ⟨entries, -, hn, -⟩ := hasDir_cons_iff.mp h
      exact ⟨entries, hn⟩
  | cons name p ih =>
    obtain ⟨entries, node, hn, hname, hnode⟩ := hasDir_cons_iff.mp h
    exact hasDir_cons_iff.mpr ⟨entries, node, hn, hname, ih hnode⟩

theorem HasDir.dropLast (h : n.HasDir p) : n.HasDir p.dropLast := by
  rcases List.eq_nil_or_concat p with rfl | ⟨init, last, rfl⟩
  · exact h
  · rw [List.concat_eq_append] at h ⊢
    rw [List.dropLast_concat]
    exact h.of_append

/-- A node put into a directory is found there. -/
theorem get?_put_self (h : n.HasDir q) (name : String) (new : Node) :
    (n.put (q ++ [name]) new).get? (q ++ [name]) = some new := by
  induction q generalizing n with
  | nil =>
    obtain ⟨entries, rfl⟩ := hasDir_nil_iff.mp h
    simp [put, get?, lookup_setEntry_self]
  | cons first q ih =>
    obtain ⟨entries, node, rfl, hfirst, hnode⟩ := hasDir_cons_iff.mp h
    simp [put, get?, lookup_setEntry_self, hfirst, ih hnode]

/-- A node put where no directory stands leaves every directory a directory. -/
theorem HasDir.put (h : n.HasDir q) (hplace : ¬ n.HasDir place) (new : Node) :
    (n.put place new).HasDir q := by
  induction place generalizing n q with
  | nil => exact absurd (h.of_append (p := []) (q := q)) hplace
  | cons name place ih =>
    obtain ⟨entries, rfl⟩ := hasDir_nil_iff.mp (h.of_append (p := []) (q := q))
    cases q with
    | nil => exact ⟨_, rfl⟩
    | cons first q =>
      obtain ⟨entries', node, hentries, hfirst, hnode⟩ := hasDir_cons_iff.mp h
      obtain rfl : entries = entries' := by simpa using hentries
      by_cases hne : first = name
      · subst hne
        have hnot : ¬ node.HasDir place := fun hdir =>
          hplace (hasDir_cons_iff.mpr ⟨entries, node, rfl, hfirst, hdir⟩)
        refine hasDir_cons_iff.mpr ⟨_, node.put place new, rfl, ?_, ih hnode hnot⟩
        rw [lookup_setEntry_self, hfirst, Option.getD_some]
      · refine hasDir_cons_iff.mpr ⟨_, node, rfl, ?_, hnode⟩
        rw [lookup_setEntry_of_ne _ _ hne, hfirst]

end Node

namespace FileTree
variable {t after made : FileTree} {start place : List String} {path : String}
  {bytes : List UInt8}

/-- The tree with a node put at a place. -/
def placing (t : FileTree) (place : List String) (new : Node) : FileTree :=
  { t with root := t.root.put place new }

/-! ## Where texts lead -/

/-- A step from a directory leads to a directory or to an entry of one. -/
theorem enter_cases (h : t.root.HasDir start) (component : String) :
    t.root.HasDir (enter start component) ∨ enter start component = start ++ [component] := by
  unfold enter
  split
  · exact Or.inl h
  · split
    · exact Or.inl h.dropLast
    · exact Or.inr rfl

/-- Components lead from directory to directory, but for the last. -/
theorem follow_cons_eq_ok {component : String} {more : List String} :
    t.follow start (component :: more) = .ok place ↔
      t.root.HasDir start ∧ component.utf8ByteSize ≤ longestName ∧
        t.follow (enter start component) more = .ok place := by
  rw [follow]
  cases hstart : t.root.get? start with
  | none => simp [Node.HasDir, hstart]
  | some node =>
    cases node with
    | file bytes => simp [Node.HasDir, hstart]
    | dir entries =>
      by_cases hlong : longestName < component.utf8ByteSize
      · simp [hlong, Nat.not_le.mpr hlong]
      · simp [Node.HasDir, hstart, hlong, Nat.not_lt.mp hlong]

theorem follow_spec {components : List String} (hne : components ≠ [])
    (h : t.follow start components = .ok place) :
    t.root.HasDir place ∨ ∃ outer name, place = outer ++ [name] ∧ t.root.HasDir outer := by
  induction components generalizing start with
  | nil => exact absurd rfl hne
  | cons component more ih =>
    obtain ⟨hstart, -, hmore⟩ := follow_cons_eq_ok.mp h
    cases more with
    | nil =>
      obtain rfl : enter start component = place := by simpa [follow] using hmore
      rcases enter_cases hstart component with hdir | hentry
      · exact Or.inl hdir
      · exact Or.inr ⟨start, component, hentry, hstart⟩
    | cons next more => exact ih (List.cons_ne_nil _ _) hmore

/-- Components that can be followed can be followed where no directory is missing. -/
theorem follow_of_hasDir {components : List String}
    (hkept : ∀ q, t.root.HasDir q → after.root.HasDir q)
    (h : t.follow start components = .ok place) : after.follow start components = .ok place := by
  induction components generalizing start with
  | nil => exact h
  | cons component more ih =>
    obtain ⟨hstart, hname, hmore⟩ := follow_cons_eq_ok.mp h
    exact follow_cons_eq_ok.mpr ⟨hkept _ hstart, hname, ih hmore⟩

theorem splitSlashes_ne_nil (text : List Char) : splitSlashes text ≠ [] := by
  cases text with
  | nil => simp [splitSlashes]
  | cons c text =>
    rw [splitSlashes]
    split
    · exact List.cons_ne_nil _ _
    · split <;> exact List.cons_ne_nil _ _

theorem locate_eq_ok : t.locate path = .ok place ↔
    '\x00' ∉ path.toList ∧ path ≠ "" ∧ path.utf8ByteSize ≤ longestText ∧
      t.follow (if path.toList.head? = some '/' then [] else t.current)
        ((splitSlashes path.toList).map String.ofList) = .ok place := by
  unfold locate
  by_cases hnull : '\x00' ∈ path.toList
  · simp [hnull]
  by_cases hempty : path = ""
  · simp [hempty]
  by_cases hlong : longestText < path.utf8ByteSize
  · simp [hnull, hempty, hlong, Nat.not_le.mpr hlong]
  · simp [hnull, hempty, hlong, Nat.not_lt.mp hlong]

theorem locate_spec (h : t.locate path = .ok place) :
    t.root.HasDir place ∨ ∃ outer name, place = outer ++ [name] ∧ t.root.HasDir outer := by
  obtain ⟨-, -, -, hfollow⟩ := locate_eq_ok.mp h
  refine follow_spec ?_ hfollow
  simpa using splitSlashes_ne_nil path.toList

theorem locate_of_hasDir (hcurrent : after.current = t.current)
    (hkept : ∀ q, t.root.HasDir q → after.root.HasDir q) (h : t.locate path = .ok place) :
    after.locate path = .ok place := by
  obtain ⟨hnull, hempty, hlong, hfollow⟩ := locate_eq_ok.mp h
  rw [← hcurrent] at hfollow
  exact locate_eq_ok.mpr ⟨hnull, hempty, hlong, follow_of_hasDir hkept hfollow⟩

/-! ## What stands there -/

theorem node_eq_ok {node : Node} : t.node path = .ok node ↔
    ∃ place, t.locate path = .ok place ∧ t.root.get? place = some node := by
  unfold FileTree.node
  cases hloc : t.locate path with
  | error fault => simp [bind, Except.bind]
  | ok place =>
    cases hplace : t.root.get? place with
    | none => simp [bind, Except.bind, hplace, throw, throwThe, MonadExceptOf.throw]
    | some found => simp [bind, Except.bind, hplace, pure, Except.pure]

theorem isDir_iff : t.isDir path = true ↔ ∃ place, t.locate path = .ok place ∧ t.root.HasDir place := by
  have hnode : t.isDir path = true ↔ ∃ entries, t.node path = .ok (.dir entries) := by
    unfold isDir
    split
    · rename_i entries hdir
      simp [hdir]
    · rename_i hnot
      simpa using hnot
  simp only [hnode, node_eq_ok, Node.HasDir]
  constructor
  · rintro ⟨entries, place, hloc, hget⟩
    exact ⟨place, hloc, entries, hget⟩
  · rintro ⟨place, hloc, entries, hget⟩
    exact ⟨entries, place, hloc, hget⟩

/-- What is put where a text leads, and no directory stands, is found by the text; what was a
directory still is one. -/
theorem placing_spec (hloc : t.locate path = .ok place) (hdir : ¬ t.root.HasDir place) (new : Node) :
    (t.placing place new).locate path = .ok place ∧
      (t.placing place new).root.get? place = some new ∧
      ∀ other, t.isDir other → (t.placing place new).isDir other := by
  have hkept : ∀ q, t.root.HasDir q → (t.placing place new).root.HasDir q :=
    fun q hq => hq.put hdir new
  have hcurrent : (t.placing place new).current = t.current := rfl
  refine ⟨locate_of_hasDir hcurrent hkept hloc, ?_, ?_⟩
  · rcases locate_spec hloc with hplace | ⟨outer, name, rfl, houter⟩
    · exact absurd hplace hdir
    · exact Node.get?_put_self houter name new
  · intro other hother
    obtain ⟨place', hloc', hdir'⟩ := isDir_iff.mp hother
    exact isDir_iff.mpr ⟨place', locate_of_hasDir hcurrent hkept hloc', hkept place' hdir'⟩

/-! ## Reading and writing -/

theorem read_eq_ok : t.read path = .ok bytes ↔
    ∃ place, t.locate path = .ok place ∧ t.root.get? place = some (.file bytes) := by
  rw [← node_eq_ok, read]
  cases hnode : t.node path with
  | error fault => simp [bind, Except.bind]
  | ok node =>
    cases node with
    | file bytes' => simp [bind, Except.bind, pure, Except.pure]
    | dir entries => simp [bind, Except.bind, throw, throwThe, MonadExceptOf.throw]

theorem write_eq_ok : t.write path bytes = .ok after ↔
    ∃ place, t.locate path = .ok place ∧ ¬ t.root.HasDir place ∧
      after = t.placing place (.file bytes) := by
  unfold write placing Node.HasDir
  cases hloc : t.locate path with
  | error fault => simp [bind, Except.bind]
  | ok place =>
    rcases hplace : t.root.get? place with _ | ⟨old⟩ | ⟨entries⟩
    · simp [bind, Except.bind, hplace, pure, Except.pure, eq_comm]
    · simp [bind, Except.bind, hplace, pure, Except.pure, eq_comm]
    · simp [bind, Except.bind, hplace, throw, throwThe, MonadExceptOf.throw]

theorem makeDir_eq_ok : t.makeDir path = .ok after ↔
    ∃ place, t.locate path = .ok place ∧ t.root.get? place = none ∧
      after = t.placing place (.dir []) := by
  unfold makeDir placing
  cases hloc : t.locate path with
  | error fault => simp [bind, Except.bind]
  | ok place =>
    cases hplace : t.root.get? place with
    | none => simp [bind, Except.bind, hplace, pure, Except.pure, eq_comm]
    | some node => simp [bind, Except.bind, hplace, throw, throwThe, MonadExceptOf.throw]

/-- What is written is read, and no directory is lost. -/
theorem write_spec (h : t.write path bytes = .ok after) :
    after.read path = .ok bytes ∧ ∀ other, t.isDir other → after.isDir other := by
  obtain ⟨place, hloc, hdir, rfl⟩ := write_eq_ok.mp h
  obtain ⟨hloc', hget, hkept⟩ := placing_spec hloc hdir (.file bytes)
  exact ⟨read_eq_ok.mpr ⟨place, hloc', hget⟩, hkept⟩

/-- A file that can be read can be written. -/
theorem exists_write_of_read {old : List UInt8} (h : t.read path = .ok old) (bytes : List UInt8) :
    ∃ after, t.write path bytes = .ok after := by
  obtain ⟨place, hloc, hget⟩ := read_eq_ok.mp h
  have hdir : ¬ t.root.HasDir place := by
    rintro ⟨entries, hentries⟩
    rw [hget] at hentries
    cases hentries
  exact ⟨_, write_eq_ok.mpr ⟨place, hloc, hdir, rfl⟩⟩

theorem ensureDir_spec (h : t.ensureDir path = .ok after) : after.isDir path := by
  unfold ensureDir at h
  cases hmake : t.makeDir path with
  | ok made =>
    rw [hmake] at h
    obtain rfl : made = after := by simpa using h
    obtain ⟨place, hloc, hnone, rfl⟩ := makeDir_eq_ok.mp hmake
    have hdir : ¬ t.root.HasDir place := by
      rintro ⟨entries, hentries⟩
      rw [hnone] at hentries
      cases hentries
    obtain ⟨hloc', hget, -⟩ := placing_spec hloc hdir (.dir [])
    exact isDir_iff.mpr ⟨place, hloc', [], hget⟩
  | error fault =>
    rw [hmake] at h
    by_cases hthere : fault ≠ .noEntry ∧ t.isDir path
    · simp only [if_pos hthere, Except.ok.injEq] at h
      exact h ▸ hthere.2
    · simp [if_neg hthere] at h

/-- A directory that is there is left as it is. -/
theorem ensureDir_of_isDir (h : t.isDir path) : t.ensureDir path = .ok t := by
  obtain ⟨place, hloc, entries, hget⟩ := isDir_iff.mp h
  have hmake : t.makeDir path = .error .exists := by
    simp [makeDir, hloc, hget, bind, Except.bind, throw, throwThe, MonadExceptOf.throw]
  simp [ensureDir, hmake, h]

theorem makeDirs_spec {p : Path} (h : t.makeDirs p = (.ok (), made)) : made.isDir p.text := by
  rw [makeDirs] at h
  cases hfirst : t.ensureDir p.text with
  | ok after =>
    simp only [hfirst, Prod.mk.injEq, true_and] at h
    exact h ▸ ensureDir_spec hfirst
  | error fault =>
    simp only [hfirst] at h
    by_cases hretry : fault.fault = .noEntry ∧ p.parts ≠ []
    · rw [if_pos hretry] at h
      rcases houter : t.makeDirs p.parent with ⟨_ | _, outer⟩
      · simp [houter] at h
      · cases hsecond : outer.ensureDir p.text with
        | error fault => simp [houter, hsecond] at h
        | ok after =>
          simp only [houter, hsecond, Prod.mk.injEq, true_and] at h
          exact h ▸ ensureDir_spec hsecond
    · simp [if_neg hretry] at h

theorem makeDirs_of_isDir {p : Path} (h : t.isDir p.text) : t.makeDirs p = (.ok (), t) := by
  rw [makeDirs, ensureDir_of_isDir h]

theorem store_eq_ok {p : Path} : t.store p bytes = (.ok (), after) ↔
    ∃ made, t.makeDirs p.parent = (.ok (), made) ∧ made.write p.text bytes = .ok after := by
  unfold store
  rcases hdirs : t.makeDirs p.parent with ⟨_ | _, made⟩
  · simp
  · cases hwrite : made.write p.text bytes with
    | error fault => simp [hwrite]
    | ok written => simp [hwrite]

/-- **What is stored is read,** and can be stored again. -/
theorem store_spec {p : Path} (h : t.store p bytes = (.ok (), after)) :
    after.read p.text = .ok bytes ∧ ∃ again, after.store p bytes = (.ok (), again) := by
  obtain ⟨made, hdirs, hwrite⟩ := store_eq_ok.mp h
  obtain ⟨hread, hkept⟩ := write_spec hwrite
  obtain ⟨again, hagain⟩ := exists_write_of_read hread bytes
  have hparent : after.isDir p.parent.text := hkept _ (makeDirs_spec hdirs)
  exact ⟨hread, again, store_eq_ok.mpr ⟨after, makeDirs_of_isDir hparent, hagain⟩⟩

end FileTree

end MonkeyScan
