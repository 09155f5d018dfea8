import MonkeyScan.Proofs.File.Canonical
import MonkeyScan.Proofs.File.Frame

/-!
# Paths that lead down

A path none of whose components leads up has a place that can be told without looking at the files:
its components behind the place where it starts. Its text leads there if the place lies in a
directory; otherwise it leads into the first file on the way, or to where nothing is. So a file can
be stored at such a path unless a directory stands there or a file stands on the way, and then
nothing at all is changed.
-/
namespace MonkeyScan

/-- A path by which the files can be asked, and none of whose components leads up. -/
structure Path.Descends (p : Path) : Prop where
  canonical : p.Canonical
  down : ".." ∉ p.parts
  nullCharacter : '\x00' ∉ p.text.toList
  text_le : p.text.utf8ByteSize ≤ FileTree.longestText
  name_le : ∀ part ∈ p.parts, part.utf8ByteSize ≤ FileTree.longestName

namespace Path
variable {p : Path}

theorem size_intercalate_dropLast_le (parts : List String) :
    ("/".intercalate parts.dropLast).utf8ByteSize ≤ ("/".intercalate parts).utf8ByteSize := by
  induction parts with
  | nil => exact Nat.le_refl _
  | cons first more ih =>
    cases more with
    | nil => simp
    | cons next more =>
      cases more with
      | nil =>
        simp only [List.dropLast, String.intercalate_cons_cons, String.utf8ByteSize_append,
          String.intercalate_singleton]
        omega
      | cons _ _ =>
        simp only [List.dropLast, String.intercalate_cons_cons, String.utf8ByteSize_append] at ih ⊢
        omega

theorem Descends.parent (h : p.Descends) : p.parent.Descends where
  canonical := h.canonical.parent
  down hup := h.down (mem_parts_of_parent hup)
  nullCharacter hnull := h.nullCharacter (nullCharacter_mem_of_parent hnull)
  text_le := by
    have hle := size_intercalate_dropLast_le p.parts
    have htext := h.text_le
    unfold text at htext ⊢
    by_cases hempty : p.parent.anchor = .relative ∧ p.parent.parts = []
    · rw [if_pos hempty]
      decide
    · have hfull : ¬ (p.anchor = .relative ∧ p.parts = []) := by
        rintro ⟨hanchor, hparts⟩
        exact hempty ⟨hanchor, by simp [Path.parent, hparts]⟩
      rw [if_neg hfull, String.utf8ByteSize_append] at htext
      rw [if_neg hempty, String.utf8ByteSize_append]
      simp only [Path.parent]
      omega
  name_le part hpart := h.name_le part (mem_parts_of_parent hpart)

end Path

namespace FileTree
variable {t made after : FileTree} {p : Path} {start place front outer names : List String}
  {bytes : List UInt8}

/-- Where a path starts. -/
def startOf (t : FileTree) (p : Path) : List String :=
  if p.anchor = .relative then t.current else []

/-- The place of a path none of whose components leads up. -/
def placeOf (t : FileTree) (p : Path) : List String :=
  t.startOf p ++ p.parts

/-! ## Where the text leads -/

/-- Components that lead nowhere are passed over. -/
theorem follow_blanks (hstart : t.root.HasDir start) {blanks : List String}
    (h : ∀ b ∈ blanks, b = "" ∨ b = ".") (more : List String) :
    t.follow start (blanks ++ more) = t.follow start more := by
  obtain ⟨entries, hget⟩ := hstart
  induction blanks with
  | nil => rfl
  | cons b blanks ih =>
    obtain ⟨hb, hmore⟩ := List.forall_mem_cons.mp h
    have hstay : enter start b = start := if_pos hb
    have hsize : b.utf8ByteSize ≤ longestName := by
      rcases hb with rfl | rfl <;> decide
    rw [List.cons_append, follow, hget]
    simp only [if_neg (Nat.not_lt.mpr hsize), hstay, ih hmore]

/-- A component that leads to an entry of the directory it starts from. -/
structure IsName (name : String) : Prop where
  part : Path.isPart name.toList
  down : name ≠ ".."
  size_le : name.utf8ByteSize ≤ longestName

theorem isName_of_descends (h : p.Descends) : ∀ name ∈ p.parts, IsName name :=
  fun name hname => ⟨(h.canonical name hname).1, fun hup => h.down (hup ▸ hname),
    h.name_le name hname⟩

theorem IsName.enter {name : String} (h : IsName name) (place : List String) :
    enter place name = place ++ [name] := by
  have hpart := Path.isPart_iff.mp h.part
  have hblank : ¬ (name = "" ∨ name = ".") := by
    rintro (rfl | rfl)
    · exact hpart.1 rfl
    · exact hpart.2 rfl
  rw [FileTree.enter, if_neg hblank, if_neg h.down]

theorem follow_name {name : String} (h : IsName name) (hstart : t.root.HasDir start)
    (more : List String) : t.follow start (name :: more) = t.follow (start ++ [name]) more := by
  obtain ⟨entries, hget⟩ := hstart
  rw [follow, hget]
  simp only [if_neg (Nat.not_lt.mpr h.size_le), h.enter]

/-- Names lead through directories, the last of them also to what is none. -/
theorem follow_names (hnames : ∀ name ∈ front, IsName name)
    (hdir : front ≠ [] → t.root.HasDir (start ++ front.dropLast)) (more : List String) :
    t.follow start (front ++ more) = t.follow (start ++ front) more := by
  induction front generalizing start with
  | nil => simp
  | cons name front ih =>
    obtain ⟨hname, hfront⟩ := List.forall_mem_cons.mp hnames
    have hstart : t.root.HasDir start := (hdir (List.cons_ne_nil _ _)).of_append
    have hinner : front ≠ [] → t.root.HasDir (start ++ [name] ++ front.dropLast) := by
      intro hne
      simpa [List.dropLast_cons_of_ne_nil hne] using hdir (List.cons_ne_nil _ _)
    rw [List.cons_append, follow_name hname hstart, ih hfront hinner, List.append_assoc,
      List.singleton_append]

theorem follow_of_file (h : t.root.standing? start = some (.file bytes)) (name : String)
    (more : List String) : t.follow start (name :: more) = .error .notDirectory := by
  rw [follow, Node.standing?_eq_file_iff.mp h]

theorem follow_of_none (h : t.root.standing? start = none) (name : String) (more : List String) :
    t.follow start (name :: more) = .error .noEntry := by
  rw [follow, Node.standing?_eq_none_iff.mp h]

theorem hasDir_startOf (hcurrent : t.root.HasDir t.current) (p : Path) :
    t.root.HasDir (t.startOf p) := by
  unfold startOf
  split
  · exact hcurrent
  · exact hcurrent.of_append (p := [])

/-- The text of the path leads as its components do. -/
theorem locate_text (hp : p.Descends) (hcurrent : t.root.HasDir t.current) :
    t.locate p.text = t.follow (t.startOf p) p.parts := by
  obtain ⟨blanks, hblanks, hcomponents⟩ := hp.canonical.components_text
  have hstart : (if p.text.toList.head? = some '/' then [] else t.current) = t.startOf p := by
    simp only [startOf, hp.canonical.head?_text]
    by_cases hanchor : p.anchor = .relative <;> simp [hanchor]
  unfold locate
  rw [if_neg hp.nullCharacter, if_neg hp.canonical.text_ne_empty,
    if_neg (Nat.not_lt.mpr hp.text_le), hstart]
  rw [components] at hcomponents
  rw [hcomponents, follow_blanks (hasDir_startOf hcurrent p) hblanks]

theorem placeOf_parent (t : FileTree) (p : Path) :
    t.placeOf p.parent = t.startOf p ++ p.parts.dropLast := rfl

theorem placeOf_eq_concat (t : FileTree) (hne : p.parts ≠ []) :
    ∃ last, t.placeOf p = t.placeOf p.parent ++ [last] := by
  refine ⟨p.parts.getLast hne, ?_⟩
  rw [placeOf_parent, List.append_assoc, List.dropLast_concat_getLast hne]
  rfl

/-- A place in a directory is where the text leads. -/
theorem locate_of_parent (hp : p.Descends) (hcurrent : t.root.HasDir t.current)
    (hparent : t.root.HasDir (t.placeOf p.parent)) : t.locate p.text = .ok (t.placeOf p) := by
  have hfollow : t.follow (t.startOf p) (p.parts ++ []) = t.follow (t.placeOf p) [] :=
    follow_names (isName_of_descends hp) (fun _ => hparent) []
  rw [List.append_nil] at hfollow
  rw [locate_text hp hcurrent, hfollow]
  rfl

/-- No text leads through a file. -/
theorem locate_of_file (hp : p.Descends) (hcurrent : t.root.HasDir t.current)
    (houter : outer <+: t.placeOf p) (hne : outer ≠ t.placeOf p)
    (hfile : t.root.standing? outer = some (.file bytes)) :
    t.locate p.text = .error .notDirectory := by
  have hstart := hasDir_startOf hcurrent p
  have hnotDir : ¬ t.root.HasDir outer := by
    rw [← Node.standing?_eq_dir_iff, hfile]
    simp
  -- The file lies behind the start, so it is reached by some of the components.
  obtain ⟨front, rfl⟩ : ∃ front, outer = t.startOf p ++ front := by
    rcases List.prefix_or_prefix_of_prefix houter (List.prefix_append (t.startOf p) p.parts) with
      ⟨more, hmore⟩ | ⟨front, hfront⟩
    · exact absurd (hmore ▸ hstart).of_append hnotDir
    · exact ⟨front, hfront.symm⟩
  obtain ⟨back, hback⟩ := (List.prefix_append_right_inj _).mp houter
  cases back with
  | nil => exact absurd (by rw [placeOf, ← hback, List.append_nil]) hne
  | cons name back =>
    have hnames := isName_of_descends hp
    rw [← hback] at hnames
    have hdir : front ≠ [] → t.root.HasDir (t.startOf p ++ front.dropLast) := by
      intro hfront
      rw [← List.dropLast_concat_getLast hfront, ← List.append_assoc] at hfile
      exact .of_standing? hfile
    rw [locate_text hp hcurrent, ← hback,
      follow_names (fun name hname => hnames name (List.mem_append_left _ hname)) hdir,
      follow_of_file hfile]

/-- No file stands at a place or on the way to it. -/
def Clear (t : FileTree) (place : List String) : Prop :=
  ∀ outer, outer <+: place → ∀ bytes, t.root.standing? outer ≠ some (.file bytes)

theorem Clear.of_prefix (h : t.Clear place) (houter : outer <+: place) : t.Clear outer :=
  fun inner hinner => h inner (hinner.trans houter)

/-- On a clear way a place is a directory or empty. -/
theorem Clear.standing? (h : t.Clear place) :
    t.root.standing? place = some .dir ∨ t.root.standing? place = none := by
  cases hentry : t.root.standing? place with
  | none => exact Or.inr rfl
  | some e =>
    cases e with
    | dir => exact Or.inl rfl
    | file bytes => exact absurd hentry (h place (List.prefix_refl _) bytes)

theorem follow_of_clear (hnames : ∀ name ∈ names, IsName name) (hstart : t.root.HasDir start)
    (hclear : t.Clear (start ++ names)) (hmissing : ¬ t.root.HasDir (start ++ names))
    (last : String) : t.follow start (names ++ [last]) = .error .noEntry := by
  induction names generalizing start with
  | nil => exact absurd (by simpa using hstart) hmissing
  | cons name names ih =>
    obtain ⟨hname, hmore⟩ := List.forall_mem_cons.mp hnames
    have hsplit : start ++ name :: names = start ++ [name] ++ names := by simp
    rw [hsplit] at hclear hmissing
    rw [List.cons_append, follow_name hname hstart]
    rcases (hclear.of_prefix (List.prefix_append _ _)).standing? with hdir | hnone
    · exact ih hmore (Node.standing?_eq_dir_iff.mp hdir) hclear hmissing
    · cases names with
      | nil => exact follow_of_none hnone last []
      | cons next names => exact follow_of_none hnone next _

/-- On a clear way to where no directory is, something is missing. -/
theorem locate_of_clear (hp : p.Descends) (hcurrent : t.root.HasDir t.current)
    (hclear : t.Clear (t.placeOf p.parent)) (hmissing : ¬ t.root.HasDir (t.placeOf p.parent)) :
    t.locate p.text = .error .noEntry := by
  have hne : p.parts ≠ [] := by
    intro hnil
    rw [placeOf_parent, hnil, List.dropLast_nil, List.append_nil] at hmissing
    exact hmissing (hasDir_startOf hcurrent p)
  rw [locate_text hp hcurrent, ← List.dropLast_concat_getLast hne]
  exact follow_of_clear (isName_of_descends hp.parent) (hasDir_startOf hcurrent p) hclear hmissing _

/-! ## Making directories on the way -/

theorem hasDir_placeOf_parent (hcurrent : t.root.HasDir t.current)
    (hdir : t.root.HasDir (t.placeOf p)) : t.root.HasDir (t.placeOf p.parent) := by
  rw [placeOf_parent]
  by_cases hnil : p.parts = []
  · rw [hnil, List.dropLast_nil, List.append_nil]
    exact hasDir_startOf hcurrent p
  · have hdrop := hdir.dropLast
    rwa [placeOf, List.dropLast_append_of_ne_nil hnil] at hdrop

theorem isDir_of_hasDir (hp : p.Descends) (hcurrent : t.root.HasDir t.current)
    (hdir : t.root.HasDir (t.placeOf p)) : t.isDir p.text :=
  isDir_iff.mpr ⟨_, locate_of_parent hp hcurrent (hasDir_placeOf_parent hcurrent hdir), hdir⟩

/-- A file in the place of a directory is named as such. -/
theorem makeDirs_of_file (hp : p.Descends) (hcurrent : t.root.HasDir t.current)
    (hfile : t.root.standing? (t.placeOf p) = some (.file bytes)) :
    t.makeDirs p = (.error ⟨.exists, p.text⟩, t) := by
  have hne : p.parts ≠ [] := by
    intro hnil
    have hstart := Node.standing?_eq_dir_iff.mpr (hasDir_startOf hcurrent p)
    rw [placeOf, hnil, List.append_nil, hstart] at hfile
    cases hfile
  have hparent : t.root.HasDir (t.placeOf p.parent) := by
    obtain ⟨last, hlast⟩ := t.placeOf_eq_concat hne
    rw [hlast] at hfile
    exact .of_standing? hfile
  have hloc := locate_of_parent hp hcurrent hparent
  have hget := Node.standing?_eq_file_iff.mp hfile
  have hmake : t.makeDir p.text = .error .exists := by
    simp [makeDir, hloc, hget, bind, Except.bind, throw, throwThe, MonadExceptOf.throw]
  have hnotDir : t.isDir p.text = false := by
    have hnode : t.node p.text = .ok (.file bytes) := node_eq_ok.mpr ⟨_, hloc, hget⟩
    rw [isDir, hnode]
  rw [makeDirs, ensureDir, hmake]
  simp [hnotDir]

/-- A file on the way to a directory is found before anything is made. -/
theorem makeDirs_of_file_above (hp : p.Descends) (hcurrent : t.root.HasDir t.current)
    (houter : outer <+: t.placeOf p) (hne : outer ≠ t.placeOf p)
    (hfile : t.root.standing? outer = some (.file bytes)) :
    t.makeDirs p = (.error ⟨.notDirectory, p.text⟩, t) := by
  have hloc := locate_of_file hp hcurrent houter hne hfile
  have hmake : t.makeDir p.text = .error .notDirectory := by
    simp [makeDir, hloc, bind, Except.bind]
  have hnotDir : t.isDir p.text = false := by
    simp [isDir, node, hloc, bind, Except.bind]
  rw [makeDirs, ensureDir, hmake]
  simp [hnotDir]

/-- The way to a place is open: there are directories all along, and nothing else has changed. -/
structure Opens (t made : FileTree) (place : List String) : Prop where
  current : made.current = t.current
  entry : ∀ q, made.root.standing? q = if q <+: place then some .dir else t.root.standing? q

theorem Opens.hasDir (h : t.Opens made place) (houter : outer <+: place) : made.root.HasDir outer := by
  rw [← Node.standing?_eq_dir_iff, h.entry, if_pos houter]

theorem opens_of_hasDir (h : t.root.HasDir place) : t.Opens t place := by
  refine ⟨rfl, fun q => ?_⟩
  by_cases hq : q <+: place
  · obtain ⟨more, rfl⟩ := hq
    rw [if_pos (List.prefix_append q more), Node.standing?_eq_dir_iff]
    exact h.of_append
  · rw [if_neg hq]

theorem parts_ne_nil_of_not_hasDir (hcurrent : t.root.HasDir t.current)
    (hdir : ¬ t.root.HasDir (t.placeOf p)) : p.parts ≠ [] := by
  intro hnil
  rw [placeOf, hnil, List.append_nil] at hdir
  exact hdir (hasDir_startOf hcurrent p)

/-- Where the way to the parent is open, the text of a path leads to its place. -/
theorem Opens.locate (hp : p.Descends) (hcurrent : t.root.HasDir t.current)
    (h : t.Opens made (t.placeOf p.parent)) : made.locate p.text = .ok (t.placeOf p) := by
  have hplace : ∀ p', made.placeOf p' = t.placeOf p' := by
    intro p'
    simp only [placeOf, startOf, h.current]
  have hcurrent' : made.root.HasDir made.current := by
    rw [h.current, ← Node.standing?_eq_dir_iff, h.entry]
    split
    · rfl
    · exact Node.standing?_eq_dir_iff.mpr hcurrent
  have hparent : made.root.HasDir (made.placeOf p.parent) := by
    rw [hplace]
    exact h.hasDir (List.prefix_refl _)
  rw [locate_of_parent hp hcurrent' hparent, hplace]

/-- The place itself is left as it was. -/
theorem Opens.standing?_placeOf (h : t.Opens made (t.placeOf p.parent)) (hne : p.parts ≠ []) :
    made.root.standing? (t.placeOf p) = t.root.standing? (t.placeOf p) := by
  obtain ⟨last, hlast⟩ := t.placeOf_eq_concat hne
  have hlong : ¬ t.placeOf p <+: t.placeOf p.parent := by
    intro hprefix
    have hle := hprefix.length_le
    rw [hlast, List.length_append, List.length_singleton] at hle
    omega
  rw [h.entry, if_neg hlong]

/-- Where the way to its parent is open, a missing directory is made. -/
theorem ensureDir_of_opens (hp : p.Descends) (hcurrent : t.root.HasDir t.current)
    (hopen : t.Opens made (t.placeOf p.parent)) (hnone : t.root.standing? (t.placeOf p) = none) :
    ∃ after, made.ensureDir p.text = .ok after ∧ t.Opens after (t.placeOf p) := by
  have hnotDir : ¬ t.root.HasDir (t.placeOf p) := by
    rw [← Node.standing?_eq_dir_iff, hnone]
    simp
  have hne := parts_ne_nil_of_not_hasDir hcurrent hnotDir
  have hloc := hopen.locate hp hcurrent
  have hmissing : made.root.standing? (t.placeOf p) = none := (hopen.standing?_placeOf hne).trans hnone
  have hmake : made.makeDir p.text = .ok (made.placing (t.placeOf p) (.dir [])) :=
    makeDir_eq_ok.mpr ⟨_, hloc, Node.standing?_eq_none_iff.mp hmissing, rfl⟩
  obtain ⟨place, hloc', -, hkept, hentry⟩ := makeDir_standing? hmake
  obtain rfl : t.placeOf p = place := Except.ok.inj (hloc.symm.trans hloc')
  refine ⟨_, by rw [ensureDir, hmake], hkept.trans hopen.current, fun q => ?_⟩
  obtain ⟨last, hlast⟩ := t.placeOf_eq_concat hne
  have hbelow : q <+: t.placeOf p ↔ q = t.placeOf p ∨ q <+: t.placeOf p.parent := by
    rw [hlast, List.prefix_concat_iff]
  rw [hentry, hopen.entry]
  by_cases hq : q = t.placeOf p <;> simp [hbelow, hq]

/-- On a clear way every directory is made that is missing, and nothing else. -/
theorem makeDirs_of_clear (hp : p.Descends) (hcurrent : t.root.HasDir t.current)
    (hclear : t.Clear (t.placeOf p)) :
    ∃ made, t.makeDirs p = (.ok (), made) ∧ t.Opens made (t.placeOf p) := by
  induction hn : p.parts.length using Nat.strongRecOn generalizing p with
  | _ n ih =>
    by_cases hdir : t.root.HasDir (t.placeOf p)
    · exact ⟨t, makeDirs_of_isDir (isDir_of_hasDir hp hcurrent hdir), opens_of_hasDir hdir⟩
    have hnone : t.root.standing? (t.placeOf p) = none :=
      hclear.standing?.resolve_left fun h => hdir (Node.standing?_eq_dir_iff.mp h)
    have hne := parts_ne_nil_of_not_hasDir hcurrent hdir
    obtain ⟨last, hlast⟩ := t.placeOf_eq_concat hne
    by_cases hparent : t.root.HasDir (t.placeOf p.parent)
    · -- Only the last directory is missing.
      obtain ⟨made, hensure, hopen⟩ :=
        ensureDir_of_opens hp hcurrent (opens_of_hasDir hparent) hnone
      exact ⟨made, by rw [makeDirs, hensure], hopen⟩
    · -- The first attempt finds something missing, and the outer directories are made.
      have hclear' : t.Clear (t.placeOf p.parent) :=
        hclear.of_prefix (hlast ▸ List.prefix_append _ _)
      have hlt : p.parent.parts.length < n := by
        have hpos := List.length_pos_iff.mpr hne
        simp only [Path.parent, List.length_dropLast]
        omega
      obtain ⟨outer, houter, hopen⟩ := ih _ hlt hp.parent hclear' rfl
      obtain ⟨made, hensure, hopen'⟩ := ensureDir_of_opens hp hcurrent hopen hnone
      have hfirst : t.ensureDir p.text = .error ⟨.noEntry, p.text⟩ := by
        have hloc := locate_of_clear hp hcurrent hclear' hparent
        simp [ensureDir, makeDir, hloc, bind, Except.bind]
      refine ⟨made, ?_, hopen'⟩
      rw [makeDirs, hfirst]
      simp only [hne, ne_eq, not_false_eq_true, and_self, if_true, houter, hensure]

/-! ## Storing -/

/-- What keeps a file from being stored, and the fault that tells of it. -/
inductive Obstacle (t : FileTree) (p : Path) : SystemFault → Prop
  | directory (h : t.root.HasDir (t.placeOf p)) : Obstacle t p ⟨.isDirectory, p.text⟩
  | parent {bytes : List UInt8} (h : t.root.standing? (t.placeOf p.parent) = some (.file bytes)) :
    Obstacle t p ⟨.exists, p.parent.text⟩
  | above {outer : List String} {bytes : List UInt8} (houter : outer <+: t.placeOf p.parent)
    (hne : outer ≠ t.placeOf p.parent) (h : t.root.standing? outer = some (.file bytes)) :
    Obstacle t p ⟨.notDirectory, p.parent.text⟩

/-- An obstacle is met before anything is changed. -/
theorem store_of_obstacle {fault : SystemFault} (hp : p.Descends)
    (hcurrent : t.root.HasDir t.current) (h : t.Obstacle p fault) (bytes : List UInt8) :
    t.store p bytes = (.error fault, t) := by
  cases h with
  | directory hdir =>
    have hparent := hasDir_placeOf_parent hcurrent hdir
    have hdirs := makeDirs_of_isDir (isDir_of_hasDir hp.parent hcurrent hparent)
    have hloc := locate_of_parent hp hcurrent hparent
    obtain ⟨entries, hget⟩ := hdir
    have hwrite : t.write p.text bytes = .error .isDirectory := by
      simp [write, hloc, hget, bind, Except.bind, throw, throwThe, MonadExceptOf.throw]
    simp only [store, hdirs, hwrite]
  | parent hfile => simp only [store, makeDirs_of_file hp.parent hcurrent hfile]
  | above houter hne hfile =>
    simp only [store, makeDirs_of_file_above hp.parent hcurrent houter hne hfile]

/-- Without an obstacle the file is stored, behind directories all along its way. -/
theorem store_of_no_obstacle (hp : p.Descends) (hcurrent : t.root.HasDir t.current)
    (h : ∀ fault, ¬ t.Obstacle p fault) (bytes : List UInt8) :
    ∃ after, t.store p bytes = (.ok (), after) ∧
      ∀ outer, outer <+: t.placeOf p.parent → after.root.HasDir outer := by
  have hclear : t.Clear (t.placeOf p.parent) := by
    intro outer houter bytes hfile
    by_cases hparent : outer = t.placeOf p.parent
    · exact h _ (.parent (hparent ▸ hfile))
    · exact h _ (.above houter hparent hfile)
  have hnotDir : ¬ t.root.HasDir (t.placeOf p) := fun hdir => h _ (.directory hdir)
  have hne := parts_ne_nil_of_not_hasDir hcurrent hnotDir
  obtain ⟨made, hdirs, hopen⟩ := makeDirs_of_clear hp.parent hcurrent hclear
  have hmade : ¬ made.root.HasDir (t.placeOf p) := by
    rwa [← Node.standing?_eq_dir_iff, hopen.standing?_placeOf hne, Node.standing?_eq_dir_iff]
  have hwrite : made.write p.text bytes = .ok (made.placing (t.placeOf p) (.file bytes)) :=
    write_eq_ok.mpr ⟨_, hopen.locate hp hcurrent, hmade, rfl⟩
  refine ⟨_, store_eq_ok.mpr ⟨made, hdirs, hwrite⟩, fun outer houter => ?_⟩
  exact (hopen.hasDir houter).put hmade _

/-- **A file is stored unless there is an obstacle.** The fault is that of the obstacle, and then
nothing has changed; otherwise there are directories all along the way. -/
theorem store_of_descends {result : Except SystemFault Unit} (hp : p.Descends)
    (hcurrent : t.root.HasDir t.current) (h : t.store p bytes = (result, after)) :
    (∀ fault, result = .error fault ↔ t.Obstacle p fault) ∧ (result ≠ .ok () → after = t) ∧
      (result = .ok () → ∀ outer, outer <+: t.placeOf p.parent → after.root.HasDir outer) := by
  by_cases hobstacle : ∃ met, t.Obstacle p met
  · obtain ⟨met, hmet⟩ := hobstacle
    rw [store_of_obstacle hp hcurrent hmet] at h
    obtain ⟨rfl, rfl⟩ := Prod.mk.inj h
    refine ⟨fun fault => ⟨fun hfault => ?_, fun hfault => ?_⟩, fun _ => rfl, fun hok => ?_⟩
    · exact Except.error.inj hfault ▸ hmet
    · -- Both obstacles are those of the one attempt to store.
      have hboth := (store_of_obstacle hp hcurrent hmet bytes).symm.trans
        (store_of_obstacle hp hcurrent hfault bytes)
      exact (Prod.mk.inj hboth).1
    · cases hok
  · have hnone : ∀ fault, ¬ t.Obstacle p fault := fun fault hfault => hobstacle ⟨fault, hfault⟩
    obtain ⟨stored, hok, hway⟩ := store_of_no_obstacle hp hcurrent hnone bytes
    rw [hok] at h
    obtain ⟨rfl, rfl⟩ := Prod.mk.inj h
    refine ⟨fun fault => ⟨fun hfault => ?_, fun hfault => absurd hfault (hnone fault)⟩,
      fun hfailed => absurd rfl hfailed, fun _ => hway⟩
    cases hfault

end FileTree

end MonkeyScan
