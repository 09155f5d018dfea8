import MonkeyScan.Proofs.File.Canonical
import Mathlib.Data.List.DropRight

/-!
# Where the settings are kept

The path of the settings file is canonical: it depends on the text that names it through the class of
its leading slashes and the components that take part, with the home directory in place of a tilde.
Its own text names it again, whatever the home directory is then.
-/
namespace MonkeyScan

/-! ## What a text names -/

/-- How many slashes a text starts with. -/
def leadingSlashes (text : String) : Nat :=
  (text.toList.takeWhile (· = '/')).length

/-- Two texts that both start with no slash, or both with exactly two, or both otherwise. -/
def SameLead (text text' : String) : Prop :=
  (leadingSlashes text = 0 ↔ leadingSlashes text' = 0) ∧
    (leadingSlashes text = 2 ↔ leadingSlashes text' = 2)

/-- The components of a text that are not empty and no single dot. -/
def namedParts (text : String) : List String :=
  ((text.toList.splitOn '/').filter fun part => part ≠ [] && part ≠ ['.']).map String.ofList

theorem splitSlashes_eq_splitOn (s : List Char) : splitSlashes s = s.splitOn '/' := by
  induction s with
  | nil => rfl
  | cons c s ih =>
    obtain ⟨first, more, hsplit⟩ := List.exists_cons_of_ne_nil (List.splitOn_ne_nil '/' s)
    rw [splitSlashes, ih, hsplit]
    rw [List.splitOn] at hsplit ⊢
    rw [List.splitOnP_cons_eq_if_modifyHead, hsplit]
    by_cases hc : c = '/'
    · rw [if_pos hc, if_pos (beq_iff_eq.mpr hc)]
    · rw [if_neg hc, if_neg (fun h => hc (beq_iff_eq.mp h)), List.modifyHead_cons]

namespace Anchor

theorem ofText_eq (text : String) : ofText text.toList =
    if leadingSlashes text = 0 then relative
    else if leadingSlashes text = 2 then doubleRoot else root := by
  unfold ofText leadingSlashes
  split
  · rename_i h
    rw [if_pos h]
  · rename_i h
    rw [if_neg (by omega), if_pos h]
  · rename_i hzero htwo
    rw [if_neg hzero, if_neg htwo]

/-- A text is relative exactly if it starts with no slash. -/
theorem ofText_eq_relative_iff {s : List Char} : ofText s = relative ↔ s.head? ≠ some '/' := by
  cases s with
  | nil => decide
  | cons c s =>
    by_cases hc : c = '/'
    · rw [hc, ofText, List.takeWhile_cons_of_pos (by decide), List.length_cons]
      split
      · omega
      · simp
      · simp
    · rw [ofText, List.takeWhile_cons_of_neg (by simpa using hc)]
      simp [hc]

theorem ofText_congr {text text' : String} (h : SameLead text text') :
    ofText text.toList = ofText text'.toList := by
  rw [ofText_eq, ofText_eq]
  simp only [h.1, h.2]

end Anchor

namespace Path
variable {p : Path} {home : String}

theorem ofText_eq (text : String) : ofText text = ⟨.ofText text.toList, namedParts text⟩ := by
  rw [ofText, namedParts, splitSlashes_eq_splitOn]
  rfl

/-! ## The text of a canonical path -/

theorem head?_intercalate_ne {parts : List String}
    (h : ∀ part ∈ parts, isPart part.toList ∧ '/' ∉ part.toList) :
    ("/".intercalate parts).toList.head? ≠ some '/' := by
  cases parts with
  | nil => simp
  | cons first more =>
    have hcanonical : Canonical ⟨.relative, first :: more⟩ := h
    have htext : text ⟨.relative, first :: more⟩ = "/".intercalate (first :: more) := by
      simp [text, Anchor.text]
    rw [← htext]
    exact fun hhead => hcanonical.head?_text.mp hhead rfl

theorem takeWhile_slash_of_head? {s : List Char} (h : s.head? ≠ some '/') :
    s.takeWhile (· = '/') = [] := by
  cases s with
  | nil => rfl
  | cons c s =>
    have hc : c ≠ '/' := fun hc => h (congrArg some hc)
    simp [hc]

theorem Canonical.anchor_ofText_text (h : p.Canonical) : Anchor.ofText p.text.toList = p.anchor := by
  rcases p with ⟨anchor, parts⟩
  have hinner := takeWhile_slash_of_head? (head?_intercalate_ne h)
  cases anchor with
  | relative =>
    have hhead := h.head?_text.not.mpr (fun hne => hne rfl)
    rw [Anchor.ofText, takeWhile_slash_of_head? hhead]
    rfl
  | root =>
    have htext : (text ⟨.root, parts⟩).toList = '/' :: ("/".intercalate parts).toList := by
      simp [text, Anchor.text]
    rw [Anchor.ofText, htext, List.takeWhile_cons_of_pos (by decide), hinner]
    rfl
  | doubleRoot =>
    have htext : (text ⟨.doubleRoot, parts⟩).toList =
        '/' :: '/' :: ("/".intercalate parts).toList := by
      simp [text, Anchor.text]
    rw [Anchor.ofText, htext, List.takeWhile_cons_of_pos (by decide),
      List.takeWhile_cons_of_pos (by decide), hinner]
    rfl

theorem Canonical.parts_ofText_text (h : p.Canonical) : (ofText p.text).parts = p.parts := by
  obtain ⟨blanks, hblanks, hcomponents⟩ := h.components_text
  have hparts : (ofText p.text).parts = (components p.text).filter fun part => isPart part.toList := by
    simp [ofText, components, List.filter_map, Function.comp_def]
  have hnone : (blanks.filter fun part => isPart part.toList) = [] := by
    rw [List.filter_eq_nil_iff]
    intro part hpart
    rcases hblanks part hpart with rfl | rfl <;> decide
  have hall : (p.parts.filter fun part => isPart part.toList) = p.parts :=
    List.filter_eq_self.mpr fun part hpart => (h part hpart).1
  rw [hparts, hcomponents, List.filter_append, hnone, hall, List.nil_append]

/-- **A canonical path is read back from its text.** -/
theorem Canonical.ofText_text (h : p.Canonical) : ofText p.text = p := by
  have hpath : ofText p.text = ⟨(ofText p.text).anchor, (ofText p.text).parts⟩ := rfl
  rw [hpath, h.parts_ofText_text]
  exact congrArg (Path.mk · p.parts) h.anchor_ofText_text

/-! ## The home directory -/

/-- The directory of a home that starts with a slash, less the slashes at its end. -/
def homeDir (home : String) : Path :=
  let kept := home.toList.rdropWhile (· = '/')
  if kept = [] then ⟨.root, []⟩ else ofText (String.ofList kept)

/-- What is left of a home without the slashes at its end starts with a slash, if anything is. -/
theorem head?_rdropWhile {s : List Char} (h : s.head? = some '/')
    (hne : s.rdropWhile (· = '/') ≠ []) : (s.rdropWhile (· = '/')).head? = some '/' := by
  obtain ⟨slashes, hsplit⟩ := List.rdropWhile_prefix (p := fun c => decide (c = '/')) s
  rw [← hsplit, List.head?_append_of_ne_nil _ hne] at h
  exact h

theorem ofHome_def (home : String) : ofHome home =
    match home.toList.rdropWhile (· = '/') with
    | [] => .ok ⟨.root, []⟩
    | '~' :: _ => .error .noHome
    | kept => .ok (.ofText (String.ofList kept)) := rfl

theorem ofHome_eq (h : home.toList.head? = some '/') : ofHome home = .ok (homeDir home) := by
  have hhead := head?_rdropWhile h
  rw [ofHome_def, homeDir]
  split
  · rename_i hnil
    rw [if_pos hnil]
  · rename_i more hmore
    rw [hmore] at hhead
    exact absurd (hhead (List.cons_ne_nil _ _)) (by simp)
  · rename_i hnil _
    rw [if_neg hnil]

theorem anchor_homeDir (h : home.toList.head? = some '/') : (homeDir home).anchor ≠ .relative := by
  unfold homeDir
  simp only
  split
  · decide
  · rename_i hne
    rw [ofText, String.toList_ofList]
    exact fun hrelative => Anchor.ofText_eq_relative_iff.mp hrelative (head?_rdropWhile h hne)

theorem canonical_homeDir (home : String) : (homeDir home).Canonical := by
  unfold homeDir
  simp only
  split
  · exact List.forall_mem_nil _
  · exact canonical_ofText _

/-! ## Tildes -/

/-- A text whose first component asks for the home of someone by name. -/
def AsksForUser (text : String) : Prop :=
  ∃ first more, ofText text = ⟨.relative, first :: more⟩ ∧ first.toList.head? = some '~' ∧
    first ≠ "~"

/-- The path with the home directory in place of a first tilde. -/
def underHome (home : String) : Path → Path
  | ⟨.relative, "~" :: more⟩ => (homeDir home).append more
  | p => p

/-- A path that stands for no home directory. -/
def Settled (p : Path) : Prop :=
  p.anchor = .relative → p.parts.head?.bind (·.toList.head?) ≠ some '~'

theorem tilde_or_settled {text : String} (huser : ¬ AsksForUser text) :
    (∃ more, ofText text = ⟨.relative, "~" :: more⟩) ∨ (ofText text).Settled := by
  generalize hpath : ofText text = p
  rcases p with ⟨anchor, parts⟩
  by_cases htilde : anchor = .relative ∧ parts.head? = some "~"
  · obtain ⟨rfl, hparts⟩ := htilde
    obtain ⟨more, rfl⟩ : ∃ more, parts = "~" :: more := List.head?_eq_some_iff.mp hparts
    exact Or.inl ⟨more, rfl⟩
  · right
    rintro rfl hhead
    cases parts with
    | nil => simp at hhead
    | cons first more =>
      have hne : first ≠ "~" := fun heq => htilde ⟨rfl, congrArg some heq⟩
      exact huser ⟨first, more, hpath, hhead, hne⟩

theorem underHome_of_settled (h : p.Settled) (home : String) : p.underHome home = p := by
  rw [underHome]
  rintro more rfl
  exact h rfl rfl

theorem expandHome_of_settled (h : p.Settled) (home : String) : p.expandHome home = .ok p := by
  rcases p with ⟨anchor, _ | ⟨first, more⟩⟩
  · cases anchor <;> rfl
  · cases anchor with
    | root => rfl
    | doubleRoot => rfl
    | relative =>
      have hfirst : first.toList.head? ≠ some '~' := h rfl
      have hne : first ≠ "~" := by
        rintro rfl
        exact hfirst rfl
      rw [expandHome]
      simp only [hne, hfirst, if_false]

theorem expandHome_ofText {text : String} (hhome : home.toList.head? = some '/')
    (huser : ¬ AsksForUser text) :
    (ofText text).expandHome home = .ok ((ofText text).underHome home) := by
  rcases tilde_or_settled huser with ⟨more, hpath⟩ | hsettled
  · rw [hpath, expandHome]
    simp only [if_true, ofHome_eq hhome]
    rfl
  · rw [expandHome_of_settled hsettled, underHome_of_settled hsettled]

/-! ## What stays of a path -/

theorem mem_of_mem_splitSlashes {c : Char} {s part : List Char} (h : part ∈ splitSlashes s)
    (hc : c ∈ part) : c ∈ s := by
  induction s generalizing part with
  | nil =>
    rw [splitSlashes, List.mem_singleton] at h
    rwa [h] at hc
  | cons d s ih =>
    rw [splitSlashes] at h
    by_cases hd : d = '/'
    · rw [if_pos hd] at h
      rcases List.mem_cons.mp h with rfl | h
      · exact absurd hc List.not_mem_nil
      · exact List.mem_cons_of_mem _ (ih h hc)
    · obtain ⟨first, more, hsplit⟩ : ∃ first more, splitSlashes s = first :: more := by
        rw [splitSlashes_eq_splitOn]
        exact List.exists_cons_of_ne_nil (List.splitOn_ne_nil '/' s)
      rw [if_neg hd, hsplit] at h
      rw [hsplit] at ih
      rcases List.mem_cons.mp h with rfl | h
      · rcases List.mem_cons.mp hc with rfl | hc
        · exact List.mem_cons_self
        · exact List.mem_cons_of_mem _ (ih List.mem_cons_self hc)
      · exact List.mem_cons_of_mem _ (ih (List.mem_cons_of_mem _ h) hc)

theorem noNull_ofText {text : String} (h : '\x00' ∉ text.toList) :
    ∀ part ∈ (ofText text).parts, '\x00' ∉ part.toList := by
  intro part hpart hnull
  obtain ⟨chars, hchars, rfl⟩ := List.mem_map.mp hpart
  rw [String.toList_ofList] at hnull
  exact h (mem_of_mem_splitSlashes (List.mem_filter.mp hchars).1 hnull)

theorem noNull_of_ofHome {dir : Path} (h : ofHome home = .ok dir) (hnull : '\x00' ∉ home.toList) :
    ∀ part ∈ dir.parts, '\x00' ∉ part.toList := by
  have hkept : home.toList.rdropWhile (· = '/') <+: home.toList := List.rdropWhile_prefix _ _
  rw [ofHome_def] at h
  split at h
  · rw [← Except.ok.inj h]
    exact List.forall_mem_nil _
  · cases h
  · rw [← Except.ok.inj h]
    refine noNull_ofText ?_
    rw [String.toList_ofList]
    exact fun hmem => hnull (hkept.mem hmem)

theorem exists_ofHome_of_map {parts : List String} (h : (ofHome home).map (·.append parts) = .ok p) :
    ∃ dir, ofHome home = .ok dir ∧ p = dir.append parts := by
  cases hdir : ofHome home with
  | error fault =>
    rw [hdir] at h
    cases h
  | ok dir =>
    rw [hdir] at h
    exact ⟨dir, rfl, (Except.ok.inj h).symm⟩

theorem expandHome_cases {q : Path} (h : p.expandHome home = .ok q) :
    (∃ dir more, p = ⟨.relative, "~" :: more⟩ ∧ ofHome home = .ok dir ∧ q = dir.append more) ∨
      (q = p ∧ p.Settled) := by
  rcases p with ⟨anchor, parts⟩
  by_cases hsettled : Settled ⟨anchor, parts⟩
  · rw [expandHome_of_settled hsettled] at h
    exact Or.inr ⟨(Except.ok.inj h).symm, hsettled⟩
  · obtain ⟨rfl, hhead⟩ := Classical.not_imp.mp hsettled
    obtain _ | ⟨first, more⟩ := parts
    · exact absurd (by simp) hhead
    have htilde : first.toList.head? = some '~' := not_not.mp hhead
    rw [expandHome] at h
    simp only [htilde, if_true] at h
    split at h
    · rename_i hfirst
      obtain ⟨dir, hdir, hq⟩ := exists_ofHome_of_map h
      exact Or.inl ⟨dir, more, by rw [hfirst], hdir, hq⟩
    · cases h

/-- Where a path of the settings comes from. -/
theorem forSettings_cases {named : Option String} (h : forSettings named home = .ok p) :
    '\x00' ∉ (named.getD "").toList ∧ '\x00' ∉ home.toList ∧
      ((∃ dir, ofHome home = .ok dir ∧ p = dir.append [".monkey", "config.json"]) ∨
        ∃ name, named = some name ∧ (ofText name).expandHome home = .ok p) := by
  by_cases hnull : '\x00' ∈ (named.getD "").toList ∨ '\x00' ∈ home.toList
  · rw [forSettings.eq_def, if_pos hnull] at h
    exact nomatch h
  rw [forSettings.eq_def, if_neg hnull] at h
  obtain ⟨hnamed, hhome⟩ := not_or.mp hnull
  refine ⟨hnamed, hhome, ?_⟩
  split at h
  · exact Or.inl (exists_ofHome_of_map h)
  · exact Or.inl (exists_ofHome_of_map h)
  · exact Or.inr ⟨_, rfl, h⟩

/-- No path of the settings has a null character. -/
theorem noNull_of_forSettings {named : Option String} (h : forSettings named home = .ok p) :
    '\x00' ∉ p.text.toList := by
  obtain ⟨hnamed, hhome, hp⟩ := forSettings_cases h
  rw [nullCharacter_mem_text_iff]
  rintro ⟨part, hpart, hnull⟩
  rcases hp with ⟨dir, hdir, rfl⟩ | ⟨name, rfl, hexpand⟩
  · rcases List.mem_append.mp hpart with hpart | hpart
    · exact noNull_of_ofHome hdir hhome part hpart hnull
    · have hown : ∀ part ∈ [".monkey", "config.json"], '\x00' ∉ part.toList := by decide
      exact hown part hpart hnull
  · rcases expandHome_cases hexpand with ⟨dir, more, hname, hdir, rfl⟩ | ⟨rfl, -⟩
    · rcases List.mem_append.mp hpart with hpart | hpart
      · exact noNull_of_ofHome hdir hhome part hpart hnull
      · have hmem : part ∈ (ofText name).parts := by
          rw [hname]
          exact List.mem_cons_of_mem _ hpart
        exact noNull_ofText hnamed part hmem hnull
    · exact noNull_ofText hnamed part hpart hnull

/-- A path that its own text names, wherever the home directory is. -/
structure Kept (p : Path) : Prop where
  canonical : p.Canonical
  settled : p.Settled

theorem kept_homeDir_append {parts : List String} (hhome : home.toList.head? = some '/')
    (hparts : Canonical ⟨.relative, parts⟩) : ((homeDir home).append parts).Kept where
  canonical part hpart := (List.mem_append.mp hpart).elim (canonical_homeDir home part) (hparts part)
  settled hrelative := absurd hrelative (anchor_homeDir hhome)

theorem kept_of_forSettings {named : Option String} (hhome : home.toList.head? = some '/')
    (h : forSettings named home = .ok p) : p.Kept := by
  obtain ⟨-, -, ⟨dir, hdir, rfl⟩ | ⟨name, -, hexpand⟩⟩ := forSettings_cases h
  · rw [ofHome_eq hhome] at hdir
    rw [← Except.ok.inj hdir]
    exact kept_homeDir_append hhome (by unfold Canonical; decide)
  · rcases expandHome_cases hexpand with ⟨dir, more, hname, hdir, rfl⟩ | ⟨rfl, hsettled⟩
    · have hcanonical := canonical_ofText name
      rw [hname] at hcanonical
      rw [ofHome_eq hhome] at hdir
      rw [← Except.ok.inj hdir]
      exact kept_homeDir_append hhome fun part hpart => hcanonical part (.tail _ hpart)
    · exact ⟨canonical_ofText name, hsettled⟩

/-! ## The path of the settings -/

theorem forSettings_of_ne_empty {name : String} (hname : name ≠ "") (hnull : '\x00' ∉ name.toList)
    (hhomeNull : '\x00' ∉ home.toList) :
    forSettings (some name) home = (ofText name).expandHome home := by
  have hnone : ¬ ('\x00' ∈ name.toList ∨ '\x00' ∈ home.toList) := by simp [hnull, hhomeNull]
  rw [forSettings, Option.getD_some, if_neg hnone]
  exact hname

theorem forSettings_none (hhome : home.toList.head? = some '/') (hnull : '\x00' ∉ home.toList) :
    forSettings none home = .ok ((homeDir home).append [".monkey", "config.json"]) := by
  have hnone : ¬ ('\x00' ∈ (none.getD "").toList ∨ '\x00' ∈ home.toList) := by simp [hnull]
  rw [forSettings, if_neg hnone, ofHome_eq hhome]
  rfl

theorem Kept.forSettings_text (h : p.Kept) (hnull : '\x00' ∉ p.text.toList)
    (hhomeNull : '\x00' ∉ home.toList) : forSettings (some p.text) home = .ok p := by
  rw [forSettings_of_ne_empty h.canonical.text_ne_empty hnull hhomeNull, h.canonical.ofText_text,
    expandHome_of_settled h.settled]

/-- **The path of the settings is canonical.** Without a text that names it, it lies in the home
directory. A text names it through the class of its leading slashes and the components that take
part. The text of the path names that path again, with every home directory. No environment holds a
null character. -/
theorem forSettings_canonical (hhome : home.toList.head? = some '/')
    (hnull : '\x00' ∉ home.toList) :
    (forSettings none home = .ok ((homeDir home).append [".monkey", "config.json"]) ∧
      forSettings (some "") home = forSettings none home) ∧
    (∀ name, name ≠ "" → '\x00' ∉ name.toList → ¬ AsksForUser name →
      forSettings (some name) home =
        .ok (underHome home ⟨.ofText name.toList, namedParts name⟩)) ∧
    (∀ name name', name ≠ "" → name' ≠ "" → '\x00' ∉ name.toList → '\x00' ∉ name'.toList →
      SameLead name name' → namedParts name = namedParts name' →
      forSettings (some name) home = forSettings (some name') home) ∧
    ∀ named p, forSettings named home = .ok p →
      ∀ home', home'.toList.head? = some '/' → '\x00' ∉ home'.toList →
        forSettings (some p.text) home' = .ok p := by
  refine ⟨⟨forSettings_none hhome hnull, rfl⟩, ?_, ?_, ?_⟩
  · intro name hname hnameNull huser
    rw [forSettings_of_ne_empty hname hnameNull hnull, expandHome_ofText hhome huser, ofText_eq]
  · intro name name' hname hname' hnameNull hnameNull' hlead hparts
    rw [forSettings_of_ne_empty hname hnameNull hnull,
      forSettings_of_ne_empty hname' hnameNull' hnull, ofText_eq, ofText_eq,
      Anchor.ofText_congr hlead, hparts]
  · rintro named p hpath home' - hnull'
    exact (kept_of_forSettings hhome hpath).forSettings_text (noNull_of_forSettings hpath) hnull'

theorem forSettings_canonical_tilde :
    forSettings (some "./~//x/.") "//h//" = .ok ⟨.doubleRoot, ["h", "x"]⟩ ∧
      forSettings (some "//h/x") "/other" = .ok ⟨.doubleRoot, ["h", "x"]⟩ := by
  have hhome : "//h//".toList.head? = some '/' := by decide
  obtain ⟨-, hname, -, hstable⟩ := forSettings_canonical hhome (by decide)
  have huser : ¬ AsksForUser "./~//x/." := by
    rintro ⟨first, more, hpath, -, hne⟩
    have hparts : ["~", "x"] = first :: more := congrArg Path.parts hpath
    exact hne (List.cons.inj hparts).1.symm
  have hpath := hname "./~//x/." (by decide) (by decide) huser
  exact ⟨hpath, hstable _ _ hpath "/other" (by decide) (by decide)⟩

end Path
end MonkeyScan
