import MonkeyScan.Proofs.File.Store
import MonkeyScan.Proofs.Json.Document
import MonkeyScan.Proofs.Text.Utf8
import MonkeyScan.Settings.Stored

/-!
# Saved settings are loaded

Settings are written as an object of two texts, all of it in ASCII and without carriage returns,
so neither the decoding of the bytes nor the unification of line ends changes a character. The
object is read back and each setting is found in it, whatever the settings were before.
-/
namespace MonkeyScan

/-- A text without carriage returns has only line feeds for line ends. -/
theorem unifyLineEnds_of_not_mem {text : List Char} (h : '\r' ∉ text) :
    unifyLineEnds text = text := by
  induction text with
  | nil => rfl
  | cons c text ih =>
    rw [List.mem_cons, not_or] at h
    have hc : c ≠ '\r' := fun hc => h.1 hc.symm
    rw [unifyLineEnds, ih h.2]
    · exact fun _ hc' _ => hc hc'
    · exact hc

namespace Settings

/-- The fields that settings are written as. -/
def fields (s : Settings) : List (String × String) :=
  [("debug_level", s.level.name), ("prompt", s.prompt)]

theorem written_eq (s : Settings) : s.written = Json.writtenObject s.fields := by
  have hopen : "\x7b\n  \"debug_level\": ".toList =
      '{' :: '\n' :: ' ' :: ' ' :: (Json.writtenText "debug_level" ++ [':', ' ']) := rfl
  have hnext : ",\n  \"prompt\": ".toList =
      ',' :: '\n' :: ' ' :: ' ' :: (Json.writtenText "prompt" ++ [':', ' ']) := rfl
  have hclose : "\n\x7d".toList = ['\n', '}'] := rfl
  -- The constants are replaced by congruence: a rewrite would compare them by evaluation.
  have hparts : ∀ {a a' b b' c c' : List Char}, a = a' → b = b' → c = c' →
      a ++ Json.writtenText s.level.name ++ b ++ Json.writtenText s.prompt ++ c =
        a' ++ Json.writtenText s.level.name ++ b' ++ Json.writtenText s.prompt ++ c' := by
    rintro a _ b _ c _ rfl rfl rfl
    rfl
  refine Eq.trans (hparts hopen hnext hclose) ?_
  simp only [Json.writtenObject, fields, Json.writtenFields, List.append_assoc, List.cons_append,
    List.nil_append]

theorem written_printable {s : Settings} {c : Char} (h : c ∈ s.written) :
    c = '\n' ∨ 0x20 ≤ c.toNat ∧ c.toNat < 0x7f := by
  rw [written_eq] at h
  exact Json.writtenObject_printable h

theorem written_ascii (s : Settings) : ∀ c ∈ s.written, c.toNat < 0x80 := by
  intro c hc
  rcases written_printable hc with rfl | ⟨-, hlt⟩
  · decide
  · omega

theorem carriageReturn_not_mem_written (s : Settings) : '\r' ∉ s.written := by
  intro h
  rcases written_printable h with h | ⟨h, -⟩
  · exact absurd h (by decide)
  · exact absurd h (by decide)

/-- The bytes of written settings are read as the object of their fields. -/
theorem readBytes_written (s : Settings) : readBytes (Utf8.encode s.written) =
    .ok (.obj [("debug_level", .str s.level.name), ("prompt", .str s.prompt)]) := by
  have hparse : Json.parse s.written =
      .ok (.obj [("debug_level", .str s.level.name), ("prompt", .str s.prompt)]) := by
    have hne : s.fields ≠ [] := List.cons_ne_nil _ _
    rw [written_eq, Json.parse_writtenObject hne]
    rfl
  simp only [readBytes, Utf8.decode_encode, unifyLineEnds_of_not_mem s.carriageReturn_not_mem_written]
  simp only [bind, Except.bind, pure, Except.pure, hparse]

/-- The file of a path holds an object with a level and a prompt, whatever else is in it. -/
def HeldIn (s : Settings) (path : String) (files : FileTree) : Prop :=
  ∃ bytes fields, files.read path = .ok bytes ∧ readBytes bytes = .ok (.obj fields) ∧
    fields.lookup "debug_level" = some (.str s.level.name) ∧
    fields.lookup "prompt" = some (.str s.prompt)

/-- Settings that are held in a file are read from it, whatever the settings were before, and
nothing is complained of. -/
theorem HeldIn.loadFrom {s : Settings} {files : FileTree} {path : String}
    (h : s.HeldIn path files) (other : Settings) : other.loadFrom path files = (s, []) := by
  obtain ⟨bytes, fields, hread, hobject, hlevel, hprompt⟩ := h
  have hname : Level.ofJson? (.str s.level.name) = some s.level := Level.ofName?_name s.level
  simp only [Settings.loadFrom, hread, hobject, takeJson, Json.field?, hlevel, hprompt, takeLevel,
    hname, takePrompt, List.append_nil]

/-- Written settings are held in their file. -/
theorem heldIn_of_read {s : Settings} {files : FileTree} {path : String}
    (h : files.read path = .ok (Utf8.encode s.written)) : s.HeldIn path files :=
  ⟨_, _, h, readBytes_written s, rfl, rfl⟩

/-- Whatever the settings were, reading written settings ends with those and complains of
nothing. -/
theorem loadFrom_written {s : Settings} {files : FileTree} {path : String} (other : Settings)
    (h : files.read path = .ok (Utf8.encode s.written)) : other.loadFrom path files = (s, []) :=
  (heldIn_of_read h).loadFrom other

end Settings

namespace StoredSettings

/-- A new client finds the settings that are held in the file of its path, and logs nothing. -/
theorem create_of_heldIn {s : Settings} {path : Path} {files : FileTree}
    (h : s.HeldIn path.text files) (logger : Logger) :
    create path logger files = (⟨path, s⟩, []) := by
  simp only [create, load, h.loadFrom, List.map_nil, Logger.filter, List.filter_nil]

/-- Saved settings are held in their file. -/
theorem heldIn_of_save {c : StoredSettings} {files after : FileTree}
    (h : c.save files = (.ok (), after)) : c.settings.HeldIn c.path.text after :=
  Settings.heldIn_of_read (FileTree.store_spec h).1

/-- **Saved settings are loaded.** After a save the file holds ASCII bytes. Whoever loads from its
path, while the file still holds them, ends with the saved settings and logs nothing; a save of what
was loaded leaves the same bytes, and on the tree left by the first save it succeeds. -/
theorem load_of_save {c : StoredSettings} {files after : FileTree}
    (h : c.save files = (.ok (), after)) :
    ∃ bytes, after.read c.path.text = .ok bytes ∧ (∀ b ∈ bytes, b < 0x80) ∧
      ∀ (other : Settings) (logger : Logger) (later : FileTree),
        later.read c.path.text = .ok bytes →
          load ⟨c.path, other⟩ logger later = (c, []) ∧
          (∀ again, (load ⟨c.path, other⟩ logger later).1.save later = (.ok (), again) →
            again.read c.path.text = .ok bytes) ∧
          ∃ again, (load ⟨c.path, other⟩ logger after).1.save after = (.ok (), again) := by
  obtain ⟨hread, hagain⟩ := FileTree.store_spec h
  have hload : ∀ (other : Settings) (logger : Logger) (later : FileTree),
      later.read c.path.text = .ok (Utf8.encode c.settings.written) →
        load ⟨c.path, other⟩ logger later = (c, []) := by
    intro other logger later hlater
    simp [load, Settings.loadFrom_written other hlater, Logger.filter]
  refine ⟨Utf8.encode c.settings.written, hread,
    Utf8.encode_lt_of_ascii c.settings.written_ascii, ?_⟩
  intro other logger later hlater
  rw [hload other logger later hlater, hload other logger after hread]
  exact ⟨rfl, fun again hsave => (FileTree.store_spec hsave).1, hagain⟩

/-- A prompt that needs every kind of escape is saved in an empty tree and loaded again. -/
theorem load_of_save_with_escapes :
    let c : StoredSettings :=
      ⟨⟨.relative, ["settings"]⟩, ⟨.debug, "say \"\\\"\r\n\x08\x7f é \u2028 😀"⟩⟩
    let after : FileTree := ⟨.dir [("settings", .file (Utf8.encode c.settings.written))], []⟩
    c.save {} = (.ok (), after) ∧ load ⟨c.path, {}⟩ {} after = (c, []) := by
  intro c after
  have hsave : c.save {} = (.ok (), after) := by
    have hlocate : ({} : FileTree).locate c.path.text = .ok ["settings"] := by
      have htext : c.path.text = "settings" := by decide
      rw [htext]
      rfl
    have hplace : ¬ ({} : FileTree).root.HasDir ["settings"] := by
      rintro ⟨entries, hentries⟩
      cases hentries
    exact FileTree.store_eq_ok.mpr ⟨{}, FileTree.makeDirs_of_isDir (by decide),
      FileTree.write_eq_ok.mpr ⟨["settings"], hlocate, hplace, rfl⟩⟩
  obtain ⟨bytes, hread, -, hload⟩ := load_of_save hsave
  exact ⟨hsave, (hload {} {} after hread).1⟩

end StoredSettings

end MonkeyScan
