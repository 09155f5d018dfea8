import MonkeyScan.Proofs.File.Descent
import MonkeyScan.Proofs.Settings.Validity

/-!
# A save is all or nothing

A save that raises leaves the settings and every file as they were, and one that returns has written
the file of its path and changed no other. At a path none of whose components leads up it raises for
an obstacle that stands there before the save, and then it has made no directory either.
-/
namespace MonkeyScan

namespace Untyped
open Situation (Event Answer)

/-- A client that was made is a typed one, whatever has happened since. -/
theorem exists_ofSituation_after (s : Untyped) (path : Path) (events : List Event) :
    ∃ t log, s.after (.create path :: events) = ofSituation t log := by
  have hcreate : s.next (.create path) =
      ofSituation (Situation.start path s.files s.logger).after
        (s.log ++ (Situation.start path s.files s.logger).log) := by
    rw [next, create_run]
  have hevents := after_ofSituation (Situation.start path s.files s.logger).after
    (s.log ++ (Situation.start path s.files s.logger).log) events
  rw [← hcreate] at hevents
  exact ⟨_, _, hevents⟩

/-- How an operation ends that answers with nothing but its faults. -/
def ended (result : Except SystemFault Unit) (after : Untyped) :
    EStateM.Result Raised Untyped Answer :=
  match result with
  | .ok () => .ok .done after
  | .error fault => .error (.failed fault) after

theorem save_run_ended (t : Situation) (log : List Record) :
    (act (.op .save)).run (ofSituation t log) =
      ended (t.stored.save t.files).1
        { ofSituation t log with files := (t.stored.save t.files).2 } := by
  rw [act_run]
  rcases hsave : t.stored.save t.files with ⟨fault | _, files⟩
  · simp only [Situation.react, Situation.perform, hsave, ofStep, ended, ofSituation,
      List.append_nil]
  · simp only [Situation.react, Situation.perform, hsave, ofStep, ended, ofSituation,
      List.append_nil]

/-- **A save is all or nothing,** for every client that was made, whatever has happened since. It
raises with the settings and every file as they were, or it returns with the two settings written at
its path and nothing else changed. Along a path that leads down it raises exactly for an obstacle,
with nothing changed at all, and returns with directories along the way. -/
theorem save_all_or_nothing (s : Untyped) (path : Path) (events : List Event) :
    let now := s.after (.create path :: events)
    ∃ (settings : Settings) (result : Except SystemFault Unit) (files : FileTree),
      now.level = .str settings.level.name ∧ now.prompt = .str settings.prompt ∧
      StoredSettings.save ⟨now.path, settings⟩ now.files = (result, files) ∧
      (act (.op .save)).run now = ended result { now with files } ∧
      (result ≠ .ok () → now.files.Keeps files) ∧
      (result = .ok () → ∃ place, files.locate now.path.text = .ok place ∧
        files.root.standing? place = some (.file (Utf8.encode settings.written)) ∧
        (∀ other, other ≠ place → ∀ bytes, files.root.standing? other = some (.file bytes) ↔
          now.files.root.standing? other = some (.file bytes)) ∧
        ∀ other, now.files.root.HasDir other → files.root.HasDir other) ∧
      (now.path.Descends → now.files.root.HasDir now.files.current →
        (∀ fault, result = .error fault ↔ now.files.Obstacle now.path fault) ∧
        (result ≠ .ok () → files = now.files) ∧
        (result = .ok () →
          ∀ outer, outer <+: now.files.placeOf now.path.parent → files.root.HasDir outer)) := by
  intro now
  obtain ⟨t, log, hnow⟩ := exists_ofSituation_after s path events
  obtain ⟨result, files, hsave⟩ : ∃ result files, t.stored.save t.files = (result, files) :=
    ⟨_, _, rfl⟩
  have hrun := save_run_ended t log
  rw [hsave] at hrun
  have hnow' : now = ofSituation t log := hnow
  rw [hnow']
  refine ⟨t.stored.settings, result, files, rfl, rfl, hsave, hrun, ?_, ?_, ?_⟩
  · intro hresult
    cases result with
    | ok _ => exact absurd rfl hresult
    | error fault => exact FileTree.store_keeps hsave
  · rintro rfl
    exact FileTree.store_standing? hsave
  · intro hp hcurrent
    exact FileTree.store_of_descends hp hcurrent hsave

end Untyped

end MonkeyScan
