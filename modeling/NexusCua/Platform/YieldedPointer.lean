import NexusCua.Macos.Pointer
import NexusCua.Windows.Pointer

/-!
# The pointer after a takeover
-/

namespace NexusCua.Platform.Pointer

def Scene.start {Point : Type} (pointer : Point) : Scene Point := { pointer }

theorem Scene.held_start {Point : Type} (pointer : Point) : Held 0 pointer (Scene.start pointer) :=
  ⟨rfl, rfl, rfl, fun _ hmem => nomatch hmem⟩

/--
After a takeover nothing moves the pointer: on Windows always, and on macOS, whatever the
native calls answer, exactly when a release that is not made where the pointer is finds the
pointer at its own point.
-/
theorem pointer_yielded_iff {Point : Type} (env : Surroundings Point) (pointer : Point)
    (action : Action Point) :
    (outcome (Windows.Pointer.perform env action) (Scene.start pointer)).Yielded ∧
      ((∀ answers, (outcome (Macos.Pointer.perform { env with answers } action)
          (Scene.start pointer)).Yielded) ↔
        Macos.Pointer.Rests env action) := by
  have hstart := Scene.held_start pointer
  refine ⟨(Windows.Pointer.yields_perform action _ hstart.yielded).outcome, fun h => ?_, ?_⟩
  · apply Classical.byContradiction
    intro hrests
    have hspoiled : Macos.Pointer.Ends (fun scene => ¬ scene.Yielded)
        (Macos.Pointer.perform { env with answers := fun _ => 1 } action) (Scene.start pointer) :=
      Macos.Pointer.perform_spoils (fun _ => Nat.one_ne_zero) hstart hrests
    exact hspoiled.outcome (h _)
  · intro hrests answers
    have hyields : Macos.Pointer.Ends Scene.Yielded
        (Macos.Pointer.perform { env with answers } action) (Scene.start pointer) :=
      Macos.Pointer.perform_yields hstart hrests
    exact hyields.outcome

/-- A user moves the pointer while a click holds the button, and the release moves it back. -/
theorem click_release_moves_pointer :
    ∃ submission ∈ (outcome (Macos.Pointer.perform
        ⟨fun wait => ⟨some 7, wait == 1⟩, true, fun _ => 1, fun _ target _ _ => target⟩
        (.click 3 .left 1)) (Scene.start 0)).log,
      submission.failing = true ∧ submission.pointer = 7 ∧
      submission.event = ⟨.up .left, some 3⟩ := by
  refine ⟨⟨⟨.up .left, some 3⟩, 7, true⟩, ?_, rfl, rfl, rfl⟩
  exact List.mem_cons_self

end NexusCua.Platform.Pointer
