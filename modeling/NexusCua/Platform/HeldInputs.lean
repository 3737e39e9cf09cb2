import NexusCua.Windows.Activity
import NexusCua.Macos.Activity

/-!
# Which inputs the user holds

Automation may start only while the user holds no input.  The macOS monitor knows
exactly the inputs held.  The Windows monitor folds the left and right variants of a
modifier into one bit: it never reports an input that is not held, and it misses the held
ones when every press has been followed by a release in its family.
-/

namespace NexusCua.Platform

open NexusCua.Foundation

/-- The monitors know exactly whether an input is held, and the hardware state clears
only what it reports up. -/
structure TracksHeld (reports : List Windows.Report) (presses : List (Press Macos.Input))
    (events : List Macos.TapEvent) (inputs : Macos.PressedInputs)
    (keyDown buttonDown : Nat → Bool) (flags : Macos.EventFlags) : Prop where
  windows : (Windows.PressedInputs.after reports).held = true ↔
    ∃ key, Press.heldAfter (reports.map Windows.Report.press) key = true
  macos : (Macos.PressedInputs.after events).held = true ↔
    ∃ input, Press.heldAfter presses input = true
  reconciled : Macos.ClearsOnlyReleased inputs
    (inputs.reconcileReleases keyDown buttonDown flags) keyDown buttonDown flags

def SomePressLasts (reports : List Windows.Report) : Prop :=
  ∃ (before : List Windows.Report) (report : Windows.Report) (after : List Windows.Report),
    reports = before ++ report :: after ∧ report.down = true ∧
      ∀ later ∈ after, later.down = false →
        Windows.genericKey later.key ≠ Windows.genericKey report.key

/-- If the user holds a key, some press was followed by no release in its family. -/
def VariantsSpared (reports : List Windows.Report) : Prop :=
  (∃ key, Press.heldAfter (reports.map Windows.Report.press) key = true) → SomePressLasts reports

theorem exists_lasting_iff (reports : List Windows.Report) :
    (∃ code, Press.Lasting Windows.family (reports.map Windows.Report.press) code) ↔
      SomePressLasts reports := by
  constructor
  · rintro ⟨code, before, press, after, hsplit, hdown, rfl, hlater⟩
    obtain ⟨before, rest, rfl, rfl, hrest⟩ := List.map_eq_append_iff.mp hsplit
    obtain ⟨report, after, rfl, rfl, rfl⟩ := List.map_eq_cons_iff.mp hrest
    refine ⟨before, report, after, rfl, hdown, ?_⟩
    intro later hmem hup hsame
    have hpressed := hlater later.press (List.mem_map_of_mem hmem) hsame
    exact absurd (hup.symm.trans hpressed) (by decide)
  · rintro ⟨before, report, after, rfl, hdown, hlater⟩
    refine ⟨Windows.genericKey report.key, before.map Windows.Report.press, report.press,
      after.map Windows.Report.press, by simp, hdown, rfl, ?_⟩
    intro press hmem hsame
    obtain ⟨later, hlatermem, rfl⟩ := List.mem_map.mp hmem
    by_contra hup
    exact hlater later hlatermem (Bool.eq_false_iff.mpr hup) hsame

/-- Held-input tracking is exact if and only if no release of a modifier's variant hides
the last held key. -/
theorem tracks_held_iff (reports : List Windows.Report) {presses : List (Press Macos.Input)}
    {events : List Macos.TapEvent} (hreported : Macos.Reported presses events)
    (inputs : Macos.PressedInputs) (keyDown buttonDown : Nat → Bool) (flags : Macos.EventFlags) :
    TracksHeld reports presses events inputs keyDown buttonDown flags ↔ VariantsSpared reports := by
  have hmonitor := (Windows.PressedInputs.held_after_iff reports).trans (exists_lasting_iff reports)
  constructor
  · intro h hheld
    exact hmonitor.mp (h.windows.mpr hheld)
  · intro hspared
    refine ⟨⟨?_, fun hheld => hmonitor.mpr (hspared hheld)⟩, hreported.tracks.held_iff,
      inputs.reconcileReleases_clears keyDown buttonDown flags⟩
    intro hmonitored
    obtain ⟨code, hlasting⟩ := (Windows.PressedInputs.held_after_iff reports).mp hmonitored
    exact hlasting.exists_held

def shiftFlags (held : Bool) : Macos.EventFlags := fun flag => held && decide (flag = .shift)

theorem flagsAfter_shiftFlags {presses : List (Press Macos.Input)} (held : Bool)
    (h : ∀ modifier side, Press.heldAfter presses (.modifier modifier side) =
      (held && decide (modifier = .shift ∧ side = .left))) :
    Macos.FlagsAfter presses (shiftFlags held) := by
  intro modifier
  simp only [h, shiftFlags]
  cases modifier <;> simp [Macos.Modifier.flag]

/-- A key held and a modifier pressed and released around it, as the two platforms
report them. -/
theorem tracks_held_keyUnderShift :
    TracksHeld [⟨0xa0, true, 0xa0, .inl rfl⟩, ⟨0x41, true, 0x41, .inl rfl⟩,
        ⟨0xa0, false, 0x10, .inr rfl⟩]
      [⟨.modifier .shift .left, true⟩, ⟨.key 0, true⟩, ⟨.modifier .shift .left, false⟩]
      [⟨.flagsChanged, 56, 0, shiftFlags true⟩, ⟨.keyDown, 0, 0, shiftFlags true⟩,
        ⟨.flagsChanged, 56, 0, shiftFlags false⟩]
      {} (fun _ => true) (fun _ => true) (fun _ => false) := by
  have hshift := Macos.Reported.nil.press ⟨.modifier .shift .left, true⟩
    ⟨.flagsChanged, 56, 0, shiftFlags true⟩ rfl
    (flagsAfter_shiftFlags true (by rintro ⟨⟩ ⟨⟩ <;> rfl))
  have hkey := hshift.press ⟨.key 0, true⟩ ⟨.keyDown, 0, 0, shiftFlags true⟩ ⟨rfl, rfl⟩
    (flagsAfter_shiftFlags true (by rintro ⟨⟩ ⟨⟩ <;> rfl))
  have hreported := hkey.press ⟨.modifier .shift .left, false⟩
    ⟨.flagsChanged, 56, 0, shiftFlags false⟩ rfl
    (flagsAfter_shiftFlags false (by rintro ⟨⟩ ⟨⟩ <;> rfl))
  apply (tracks_held_iff _ hreported _ _ _ _).mpr
  intro _
  refine ⟨[⟨0xa0, true, 0xa0, .inl rfl⟩], ⟨0x41, true, 0x41, .inl rfl⟩,
    [⟨0xa0, false, 0x10, .inr rfl⟩], rfl, rfl, ?_⟩
  intro later hmem hup
  obtain rfl := List.mem_singleton.mp hmem
  decide

/-- Both shift keys go down and the left one comes up: the right one is held, and the
monitor reports nothing held. -/
theorem right_shift_missed :
    ¬TracksHeld [⟨0xa0, true, 0xa0, .inl rfl⟩, ⟨0xa1, true, 0xa1, .inl rfl⟩,
        ⟨0xa0, false, 0xa0, .inl rfl⟩] [] [] {} (fun _ => true) (fun _ => true)
      (fun _ => false) := by
  intro h
  have hheld : (Windows.PressedInputs.after [⟨0xa0, true, 0xa0, .inl rfl⟩,
      ⟨0xa1, true, 0xa1, .inl rfl⟩, ⟨0xa0, false, 0xa0, .inl rfl⟩]).held = true :=
    h.windows.mpr ⟨0xa1, by decide⟩
  exact absurd hheld (by decide +kernel)

end NexusCua.Platform
