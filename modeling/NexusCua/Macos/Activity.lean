import NexusCua.Foundation.BitBoard
import NexusCua.Foundation.Presses

/-!
# Held inputs of the macOS activity monitor

The event tap reports keys and buttons by their codes and carries the modifiers held
after an event in its flags.  Inputs whose release the tap missed are cleared from the
hardware state.
-/

namespace NexusCua.Macos

open NexusCua.Foundation

/-! ## Events of the tap -/

inductive EventFlag
  | alphaShift
  | shift
  | control
  | alternate
  | command
  | help
  | secondaryFn
  | numericPad
  | nonCoalesced
deriving DecidableEq, Repr

abbrev EventFlags : Type := EventFlag → Bool

def EventFlags.intersects (flags : EventFlags) (others : List EventFlag) : Bool :=
  others.any flags

inductive EventKind
  | mouseMoved
  | leftMouseDown
  | leftMouseUp
  | rightMouseDown
  | rightMouseUp
  | otherMouseDown
  | otherMouseUp
  | leftMouseDragged
  | rightMouseDragged
  | otherMouseDragged
  | scrollWheel
  | keyDown
  | keyUp
  | flagsChanged
deriving DecidableEq, Repr

structure TapEvent where
  kind : EventKind
  keycode : Int
  buttonNumber : Int
  flags : EventFlags

/-- The code the tap passes on; left buttons and events without a code give `0`. -/
def TapEvent.code (event : TapEvent) : Int :=
  match event.kind with
  | .keyDown | .keyUp => event.keycode
  | .rightMouseDown | .rightMouseUp => 1
  | .otherMouseDown | .otherMouseUp => event.buttonNumber
  | _ => 0

/-! ## Tracked inputs -/

structure PressedInputs where
  keys : BitBoard 4 64 := BitBoard.empty 4 64
  buttons : BitVec 32 := 0
  modifiers : Bool := false
deriving DecidableEq

def holdsModifier (flags : EventFlags) : Bool :=
  EventFlags.intersects flags [.shift, .control, .alternate, .command, .secondaryFn]

namespace PressedInputs

def markKey (inputs : PressedInputs) (code : Int) (down : Bool) : PressedInputs :=
  if 0 ≤ code ∧ code < 256 then { inputs with keys := inputs.keys.set code.toNat down } else inputs

def markButton (inputs : PressedInputs) (code : Int) (down : Bool) : PressedInputs :=
  if 0 ≤ code ∧ code < 32 then { inputs with buttons := mark inputs.buttons code.toNat down }
  else inputs

def update (inputs : PressedInputs) (kind : EventKind) (code : Int) (flags : EventFlags) :
    PressedInputs :=
  let inputs := { inputs with modifiers := holdsModifier flags }
  match kind with
  | .keyDown => inputs.markKey code true
  | .keyUp => inputs.markKey code false
  | .leftMouseDown | .rightMouseDown | .otherMouseDown => inputs.markButton code true
  | .leftMouseUp | .rightMouseUp | .otherMouseUp => inputs.markButton code false
  | _ => inputs

def held (inputs : PressedInputs) : Bool :=
  inputs.modifiers || inputs.buttons != 0 || inputs.keys.inhabited

def reconcileReleases (inputs : PressedInputs) (keyDown buttonDown : Nat → Bool)
    (flags : EventFlags) : PressedInputs where
  modifiers := if holdsModifier flags then inputs.modifiers else false
  keys := inputs.keys.sweepAll keyDown
  buttons := sweep buttonDown inputs.buttons

def after (events : List TapEvent) : PressedInputs :=
  events.foldl (fun inputs event => inputs.update event.kind event.code event.flags) {}

end PressedInputs

/-! ## Presses behind the events -/

inductive Modifier
  | shift
  | control
  | alternate
  | command
  | secondaryFn
deriving DecidableEq, Repr

def Modifier.flag : Modifier → EventFlag
  | .shift => .shift
  | .control => .control
  | .alternate => .alternate
  | .command => .command
  | .secondaryFn => .secondaryFn

inductive Side
  | left
  | right
deriving DecidableEq, Repr

inductive Input
  | key (code : Fin 256)
  | button (code : Fin 32)
  | modifier (modifier : Modifier) (side : Side)
deriving DecidableEq, Repr

/-- An event carries in its flags the modifiers held after it; its other flags are free. -/
def FlagsAfter (presses : List (Press Input)) (flags : EventFlags) : Prop :=
  ∀ modifier : Modifier, flags modifier.flag = true ↔
    ∃ side, Press.heldAfter presses (.modifier modifier side) = true

def Shows (press : Press Input) (event : TapEvent) : Prop :=
  match press.input with
  | .key code =>
    event.kind = (if press.down then .keyDown else .keyUp) ∧ event.keycode = code
  | .button code =>
    (event.kind = (if press.down then .leftMouseDown else .leftMouseUp) ∧ code.val = 0) ∨
      (event.kind = (if press.down then .rightMouseDown else .rightMouseUp) ∧ code.val = 1) ∨
      (event.kind = (if press.down then .otherMouseDown else .otherMouseUp) ∧
        event.buttonNumber = code)
  | .modifier _ _ => event.kind = .flagsChanged

/-- A movement, a scroll or a toggle such as Caps Lock, which presses nothing. -/
def EventKind.isPassing : EventKind → Bool
  | .mouseMoved | .leftMouseDragged | .rightMouseDragged | .otherMouseDragged | .scrollWheel
  | .flagsChanged => true
  | _ => false

/-- The tap saw these events while these presses happened, passing events in between. -/
inductive Reported : List (Press Input) → List TapEvent → Prop
  | nil : Reported [] []
  | press {presses events} (press : Press Input) (event : TapEvent)
      (earlier : Reported presses events) (shows : Shows press event)
      (flags : FlagsAfter (presses ++ [press]) event.flags) :
      Reported (presses ++ [press]) (events ++ [event])
  | passing {presses events} (event : TapEvent) (earlier : Reported presses events)
      (kind : event.kind.isPassing = true) (flags : FlagsAfter presses event.flags) :
      Reported presses (events ++ [event])

/-! ## What an event changes -/

theorem holdsModifier_iff (flags : EventFlags) :
    holdsModifier flags = true ↔ ∃ modifier : Modifier, flags modifier.flag = true := by
  simp only [holdsModifier, EventFlags.intersects, List.any_cons, List.any_nil, Bool.or_false,
    Bool.or_eq_true]
  constructor
  · rintro (h | h | h | h | h)
    · exact ⟨.shift, h⟩
    · exact ⟨.control, h⟩
    · exact ⟨.alternate, h⟩
    · exact ⟨.command, h⟩
    · exact ⟨.secondaryFn, h⟩
  · rintro ⟨modifier, h⟩
    cases modifier <;> simp_all [Modifier.flag]

structure Tracks (presses : List (Press Input)) (inputs : PressedInputs) : Prop where
  keys : ∀ code : Fin 256, inputs.keys.has code = Press.heldAfter presses (.key code)
  buttons : ∀ code : Fin 32, inputs.buttons.getLsbD code = Press.heldAfter presses (.button code)
  modifiers : inputs.modifiers = true ↔
    ∃ modifier side, Press.heldAfter presses (.modifier modifier side) = true

theorem Tracks.nil : Tracks [] {} where
  keys code := BitBoard.has_empty code
  buttons code := by simp
  modifiers := by simp

variable {presses : List (Press Input)}

theorem FlagsAfter.holdsModifier_iff {flags : EventFlags}
    (h : FlagsAfter presses flags) : holdsModifier flags = true ↔
      ∃ modifier side, Press.heldAfter presses (.modifier modifier side) = true := by
  rw [Macos.holdsModifier_iff]
  exact exists_congr h

namespace PressedInputs

section

variable (inputs : PressedInputs)

theorem markKey_of_fin (code : Fin 256) (down : Bool) :
    inputs.markKey code down = { inputs with keys := inputs.keys.set code down } := by
  have hcode : (0 : Int) ≤ (code.val : Int) ∧ (code.val : Int) < 256 := by omega
  rw [markKey, if_pos hcode, Int.toNat_natCast]

theorem markButton_of_fin (code : Fin 32) (down : Bool) :
    inputs.markButton code down = { inputs with buttons := mark inputs.buttons code down } := by
  have hcode : (0 : Int) ≤ (code.val : Int) ∧ (code.val : Int) < 32 := by omega
  rw [markButton, if_pos hcode, Int.toNat_natCast]

theorem update_passing {kind : EventKind} (hkind : kind.isPassing = true)
    (code : Int) (flags : EventFlags) :
    inputs.update kind code flags = { inputs with modifiers := holdsModifier flags } := by
  cases kind <;> first | rfl | cases hkind

theorem update_shows {press : Press Input} {event : TapEvent}
    (h : Shows press event) :
    inputs.update event.kind event.code event.flags =
      { keys := match press.input with
          | .key code => inputs.keys.set code press.down
          | _ => inputs.keys
        buttons := match press.input with
          | .button code => mark inputs.buttons code press.down
          | _ => inputs.buttons
        modifiers := holdsModifier event.flags } := by
  obtain ⟨input, down⟩ := press
  cases input with
  | key code =>
    obtain ⟨hkind, hcode⟩ := h
    cases down <;> simp [update, TapEvent.code, hkind, hcode, markKey_of_fin]
  | button code =>
    rcases h with ⟨hkind, hcode⟩ | ⟨hkind, hcode⟩ | ⟨hkind, hcode⟩
    · have h0 := fun (i : PressedInputs) => markButton_of_fin i code
      rw [hcode] at h0
      cases down <;> simp_all [update, TapEvent.code]
    · have h1 := fun (i : PressedInputs) => markButton_of_fin i code
      rw [hcode] at h1
      cases down <;> simp_all [update, TapEvent.code]
    · cases down <;> simp [update, TapEvent.code, hkind, hcode, markButton_of_fin]
  | modifier modifier side =>
    have hkind : event.kind = .flagsChanged := h
    rw [hkind, update_passing _ rfl]

end

end PressedInputs

variable {inputs : PressedInputs}

theorem Tracks.press
    (h : Tracks presses inputs) {press : Press Input} {event : TapEvent}
    (hshows : Shows press event) (hflags : FlagsAfter (presses ++ [press]) event.flags) :
    Tracks (presses ++ [press]) (inputs.update event.kind event.code event.flags) := by
  rw [inputs.update_shows hshows]
  constructor
  · intro code
    rw [Press.heldAfter_concat, ← h.keys]
    cases hinput : press.input with
    | key pressed =>
      rw [BitBoard.has_set _ pressed.isLt]
      simp [Fin.ext_iff]
    | button pressed => simp
    | modifier modifier side => simp
  · intro code
    rw [Press.heldAfter_concat, ← h.buttons]
    cases hinput : press.input with
    | key pressed => simp
    | button pressed =>
      rw [getLsbD_mark _ pressed.isLt]
      simp [Fin.ext_iff]
    | modifier modifier side => simp
  · exact hflags.holdsModifier_iff

theorem Tracks.passing
    (h : Tracks presses inputs) {event : TapEvent} (hkind : event.kind.isPassing = true)
    (hflags : FlagsAfter presses event.flags) :
    Tracks presses (inputs.update event.kind event.code event.flags) := by
  rw [inputs.update_passing hkind]
  exact ⟨h.keys, h.buttons, hflags.holdsModifier_iff⟩

theorem Reported.tracks {events : List TapEvent}
    (h : Reported presses events) : Tracks presses (PressedInputs.after events) := by
  induction h with
  | nil => exact Tracks.nil
  | press press event earlier shows flags ih =>
    rw [PressedInputs.after, List.foldl_append]
    exact ih.press shows flags
  | passing event earlier kind flags ih =>
    rw [PressedInputs.after, List.foldl_append]
    exact ih.passing kind flags

theorem Tracks.held_iff
    (h : Tracks presses inputs) :
    inputs.held = true ↔ ∃ input, Press.heldAfter presses input = true := by
  simp only [PressedInputs.held, Bool.or_eq_true, bne_iff_ne, word_ne_zero_iff,
    BitBoard.inhabited_iff, h.modifiers]
  constructor
  · rintro ((⟨modifier, side, hheld⟩ | ⟨code, hcode, hset⟩) | ⟨code, hcode, hset⟩)
    · exact ⟨.modifier modifier side, hheld⟩
    · exact ⟨.button ⟨code, hcode⟩, (h.buttons ⟨code, hcode⟩).symm.trans hset⟩
    · exact ⟨.key ⟨code, hcode⟩, (h.keys ⟨code, hcode⟩).symm.trans hset⟩
  · rintro ⟨input, hheld⟩
    cases input with
    | key code => exact .inr ⟨code, code.isLt, (h.keys code).trans hheld⟩
    | button code => exact .inl (.inr ⟨code, code.isLt, (h.buttons code).trans hheld⟩)
    | modifier modifier side => exact .inl (.inl ⟨modifier, side, hheld⟩)

/-! ## Reconciling with the hardware -/

/-- Nothing appears, and an input disappears only if the hardware reports it up. -/
structure ClearsOnlyReleased (before after : PressedInputs) (keyDown buttonDown : Nat → Bool)
    (flags : EventFlags) : Prop where
  keys_kept : ∀ code : Fin 256, after.keys.has code = true → before.keys.has code = true
  keys_up : ∀ code : Fin 256, before.keys.has code = true → after.keys.has code = false →
    keyDown code = false
  buttons_kept : ∀ code : Fin 32, after.buttons.getLsbD code = true →
    before.buttons.getLsbD code = true
  buttons_up : ∀ code : Fin 32, before.buttons.getLsbD code = true →
    after.buttons.getLsbD code = false → buttonDown code = false
  modifiers_kept : after.modifiers = true → before.modifiers = true
  modifiers_up : before.modifiers = true → after.modifiers = false → holdsModifier flags = false

theorem PressedInputs.reconcileReleases_clears (inputs : PressedInputs)
    (keyDown buttonDown : Nat → Bool) (flags : EventFlags) :
    ClearsOnlyReleased inputs (inputs.reconcileReleases keyDown buttonDown flags) keyDown
      buttonDown flags := by
  have hkeys : ∀ code : Fin 256, (inputs.reconcileReleases keyDown buttonDown flags).keys.has code =
      (inputs.keys.has code && keyDown code) := fun code => BitBoard.has_sweepAll _ _ code.isLt
  have hbuttons : ∀ code : Fin 32,
      (inputs.reconcileReleases keyDown buttonDown flags).buttons.getLsbD code =
        (inputs.buttons.getLsbD code && buttonDown code) := fun code => getLsbD_sweep _ _ _
  constructor
  · intro code
    rw [hkeys]
    exact fun h => (Bool.and_eq_true_iff.mp h).1
  · intro code hbefore
    rw [hkeys, hbefore, Bool.true_and]
    exact id
  · intro code
    rw [hbuttons]
    exact fun h => (Bool.and_eq_true_iff.mp h).1
  · intro code hbefore
    rw [hbuttons, hbefore, Bool.true_and]
    exact id
  · cases hflags : holdsModifier flags <;> simp [reconcileReleases, hflags]
  · cases hflags : holdsModifier flags <;> simp_all [reconcileReleases]

end NexusCua.Macos
