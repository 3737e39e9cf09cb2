import NexusCua.Protocol.Action

/-!
# Pointer actions under a guard

An action submits pointer events and waits.  While it waits the user may move the pointer,
and the guard may start to fail.  Where an event carries a location, it moves the pointer.
-/

namespace NexusCua.Platform.Pointer

open NexusCua.Protocol (PointerButton)

/-- One sleep: where the user leaves the pointer, and whether the guard fails from then on. -/
structure Turn (Point : Type) where
  hand : Option Point
  takeover : Bool

/--
What comes from outside.  The native calls are answered in the order in which they are
made: by the number of inputs that are accepted, by `0` where the call fails.
-/
structure Surroundings (Point : Type) where
  turns : Nat → Turn Point
  /-- `CGEvent::new` can tell where the pointer is. -/
  located : Bool
  answers : Nat → Nat
  along : Point → Point → Nat → Nat → Point

inductive Kind where
  | moved
  | dragged
  | down (button : PointerButton)
  | up (button : PointerButton)
  deriving DecidableEq

def Kind.isRelease : Kind → Bool
  | .up _ => true
  | _ => false

structure Event (Point : Type) where
  kind : Kind
  location : Option Point

structure Submission (Point : Type) where
  event : Event Point
  pointer : Point
  failing : Bool

structure Scene (Point : Type) where
  pointer : Point
  waits : Nat := 0
  calls : Nat := 0
  failing : Bool := false
  log : List (Submission Point) := []

inductive Failure where
  | authority
  | desktop
  | dispatch
  | event
  | blocked
  | partly
  deriving DecidableEq

abbrev Act (Point : Type) := EStateM Failure (Scene Point)

inductive Action (Point : Type) where
  | click (point : Point) (button : PointerButton) (count : Nat)
  | press (point : Point) (button : PointerButton) (frames : Nat)
  | drag (origin target : Point) (durationMs : Nat)

/-- After the takeover only a release is submitted, and the pointer stays where it is. -/
def Submission.Yields {Point : Type} (submission : Submission Point) : Prop :=
  submission.failing = true → submission.event.kind.isRelease = true ∧
    submission.event.location.getD submission.pointer = submission.pointer

def Scene.Yielded {Point : Type} (scene : Scene Point) : Prop :=
  ∀ submission ∈ scene.log, submission.Yields

variable {Point α β : Type}

/-! ## Steps -/

def answer (env : Surroundings Point) : Act Point Nat :=
  fun scene => .ok (env.answers scene.calls) { scene with calls := scene.calls + 1 }

def submit (accepted : Bool) (event : Event Point) (scene : Scene Point) : Scene Point :=
  { scene with
    pointer := if accepted then event.location.getD scene.pointer else scene.pointer
    log := ⟨event, scene.pointer, scene.failing⟩ :: scene.log }

def Scene.turn (scene : Scene Point) (turn : Turn Point) : Scene Point :=
  { scene with
    waits := scene.waits + 1
    pointer := turn.hand.getD scene.pointer
    failing := scene.failing || turn.takeover }

def sleep (env : Surroundings Point) : Act Point Unit :=
  fun scene => .ok () (scene.turn (env.turns scene.waits))

def checkGuard : Act Point Unit :=
  fun scene => if scene.failing then .error .authority scene else .ok () scene

def attempt (act : Act Point α) : Act Point (Except Failure α) :=
  fun scene =>
    match act scene with
    | .ok value scene => .ok (.ok value) scene
    | .error failure scene => .ok (.error failure) scene

def require (failure : Failure) (env : Surroundings Point) : Act Point Unit := do
  if (← answer env) = 0 then throw failure

/-- `wait_guarded` and `wait_while_authorized`: the guard is read before each sleep and last. -/
def guardedWait (env : Surroundings Point) : Nat → Act Point Unit
  | 0 => checkGuard
  | frames + 1 => do
      checkGuard
      sleep env
      guardedWait env frames

def interpolationSteps (durationMs : Nat) : Nat :=
  max 1 (min (durationMs / 16) 625)

/-- The points of `interpolate`, with a wait between two of them. -/
def glide (move : Point → Act Point Unit) (rest : Act Point Unit) : List Point → Act Point Unit
  | [] => pure ()
  | [point] => move point
  | point :: next :: points => do
      move point
      rest
      glide move rest (next :: points)

def interpolated (env : Surroundings Point) (origin target : Point) (durationMs : Nat) :
    List Point :=
  let steps := interpolationSteps durationMs
  (List.range' 1 steps).map fun step => env.along origin target step steps

/-! ## Rules -/

/-- A value satisfies `Q`, and a failure leaves a scene with `E`. -/
def Leaves (act : Act Point α) (scene : Scene Point) (Q : α → Scene Point → Prop)
    (E : Scene Point → Prop) : Prop :=
  match act scene with
  | .ok value scene => Q value scene
  | .error _ scene => E scene

section Rules

variable {env : Surroundings Point} {scene : Scene Point} {act : Act Point α}
  {Q : α → Scene Point → Prop} {E : Scene Point → Prop}

theorem Leaves.bind {next : α → Act Point β} {Q : β → Scene Point → Prop}
    (h : Leaves act scene (fun value scene => Leaves (next value) scene Q E) E) :
    Leaves (act >>= next) scene Q E := by
  change Leaves (EStateM.bind act next) scene Q E
  unfold Leaves EStateM.bind at *
  cases hact : act scene with
  | ok value scene' =>
    rw [hact] at h
    exact h
  | error failure scene' =>
    rw [hact] at h
    exact h

theorem Leaves.mono {Q' : α → Scene Point → Prop} (h : Leaves act scene Q E)
    (hQ : ∀ value scene, Q value scene → Q' value scene) : Leaves act scene Q' E := by
  unfold Leaves at *
  cases hact : act scene with
  | ok value scene' =>
    rw [hact] at h
    exact hQ value scene' h
  | error failure scene' =>
    rw [hact] at h
    exact h

theorem Leaves.attempt (h : Leaves act scene Q E) (E' : Scene Point → Prop) :
    Leaves (attempt act) scene
      (fun result scene =>
        match result with
        | .ok value => Q value scene
        | .error _ => E scene) E' := by
  unfold Leaves Pointer.attempt at *
  cases hact : act scene with
  | ok value scene' =>
    rw [hact] at h
    exact h
  | error failure scene' =>
    rw [hact] at h
    exact h

/-- The guard still holds after `waits` sleeps, and the pointer is `here`. -/
structure Held (waits : Nat) (here : Point) (scene : Scene Point) : Prop where
  waits_eq : scene.waits = waits
  pointer_eq : scene.pointer = here
  holds : scene.failing = false
  yielded : scene.Yielded

/-- The guard fails, and the pointer is `here`. -/
structure Taken (here : Point) (scene : Scene Point) : Prop where
  pointer_eq : scene.pointer = here
  fails : scene.failing = true
  yielded : scene.Yielded

variable {waits : Nat} {here : Point}

theorem yielded_cons {submission : Submission Point} {scene' : Scene Point}
    (h : scene.Yielded) (hlog : scene'.log = submission :: scene.log)
    (hsubmission : submission.Yields) : scene'.Yielded := by
  intro other hother
  rw [hlog] at hother
  obtain rfl | hother := List.mem_cons.mp hother
  · exact hsubmission
  · exact h other hother

theorem Held.submit (h : Held waits here scene) (accepted : Bool) (event : Event Point) :
    Held waits (if accepted then event.location.getD here else here)
      (submit accepted event scene) := by
  refine ⟨h.waits_eq, ?_, h.holds, yielded_cons h.yielded rfl fun hfails => ?_⟩
  · simp [Pointer.submit, h.pointer_eq]
  · rw [h.holds] at hfails
    cases hfails

theorem Taken.submit (h : Taken here scene) {event : Event Point} (accepted : Bool)
    (hup : event.kind.isRelease = true) (hstays : event.location.getD here = here) :
    Taken here (submit accepted event scene) := by
  refine ⟨?_, h.fails, yielded_cons h.yielded rfl fun _ => ⟨hup, ?_⟩⟩
  · cases accepted with
    | false => exact h.pointer_eq
    | true => simp [Pointer.submit, h.pointer_eq, hstays]
  · rw [h.pointer_eq, hstays]

theorem Held.turn (env : Surroundings Point) (h : Held waits here scene) :
    if (env.turns waits).takeover then
      Taken ((env.turns waits).hand.getD here) (scene.turn (env.turns scene.waits))
    else Held (waits + 1) ((env.turns waits).hand.getD here)
      (scene.turn (env.turns scene.waits)) := by
  rw [h.waits_eq]
  split
  case isTrue htaken =>
    refine ⟨?_, ?_, h.yielded⟩
    · simp [Scene.turn, h.pointer_eq]
    · simp [Scene.turn, htaken]
  case isFalse htaken =>
    refine ⟨?_, ?_, ?_, h.yielded⟩
    · simp [Scene.turn, h.waits_eq]
    · simp [Scene.turn, h.pointer_eq]
    · simp [Scene.turn, h.holds, htaken]

/-- A native call is not refused, or a refusal while the guard holds leaves `E`. -/
def Permits (env : Surroundings Point) (E : Scene Point → Prop) : Prop :=
  (∀ call, env.answers call ≠ 0) ∨ ∀ waits here scene, Held waits here scene → E scene

theorem Taken.checkGuard (h : Taken here scene) (hE : ∀ scene, Taken here scene → E scene)
    (Q : Unit → Scene Point → Prop) : Leaves checkGuard scene Q E := by
  simp only [Leaves, Pointer.checkGuard, h.fails]
  exact hE scene h

theorem Held.checkGuard (h : Held waits here scene) :
    Leaves checkGuard scene (fun _ => Held waits here) E := by
  simp only [Leaves, Pointer.checkGuard, h.holds]
  exact h

theorem Taken.require (h : Taken here scene) (hE : ∀ scene, Taken here scene → E scene)
    (failure : Failure) : Leaves (require failure env) scene (fun _ => Taken here) E := by
  have hlater : Taken here { scene with calls := scene.calls + 1 } :=
    ⟨h.pointer_eq, h.fails, h.yielded⟩
  apply Leaves.bind
  change Leaves (if _ then _ else _) _ _ _
  split
  · exact hE _ hlater
  · exact hlater

theorem Held.require (h : Held waits here scene) (hE : Permits env E) (failure : Failure) :
    Leaves (require failure env) scene (fun _ => Held waits here) E := by
  have hlater : Held waits here { scene with calls := scene.calls + 1 } :=
    ⟨h.waits_eq, h.pointer_eq, h.holds, h.yielded⟩
  apply Leaves.bind
  change Leaves (if _ then _ else _) _ _ _
  split
  · next hrefused =>
    obtain hok | hE := hE
    · exact absurd hrefused (hok _)
    · exact hE _ _ _ hlater
  · exact hlater

theorem guardedWait_taken (h : Taken here scene) (hE : ∀ scene, Taken here scene → E scene)
    (frames : Nat) (Q : Unit → Scene Point → Prop) :
    Leaves (guardedWait env frames) scene Q E := by
  cases frames with
  | zero => exact h.checkGuard hE Q
  | succ frames => exact .bind (h.checkGuard hE _)

end Rules

def outcome (act : Act Point Unit) (scene : Scene Point) : Scene Point :=
  match act scene with
  | .ok _ scene => scene
  | .error _ scene => scene

theorem Leaves.outcome {act : Act Point Unit} {scene : Scene Point} {P : Scene Point → Prop}
    (h : Leaves act scene (fun _ => P) P) : P (outcome act scene) := by
  unfold Leaves Pointer.outcome at *
  cases hact : act scene with
  | ok value scene' =>
    rw [hact] at h
    exact h
  | error failure scene' =>
    rw [hact] at h
    exact h

end NexusCua.Platform.Pointer
