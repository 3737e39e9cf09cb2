import NexusCua.Platform.Pointer

/-!
# Clicks, presses and drags on Windows

Only movements are absolute.  A button is pressed and released with an input that has no
location, so a release can be sent without authority.
-/

namespace NexusCua.Windows.Pointer

open NexusCua.Protocol (PointerButton)
open NexusCua.Platform.Pointer

variable {Point : Type} (env : Surroundings Point)

def absoluteMouse (point : Point) : Act Point (Event Point) := do
  require .event env
  return ⟨.moved, some point⟩

def relativeMouse (kind : Kind) : Event Point := ⟨kind, none⟩

/-- `activity_monitor_failed` makes the guard fail. -/
def monitorFailed : Act Point Unit :=
  fun scene => .ok () { scene with failing := true }

def beginDispatch : Act Point Unit := do
  if (← answer env) = 0 then
    monitorFailed
    checkGuard
    throw .desktop
  checkGuard
  require .dispatch env

def submitAll : List (Event Point) → Nat → Scene Point → Scene Point
  | [], _, scene => scene
  | event :: events, accepted, scene =>
      submitAll events (accepted - 1) (submit (decide (0 < accepted)) event scene)

def sendNative (events : List (Event Point)) : Act Point Nat := do
  let accepted ← answer env
  modify (submitAll events accepted)
  return min accepted events.length

def inputResult (sent requested : Nat) : Except Failure Unit :=
  if sent = requested then .ok () else if sent = 0 then .error .blocked else .error .partly

def sendRaw (events : List (Event Point)) : Act Point Unit := do
  if events.isEmpty then return
  MonadExcept.ofExcept (inputResult (← sendNative env events) events.length)

def send (events : List (Event Point)) : Act Point Unit := do
  beginDispatch env
  sendRaw env events

def moveTo (point : Point) : Act Point Unit := do
  send env [← absoluteMouse env point]

def waitGuarded : Act Point Unit := do
  guardedWait env (← answer env)

/-- What is done with the button held and the release, if the button was accepted. -/
def release (pressed : Except Failure Unit) (held : Act Point Unit) (button : PointerButton) :
    Act Point Unit := do
  match pressed with
  | .error failure => throw failure
  | .ok _ =>
      let waited ← attempt held
      let released ← attempt (sendRaw env [relativeMouse (.up button)])
      MonadExcept.ofExcept waited
      MonadExcept.ofExcept released

def clicks (button : PointerButton) : Nat → Act Point Unit
  | 0 => pure ()
  | count + 1 => do
      beginDispatch env
      let pressed ← attempt (sendRaw env [relativeMouse (.down button)])
      release env pressed (waitGuarded env) button
      waitGuarded env
      clicks button count

def click (point : Point) (button : PointerButton) (count : Nat) : Act Point Unit := do
  moveTo env point
  waitGuarded env
  clicks env button count

/-- `press` and `drag` move and press with one call. -/
def pressAt (point : Point) (button : PointerButton) (held : Act Point Unit) :
    Act Point Unit := do
  let inputs := [← absoluteMouse env point, relativeMouse (.down button)]
  beginDispatch env
  let sent ← sendNative env inputs
  release env (inputResult sent inputs.length) held button

def press (point : Point) (button : PointerButton) (frames : Nat) : Act Point Unit :=
  pressAt env point button (guardedWait env frames)

def interpolate (origin target : Point) (durationMs : Nat) : Act Point Unit :=
  glide (moveTo env) (waitGuarded env) (interpolated env origin target durationMs)

def drag (origin target : Point) (durationMs : Nat) : Act Point Unit :=
  pressAt env origin .left (interpolate env origin target durationMs)

def perform : Action Point → Act Point Unit
  | .click point button count => click env point button count
  | .press point button frames => press env point button frames
  | .drag origin target durationMs => drag env origin target durationMs

/-! ## The pointer is yielded -/

variable {env} {scene : Scene Point}

/-- From a scene in which the pointer was yielded, an action leaves such a scene. -/
def Yields {α : Type} (act : Act Point α) : Prop :=
  ∀ scene : Scene Point, scene.Yielded → Leaves act scene (fun _ => Scene.Yielded) Scene.Yielded

def Free (scene : Scene Point) : Prop := scene.failing = false ∧ scene.Yielded

theorem Yields.bind {α β : Type} {act : Act Point α} {next : α → Act Point β}
    (hact : Yields act) (hnext : ∀ value, Yields (next value)) : Yields (act >>= next) :=
  fun scene h => .bind ((hact scene h).mono fun value scene h => hnext value scene h)

theorem Yields.attempt {α : Type} {act : Act Point α} (hact : Yields act) :
    Yields (attempt act) := by
  intro scene h
  refine ((hact scene h).attempt _).mono ?_
  intro result scene h
  cases result with
  | ok => exact h
  | error => exact h

theorem yields_ofExcept (result : Except Failure Unit) :
    Yields (MonadExcept.ofExcept result : Act Point Unit) := by
  intro scene h
  cases result with
  | ok => exact h
  | error => exact h

theorem yields_answer : Yields (answer env) := fun _ h => h

theorem yields_require (failure : Failure) : Yields (require failure env) := by
  refine yields_answer.bind fun accepted => ?_
  intro scene h
  change Leaves (if _ then _ else _) _ _ _
  split
  · exact h
  · exact h

theorem checkGuard_free (h : scene.Yielded) :
    Leaves checkGuard scene (fun _ => Free) Scene.Yielded := by
  unfold Leaves checkGuard
  cases hfails : scene.failing with
  | true => exact h
  | false => exact ⟨hfails, h⟩

theorem yields_checkGuard : Yields (checkGuard : Act Point Unit) :=
  fun _ h => (checkGuard_free h).mono fun _ _ h => h.2

theorem yields_guardedWait (frames : Nat) : Yields (guardedWait env frames) := by
  induction frames with
  | zero => exact yields_checkGuard
  | succ frames ih => exact yields_checkGuard.bind fun _ => .bind (fun _ h => h) fun _ => ih

theorem yields_waitGuarded : Yields (waitGuarded env) :=
  yields_answer.bind yields_guardedWait

theorem beginDispatch_free (h : scene.Yielded) :
    Leaves (beginDispatch env) scene (fun _ => Free) Scene.Yielded := by
  apply Leaves.bind
  change Leaves (if _ then _ else _) _ _ _
  split
  · exact .bind h
  · apply Leaves.bind
    refine Leaves.mono (checkGuard_free h) ?_
    intro _ scene h
    apply Leaves.bind
    change Leaves (if _ then _ else _) _ _ _
    split
    · exact h.2
    · exact h

theorem Free.submitAll (events : List (Event Point)) (accepted : Nat) (h : Free scene) :
    Free (submitAll events accepted scene) := by
  induction events generalizing accepted scene with
  | nil => exact h
  | cons event events ih =>
    refine ih _ ⟨h.1, yielded_cons h.2 rfl fun hfails => ?_⟩
    rw [h.1] at hfails
    cases hfails

theorem Free.called (h : Free scene) : Free { scene with calls := scene.calls + 1 } := h

theorem Free.sendRaw (h : Free scene) (events : List (Event Point)) :
    Leaves (sendRaw env events) scene (fun _ => Scene.Yielded) Scene.Yielded := by
  change Leaves (if _ then _ else _) _ _ _
  split
  · exact h.2
  · exact .bind (yields_ofExcept _ _ (h.called.submitAll events _).2)

theorem yields_release {held : Act Point Unit} (pressed : Except Failure Unit)
    (button : PointerButton) (hheld : Yields held) : Yields (release env pressed held button) := by
  cases pressed with
  | error failure => exact fun _ h => h
  | ok =>
    have hup : Yields (sendRaw env [relativeMouse (.up button)]) := fun scene h =>
      .bind (yields_ofExcept _ _ (yielded_cons h rfl fun _ => ⟨rfl, rfl⟩))
    exact hheld.attempt.bind fun _ => hup.attempt.bind fun _ =>
      (yields_ofExcept _).bind fun _ => yields_ofExcept _

theorem yields_absoluteMouse (point : Point) : Yields (absoluteMouse env point) :=
  (yields_require _).bind fun _ _ h => h

theorem yields_moveTo (point : Point) : Yields (moveTo env point) :=
  (yields_absoluteMouse point).bind fun _ _ h =>
    .bind ((beginDispatch_free h).mono fun _ _ h => h.sendRaw _)

theorem yields_clicks (button : PointerButton) (count : Nat) :
    Yields (clicks env button count) := by
  induction count with
  | zero => exact fun _ h => h
  | succ count ih =>
    intro scene h
    apply Leaves.bind
    refine (beginDispatch_free h).mono ?_
    intro _ scene h
    apply Leaves.bind
    refine ((h.sendRaw _).attempt _).mono ?_
    intro pressed scene h
    refine (yields_release pressed button yields_waitGuarded).bind
      (fun _ => yields_waitGuarded.bind fun _ => ih) scene ?_
    cases pressed with
    | ok => exact h
    | error => exact h

theorem yields_pressAt {held : Act Point Unit} (point : Point) (button : PointerButton)
    (hheld : Yields held) : Yields (pressAt env point button held) := by
  refine (yields_absoluteMouse point).bind fun movement scene h => ?_
  apply Leaves.bind
  refine (beginDispatch_free h).mono ?_
  intro _ scene h
  exact .bind (yields_release _ button hheld _ (h.called.submitAll _ _).2)

theorem yields_glide (points : List Point) :
    Yields (glide (moveTo env) (waitGuarded env) points) := by
  induction points with
  | nil => exact fun _ h => h
  | cons point points ih =>
    cases points with
    | nil => exact yields_moveTo point
    | cons next points =>
      exact (yields_moveTo point).bind fun _ => yields_waitGuarded.bind fun _ => ih

theorem yields_perform (action : Action Point) : Yields (perform env action) := by
  cases action with
  | click point button count =>
    exact (yields_moveTo point).bind fun _ => yields_waitGuarded.bind fun _ =>
      yields_clicks button count
  | press point button frames => exact yields_pressAt point button (yields_guardedWait frames)
  | drag origin target durationMs => exact yields_pressAt origin .left (yields_glide _)

end NexusCua.Windows.Pointer
