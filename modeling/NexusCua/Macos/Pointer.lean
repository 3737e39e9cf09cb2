import NexusCua.Platform.Pointer

/-!
# Clicks, presses and drags on macOS

Every mouse event carries a location.  `press` and `drag` ask where the pointer is before
they release the button after a failure; `click` has made its release beforehand, at the
point of the click, and posts it there.
-/

namespace NexusCua.Macos.Pointer

open NexusCua.Protocol (PointerButton)
open NexusCua.Platform.Pointer

variable {Point : Type} (env : Surroundings Point)

def mouseEvent (kind : Kind) (point : Point) : Act Point (Event Point) := do
  require .event env
  return ⟨kind, some point⟩

def postCleanup (event : Event Point) : Act Point Unit :=
  fun scene => .ok () (submit true event scene)

/-- `DriverActionGuard::begin_dispatch` may also refuse for want of quiet. -/
def post (event : Event Point) : Act Point Unit := do
  checkGuard
  require .dispatch env
  postCleanup event

def clickEvents (point : Point) (button : PointerButton) :
    Nat → Act Point (List (Event Point × Event Point))
  | 0 => pure []
  | count + 1 => do
      let down ← mouseEvent env (.down button) point
      let up ← mouseEvent env (.up button) point
      let events ← clickEvents point button count
      return (down, up) :: events

def postClicks : List (Event Point × Event Point) → Act Point Unit
  | [] => pure ()
  | (down, up) :: events => do
      post env down
      sleep env
      postCleanup up
      sleep env
      postClicks events

def click (point : Point) (button : PointerButton) (count : Nat) : Act Point Unit := do
  let movement ← mouseEvent env .moved point
  let events ← clickEvents env point button count
  post env movement
  sleep env
  postClicks env events

/-- `location` of a new event, or what is to be taken when there is none. -/
def currentOr (point : Point) : Act Point Point :=
  fun scene => .ok (if env.located then scene.pointer else point) scene

/--
The end of `press` and `drag`: after what is done with the button held, it is released at
`done`, and after a failure where the pointer is, or else at `stored`.
-/
def release (held : Act Point Unit) (button : PointerButton) (done stored : Point) :
    Act Point Unit := do
  let result ← attempt held
  let releaseAt ← match result with
    | .ok _ => pure done
    | .error _ => currentOr env stored
  postCleanup ⟨.up button, some releaseAt⟩
  MonadExcept.ofExcept result

def press (point : Point) (button : PointerButton) (frames : Nat) : Act Point Unit := do
  let down ← mouseEvent env (.down button) point
  let _up ← mouseEvent env (.up button) point
  post env down
  release env (guardedWait env frames) button point point

def dragTo (point : Point) : Act Point Unit := do
  post env (← mouseEvent env .dragged point)

def interpolateMouse (origin target : Point) (durationMs : Nat) : Act Point Unit :=
  glide (dragTo env) (sleep env) (interpolated env origin target durationMs)

def drag (origin target : Point) (durationMs : Nat) : Act Point Unit := do
  let movement ← mouseEvent env .moved origin
  let down ← mouseEvent env (.down .left) origin
  let _up ← mouseEvent env (.up .left) origin
  post env movement
  post env down
  release env (interpolateMouse env origin target durationMs) .left target origin

def perform : Action Point → Act Point Unit
  | .click point button count => click env point button count
  | .press point button frames => press env point button frames
  | .drag origin target durationMs => drag env origin target durationMs

/-! ## Where the takeover finds the pointer -/

section Takeover

variable (turns : Nat → Turn Point)

/-- The guard starts to fail in the hold of a click, not in the gap after it. -/
def clickTakeover (point : Point) : Nat → Nat → Option Point
  | 0, _ => none
  | count + 1, waits =>
      if (turns waits).takeover then some ((turns waits).hand.getD point)
      else if (turns (waits + 1)).takeover then none
      else clickTakeover point count (waits + 2)

def holdTakeover : Nat → Nat → Point → Option Point
  | 0, _, _ => none
  | frames + 1, waits, here =>
      if (turns waits).takeover then some ((turns waits).hand.getD here)
      else holdTakeover frames (waits + 1) ((turns waits).hand.getD here)

def glideTakeover : List Point → Nat → Option Point
  | point :: next :: points, waits =>
      if (turns waits).takeover then some ((turns waits).hand.getD point)
      else glideTakeover (next :: points) (waits + 1)
  | _, _ => none

end Takeover

/-- Where the user has the pointer when the guard starts to fail with the button held. -/
def heldTakeover : Action Point → Option Point
  | .click point _ count =>
      if (env.turns 0).takeover then none else clickTakeover env.turns point count 1
  | .press point _ frames => holdTakeover env.turns frames 0 point
  | .drag origin target durationMs =>
      glideTakeover env.turns (interpolated env origin target durationMs) 0

def releasePoint : Action Point → Bool × Point
  | .click point _ _ => (false, point)
  | .press point _ _ => (env.located, point)
  | .drag origin _ _ => (env.located, origin)

/-- What the release of an action needs of the user, or of `CGEvent::new`. -/
def Rests (action : Action Point) : Prop :=
  ∀ here, heldTakeover env action = some here →
    (releasePoint env action).1 = true ∨ here = (releasePoint env action).2

/-! ## A release that yields -/

variable {env} {scene : Scene Point} {waits : Nat} {here : Point}
  {E : Scene Point → Prop}

section Steps

variable (hE : Permits env E)
include hE

theorem mouseEvent_then {α : Type} {kind : Kind} {point : Point}
    {next : Event Point → Act Point α} {Q : α → Scene Point → Prop} (h : Held waits here scene)
    (hnext : ∀ scene, Held waits here scene → Leaves (next ⟨kind, some point⟩) scene Q E) :
    Leaves (mouseEvent env kind point >>= next) scene Q E :=
  .bind (.bind ((h.require hE _).mono fun _ scene h => hnext scene h))

theorem post_held (h : Held waits here scene) (event : Event Point) :
    Leaves (post env event) scene (fun _ => Held waits (event.location.getD here)) E :=
  .bind (h.checkGuard.mono fun _ _ h =>
    .bind ((h.require hE _).mono fun _ _ h => h.submit true event))

theorem clickEvents_held (point : Point) (button : PointerButton) (count : Nat)
    (h : Held waits here scene) :
    Leaves (clickEvents env point button count) scene
      (fun events scene =>
        events = List.replicate count (⟨.down button, some point⟩, ⟨.up button, some point⟩) ∧
          Held waits here scene) E := by
  induction count generalizing scene with
  | zero => exact ⟨rfl, h⟩
  | succ count ih =>
    refine mouseEvent_then hE h fun scene h => ?_
    refine mouseEvent_then hE h fun scene h => ?_
    apply Leaves.bind
    refine (ih h).mono ?_
    rintro _ scene ⟨rfl, h⟩
    exact ⟨rfl, h⟩

theorem dragTo_held (point : Point) (h : Held waits here scene) :
    Leaves (dragTo env point) scene (fun _ => Held waits point) E := by
  refine mouseEvent_then hE h fun scene h => ?_
  exact post_held hE h _

/-! ### Up to the hold -/

variable {Q : Unit → Scene Point → Prop}

theorem click_of_clicks {point : Point} {button : PointerButton} {count : Nat}
    (h : Held 0 here scene)
    (hclicks : ∀ scene, (if (env.turns 0).takeover then Taken ((env.turns 0).hand.getD point) scene
        else Held 1 ((env.turns 0).hand.getD point) scene) →
      Leaves (postClicks env
        (List.replicate count (⟨.down button, some point⟩, ⟨.up button, some point⟩))) scene Q E) :
    Leaves (click env point button count) scene Q E := by
  refine mouseEvent_then hE h fun scene h => ?_
  apply Leaves.bind
  refine (clickEvents_held hE point button count h).mono ?_
  rintro _ scene ⟨rfl, h⟩
  refine .bind ((post_held hE h _).mono fun _ scene h => ?_)
  exact hclicks _ (h.turn env)

theorem press_of_release {point : Point} {button : PointerButton} {frames : Nat}
    (h : Held 0 here scene)
    (hrelease : ∀ scene, Held 0 point scene →
      Leaves (release env (guardedWait env frames) button point point) scene Q E) :
    Leaves (press env point button frames) scene Q E := by
  refine mouseEvent_then hE h fun scene h => ?_
  refine mouseEvent_then hE h fun scene h => ?_
  refine .bind ((post_held hE h _).mono fun _ scene h => ?_)
  exact hrelease scene h

theorem drag_of_release {origin target : Point} {durationMs : Nat} (h : Held 0 here scene)
    (hrelease : ∀ scene, Held 0 origin scene →
      Leaves (release env (interpolateMouse env origin target durationMs) .left target origin)
        scene Q E) :
    Leaves (drag env origin target durationMs) scene Q E := by
  refine mouseEvent_then hE h fun scene h => ?_
  refine mouseEvent_then hE h fun scene h => ?_
  refine mouseEvent_then hE h fun scene h => ?_
  refine .bind ((post_held hE h _).mono fun _ scene h => ?_)
  refine .bind ((post_held hE h _).mono fun _ scene h => ?_)
  exact hrelease scene h

end Steps

/-! ### After the takeover -/

section Stopped

variable (hE : ∀ scene, Taken here scene → E scene) (h : Taken here scene)
include hE h

theorem post_taken (event : Event Point) (Q : Unit → Scene Point → Prop) :
    Leaves (post env event) scene Q E :=
  .bind (h.checkGuard hE _)

theorem dragTo_taken (point : Point) (Q : Unit → Scene Point → Prop) :
    Leaves (dragTo env point) scene Q E := by
  apply Leaves.bind
  apply Leaves.bind
  refine (h.require hE _).mono ?_
  intro _ scene h
  exact post_taken hE h _ _

theorem glide_taken (next : Point) (points : List Point) (Q : Unit → Scene Point → Prop) :
    Leaves (glide (dragTo env) (sleep env) (next :: points)) scene Q E := by
  cases points with
  | nil => exact dragTo_taken hE h next Q
  | cons point points => exact .bind (dragTo_taken hE h next _)

end Stopped

/-! ### Holding the button -/

/-- The failures of `act` are those of the guard, where native calls do not fail. -/
def Holds (env : Surroundings Point) (act : Act Point Unit) (taken : Option Point)
    (scene : Scene Point) : Prop :=
  ∀ E : Scene Point → Prop, Permits env E →
    (∀ here scene, taken = some here → Taken here scene → E scene) →
    Leaves act scene (fun _ scene => taken = none ∧ ∃ waits here, Held waits here scene) E

theorem guardedWait_holds (frames : Nat) (h : Held waits here scene) :
    Holds env (guardedWait env frames) (holdTakeover env.turns frames waits here) scene := by
  intro E hpermits hE
  induction frames generalizing scene waits here with
  | zero => exact h.checkGuard.mono fun _ _ h => ⟨rfl, _, _, h⟩
  | succ frames ih =>
    apply Leaves.bind
    refine h.checkGuard.mono ?_
    intro _ scene h
    have hturn := h.turn env
    rw [holdTakeover] at hE ⊢
    change Leaves (guardedWait env frames) _ _ _
    split at hturn
    case isTrue htaken =>
      rw [if_pos htaken] at hE
      exact guardedWait_taken hturn (fun scene h => hE _ scene rfl h) frames _
    case isFalse htaken =>
      rw [if_neg htaken] at hE ⊢
      exact ih hturn hE

theorem glide_holds (points : List Point) (h : Held waits here scene) :
    Holds env (glide (dragTo env) (sleep env) points)
      (glideTakeover env.turns points waits) scene := by
  intro E hpermits hE
  induction points generalizing scene waits here with
  | nil => exact ⟨rfl, _, _, h⟩
  | cons point points ih =>
    cases points with
    | nil => exact (dragTo_held hpermits point h).mono fun _ _ h => ⟨rfl, _, _, h⟩
    | cons next points =>
      apply Leaves.bind
      refine (dragTo_held hpermits point h).mono ?_
      intro _ scene h
      have hturn := h.turn env
      rw [glideTakeover] at hE ⊢
      change Leaves (glide _ _ (next :: points)) _ _ _
      split at hturn
      case isTrue htaken =>
        rw [if_pos htaken] at hE
        exact glide_taken (fun scene h => hE _ scene rfl h) hturn next points _
      case isFalse htaken =>
        rw [if_neg htaken] at hE ⊢
        exact ih hturn hE

/-! ### Releasing it -/

/-- An action ends with `P`, also when it fails. -/
def Ends (P : Scene Point → Prop) (act : Act Point Unit) (scene : Scene Point) : Prop :=
  Leaves act scene (fun _ => P) P

variable {P : Scene Point → Prop}

theorem postClicks_failing (hfails : scene.failing = true)
    (h : P scene) (events : List (Event Point × Event Point)) :
    Ends P (postClicks env events) scene := by
  cases events with
  | nil => exact h
  | cons event events =>
    apply Leaves.bind
    apply Leaves.bind
    simp only [Leaves, checkGuard, hfails]
    exact h

/-- The clicks end with `P` when the release of a hold that was taken over does. -/
theorem postClicks_ends {point : Point} (button : PointerButton)
    (count : Nat) (hpermits : Permits env P) (h : Held waits here scene)
    (hnone : clickTakeover env.turns point count waits = none →
      ∀ scene, Scene.Yielded scene → P scene)
    (hsome : ∀ here scene, clickTakeover env.turns point count waits = some here →
      Taken here scene → ∀ turn, P ((submit true ⟨.up button, some point⟩ scene).turn turn)) :
    Ends P (postClicks env
      (List.replicate count (⟨.down button, some point⟩, ⟨.up button, some point⟩))) scene := by
  induction count generalizing scene waits here with
  | zero => exact hnone rfl scene h.yielded
  | succ count ih =>
    apply Leaves.bind
    refine (post_held hpermits h _).mono ?_
    intro _ scene h
    have hhold := h.turn env
    rw [clickTakeover] at hnone hsome
    -- The hold, the release and the gap cannot fail.
    change Ends P (postClicks env _) _
    split at hhold
    case isTrue htaken =>
      rw [if_pos htaken] at hsome
      refine postClicks_failing ?_ (hsome _ _ rfl hhold _) _
      simp [Scene.turn, submit, htaken, h.waits_eq]
    case isFalse htaken =>
      rw [if_neg htaken] at hnone hsome
      have hgap := (hhold.submit true ⟨.up button, some point⟩).turn env
      split at hgap
      case isTrue hgone =>
        rw [if_pos hgone] at hnone
        exact postClicks_failing hgap.fails (hnone rfl _ hgap.yielded) _
      case isFalse hgone =>
        rw [if_neg hgone] at hnone hsome
        exact ih hgap hnone hsome

/-- `press` and `drag` end with `P` when the release of a hold that was taken over does. -/
theorem release_ends {act : Act Point Unit} {button : PointerButton}
    {done stored : Point} {taken : Option Point} (hact : Holds env act taken scene)
    (hpermits : Permits env P) (hnone : taken = none → ∀ scene, Scene.Yielded scene → P scene)
    (hsome : ∀ here scene, taken = some here → Taken here scene →
      P (submit true ⟨.up button, some (if env.located then here else stored)⟩ scene)) :
    Ends P (release env act button done stored) scene := by
  have hresult := hact
    (fun scene => (∃ here, taken = some here ∧ Taken here scene) ∨
      (∀ waits here scene, Held waits here scene → P scene) ∧ ∃ waits here, Held waits here scene)
    (hpermits.imp_right fun hheld _ _ _ h => .inr ⟨hheld, _, _, h⟩)
    fun here _ htaken h => .inl ⟨here, htaken, h⟩
  apply Leaves.bind
  refine (hresult.attempt _).mono ?_
  intro result scene h
  cases result with
  | ok =>
    obtain ⟨htaken, waits, here, h⟩ := h
    exact hnone htaken _ (h.submit true _).yielded
  | error failure =>
    obtain ⟨here, htaken, h⟩ | ⟨hheld, waits, here, h⟩ := h
    · have hreleased := hsome here scene htaken h
      rw [← h.pointer_eq] at hreleased
      exact hreleased
    · exact hheld _ _ _ (h.submit true _)

variable {action : Action Point}

theorem perform_ends (hpermits : Permits env P)
    (h : Held 0 here scene)
    (hnone : heldTakeover env action = none → ∀ scene, Scene.Yielded scene → P scene)
    (hsome : ∀ here scene button, heldTakeover env action = some here → Taken here scene →
      P (submit true ⟨.up button, some
        (if (releasePoint env action).1 then here else (releasePoint env action).2)⟩ scene))
    (hturn : ∀ scene turn, P scene → P (scene.turn turn)) :
    Ends P (perform env action) scene := by
  cases action with
  | click point button count =>
    refine click_of_clicks hpermits h fun scene hpause => ?_
    rw [heldTakeover] at hnone hsome
    split at hpause
    case isTrue hgone =>
      rw [if_pos hgone] at hnone
      exact postClicks_failing hpause.fails (hnone rfl _ hpause.yielded) _
    case isFalse hgone =>
      rw [if_neg hgone] at hnone hsome
      exact postClicks_ends button count hpermits hpause hnone fun here scene htaken h turn =>
        hturn _ turn (hsome here scene button htaken h)
  | press point button frames =>
    exact press_of_release hpermits h fun scene h =>
      release_ends (guardedWait_holds frames h) hpermits hnone fun here scene => hsome here scene _
  | drag origin target durationMs =>
    exact drag_of_release hpermits h fun scene h =>
      release_ends (glide_holds _ h) hpermits hnone fun here scene => hsome here scene _

theorem perform_yields (h : Held 0 here scene)
    (hrests : Rests env action) : Ends Scene.Yielded (perform env action) scene := by
  refine perform_ends (.inr fun _ _ _ h => h.yielded) h (fun _ _ h => h) ?_ fun _ _ h => h
  intro here scene button htaken h
  refine (h.submit true rfl ?_).yielded
  split
  · rfl
  · next hlost => exact ((hrests here htaken).resolve_left hlost).symm

theorem perform_spoils (hok : ∀ call, env.answers call ≠ 0)
    (h : Held 0 here scene) (hrests : ¬ Rests env action) :
    Ends (fun scene => ¬ scene.Yielded) (perform env action) scene := by
  obtain ⟨lost, hrests⟩ := not_forall.mp hrests
  obtain ⟨hlost, hrests⟩ := Classical.not_imp.mp hrests
  obtain ⟨hblind, hmoved⟩ := not_or.mp hrests
  refine perform_ends (.inl hok) h (fun hnone => ?_) ?_ fun _ _ h => h
  · rw [hlost] at hnone
    cases hnone
  · intro here scene button htaken h hyielded
    obtain rfl : lost = here := Option.some.inj (hlost.symm.trans htaken)
    have hstays := (hyielded _ List.mem_cons_self h.fails).2
    rw [if_neg hblind] at hstays
    exact hmoved (h.pointer_eq.symm.trans hstays.symm)

end NexusCua.Macos.Pointer
