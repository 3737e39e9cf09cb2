import NexusCua.Runtime.GuardEffect
import NexusCua.Runtime.Lifecycle

/-!
# What a task's history says about it

The ghost state of a task is folded from the events it has reported: where it
stands in its life, what it still owes to the sessions and the artifact store,
the capture it is making, its use of the clipboard lane and the clipboard
reference it has issued.
-/

namespace NexusCua.Runtime

open NexusCua.Foundation NexusCua.Protocol

/-! ## Phases -/

/--
Where a task stands: a command between its admission and its return, a call of
`shutdown`, the expiration loop with the version it has seen and the deadlines
it has read, or the drop of the runtime.
-/
inductive Phase where
  | idle
  | entered (command : Command)
  | admitted (command : Command)
  | running (command : Command)
  | left
  | guarding
  | rejecting
  | closing
  | sealed
  | taken
  | signalled
  | stopped
  | undiscovered
  | unlaunched
  | drained
  | finished
  | looping (seen : Nat)
  | reading (seen : Nat)
  | readSessions (seen : Nat) (sessions : Option Nat)
  | readDiscovery (seen : Nat) (sessions discovery : Option Nat)
  | waiting (seen : Nat) (sessions discovery launches : Option Nat)
  | reaping (seen now : Nat)
  | reapingDiscovery (seen now : Nat)
  | reapingLaunches (seen now : Nat)
  | cleaning (seen : Nat)
  | stopping
  | ended
  | dropping

namespace Phase

def letIn : Phase → Phase
  | .entered command => .admitted command
  | phase => phase

def ensure : Phase → Phase
  | .admitted command => .running command
  | phase => phase

def clearDiscovery : Phase → Phase
  | .stopped => .undiscovered
  | phase => phase

def clearLaunches : Phase → Phase
  | .undiscovered => .unlaunched
  | phase => phase

def readSignal (signal : Option SchedulerSignal) : Phase → Phase
  | .looping seen | .cleaning seen => if signal = some .shutdown then .stopping else .reading seen
  | phase => phase

def readSessionDeadline (sessions : Option Nat) : Phase → Phase
  | .reading seen => .readSessions seen sessions
  | phase => phase

def readDiscoveryDeadline (discovery : Option Nat) : Phase → Phase
  | .readSessions seen sessions => .readDiscovery seen sessions discovery
  | phase => phase

def readLaunchDeadline (launches : Option Nat) : Phase → Phase
  | .readDiscovery seen sessions discovery => .waiting seen sessions discovery launches
  | phase => phase

def wake : Wakeup → Phase → Phase
  | .due now, .waiting seen _ _ _ => .reaping seen now
  | .signalled version, _ => .looping version
  | _, phase => phase

def reapSessions : Phase → Phase
  | .reaping seen now => .reapingDiscovery seen now
  | phase => phase

def reapDiscovery : Phase → Phase
  | .reapingDiscovery seen now => .reapingLaunches seen now
  | phase => phase

def reapLaunches : Phase → Phase
  | .reapingLaunches seen _ => .cleaning seen
  | phase => phase

def next (phase : Phase) : RuntimeEvent → Phase
  | .entered command => .entered command
  | .sawClosed false => phase.letIn
  | .ensured => phase.ensure
  | .left => .left
  | .shutdownGuarded => .guarding
  | .closedSwapped already => if already then .rejecting else .closing
  | .lifecycleSealed => .sealed
  | .schedulerTaken found => if found then .taken else .stopped
  | .shutdownSent => .signalled
  | .loopJoined => .stopped
  | .discoveryCleared => phase.clearDiscovery
  | .launchesCleared => phase.clearLaunches
  | .sessionsDrained => .drained
  | .shutdownReturned => .finished
  | .shutdownDropped => .finished
  | .loopStarted => .looping 0
  | .signalRead signal => phase.readSignal signal
  | .sessionDeadline deadline => phase.readSessionDeadline deadline
  | .discoveryDeadline deadline => phase.readDiscoveryDeadline deadline
  | .launchDeadline deadline => phase.readLaunchDeadline deadline
  | .loopWoken wakeup => phase.wake wakeup
  | .sessionsReaped _ => phase.reapSessions
  | .discoveryReaped _ => phase.reapDiscovery
  | .launchesReaped _ => phase.reapLaunches
  | .loopStopped => .ended
  | .runtimeDropped => .dropping
  | _ => phase

def isInside : Phase → Bool
  | .entered _ | .admitted _ | .running _ => true
  | _ => false

def isSealing : Phase → Bool
  | .sealed | .taken | .signalled | .stopped | .undiscovered | .unlaunched | .drained => true
  | _ => false

/-- The task holds the guard of `shutdown`. -/
def isGuarding : Phase → Bool
  | .guarding | .rejecting | .closing => true
  | phase => phase.isSealing

/-- The task is a command or a call of `shutdown`, which borrows the runtime. -/
def isAttached (phase : Phase) : Bool :=
  match phase with
  | .left | .finished => true
  | phase => phase.isInside || phase.isGuarding

def isLoop : Phase → Bool
  | .looping _ | .reading _ | .readSessions _ _ | .readDiscovery _ _ _ | .waiting _ _ _ _
  | .reaping _ _ | .reapingDiscovery _ _ | .reapingLaunches _ _ | .cleaning _ | .stopping
  | .ended => true
  | _ => false

def command : Phase → Option Command
  | .entered command | .admitted command | .running command => some command
  | _ => none

end Phase

/-! ## Debts -/

/--
A session that is taken from the map but not closed yet, the two halves of the
removal of its artifacts, a file that is being written, and one that is
registered but whose session was not looked at since.
-/
inductive Hold where
  | closing (sessionId : SessionId)
  | removing (sessionId : SessionId)
  | clearing (sessionId : SessionId)
  | writing (sessionId : SessionId) (artifactRef : ArtifactRef)
  | registered (sessionId : SessionId)
  deriving DecidableEq, Repr

def Hold.close (sessionIds : List SessionId) : Hold → Hold
  | .closing sessionId => if sessionId ∈ sessionIds then .removing sessionId else .closing sessionId
  | hold => hold

def Hold.outlivesStore : Hold → Bool
  | .removing _ => false
  | _ => true

/-- An eviction shows that the session is in the index, so another task owes its removal. -/
def nextHolds (held : List Hold) : RuntimeEvent → List Hold
  | .guard sessionId (.sawClosed false) => held.filter (· ≠ .registered sessionId)
  | .unmapped sessionIds => held ++ sessionIds.map .closing
  | .sessionsAbandoned sessionIds => held ++ sessionIds.map .closing
  | .closeCalled sessionIds => held.map (Hold.close sessionIds)
  | .fileCreated sessionId artifactRef => .writing sessionId artifactRef :: held
  | .fileWritten sessionId artifactRef false => held.filter (· ≠ .writing sessionId artifactRef)
  | .registered sessionId artifactRef evicted =>
      (if evicted.isNone then [.registered sessionId] else []) ++
        held.filter (· ≠ .writing sessionId artifactRef)
  | .indexRemoved sessionId => .clearing sessionId ::
      held.filter fun hold => hold ≠ .removing sessionId ∧ hold ≠ .registered sessionId
  | .directoryRemoved sessionId => held.filter (· ≠ .clearing sessionId)
  | .storeDropped => held.filter Hold.outlivesStore
  | _ => held

def nextCapture (capture : Option Capture) : RuntimeEvent → Option Capture
  | .captureStarted capture => some capture
  | .published _ _ => none
  | .returned _ _ => none
  | _ => capture

inductive Lane where
  | free
  | held
  | calling
  deriving DecidableEq, Repr

def Lane.next (lane : Lane) : RuntimeEvent → Lane
  | .clipboardLocked => .held
  | .clipboardUnlocked => .free
  | .clipboardReadCalled _ => .calling
  | .clipboardReadReturned _ => .held
  | .clipboardCalled _ _ => .calling
  | .clipboardReturned _ => .held
  | _ => lane

def nextIssued (issued : Option ClipboardRef) : RuntimeEvent → Option ClipboardRef
  | .clipboardIssued _ clipboardRef _ => some clipboardRef
  | _ => issued

/-! ## The ghost state -/

structure TaskView where
  phase : Phase
  holds : List Hold
  capture : Option Capture
  lane : Lane
  issued : Option ClipboardRef

namespace TaskView

def start : TaskView := ⟨.idle, [], none, .free, none⟩

def next (v : TaskView) (x : RuntimeEvent) : TaskView where
  phase := v.phase.next x
  holds := nextHolds v.holds x
  capture := nextCapture v.capture x
  lane := v.lane.next x
  issued := nextIssued v.issued x

end TaskView

def view (h : List RuntimeEvent) : TaskView := h.foldl TaskView.next .start

@[simp] theorem view_nil : view [] = .start := rfl

theorem view_append (h es : List RuntimeEvent) :
    view (h ++ es) = es.foldl TaskView.next (view h) := by
  simp [view]

section

variable (h : List RuntimeEvent)

theorem view_snoc (x : RuntimeEvent) :
    view (h ++ [x]) = (view h).next x := by
  simp [view]

abbrev phase (h : List RuntimeEvent) : Phase := (view h).phase

abbrev holds (h : List RuntimeEvent) : List Hold := (view h).holds

abbrev capturing (h : List RuntimeEvent) : Option Capture := (view h).capture

abbrev lane (h : List RuntimeEvent) : Lane := (view h).lane

theorem phase_snoc (x : RuntimeEvent) :
    phase (h ++ [x]) = (phase h).next x := congrArg TaskView.phase (view_snoc h x)

theorem holds_snoc (x : RuntimeEvent) :
    holds (h ++ [x]) = nextHolds (holds h) x := congrArg TaskView.holds (view_snoc h x)

theorem lane_snoc (x : RuntimeEvent) :
    lane (h ++ [x]) = (lane h).next x := congrArg TaskView.lane (view_snoc h x)

end

/-! ## Events that move a task -/

def RuntimeEvent.isControl : RuntimeEvent → Bool
  | .entered _ | .sawClosed _ | .ensured | .left | .shutdownGuarded | .closedSwapped _
  | .lifecycleSealed | .schedulerTaken _ | .shutdownSent | .loopJoined | .discoveryCleared
  | .launchesCleared | .sessionsDrained | .shutdownReturned | .shutdownDropped | .loopStarted
  | .signalRead _ | .sessionDeadline _ | .discoveryDeadline _ | .launchDeadline _ | .loopWoken _
  | .sessionsReaped _ | .discoveryReaped _ | .launchesReaped _ | .loopStopped
  | .runtimeDropped => true
  | _ => false

theorem Phase.next_of_not_isControl {x : RuntimeEvent} (hx : x.isControl = false) (phase : Phase) :
    phase.next x = phase := by
  cases x with
  | _ => first | rfl | contradiction

theorem phase_append_of_not_isControl {h es : List RuntimeEvent}
    (hes : ∀ x ∈ es, x.isControl = false) : phase (h ++ es) = phase h := by
  induction es generalizing h with
  | nil => simp
  | cons x es ih =>
      rw [List.append_cons, ih fun y hy => hes y (by simp [hy]), phase, view_snoc]
      exact Phase.next_of_not_isControl (hes x (by simp)) _

theorem Phase.command_next {phase : Phase} {x : RuntimeEvent} {command : Command}
    (hc : (phase.next x).command = some command) :
    x = .entered command ∨ phase.command = some command := by
  cases x with
  | entered other => exact .inl (congrArg _ (Option.some.inj hc))
  | sawClosed closed => cases closed <;> cases phase <;> exact .inr hc
  | closedSwapped already => cases already <;> contradiction
  | schedulerTaken found => cases found <;> contradiction
  | signalRead signal =>
      cases phase <;> first
        | exact .inr hc
        | (simp only [Phase.next, Phase.readSignal] at hc; split at hc <;> contradiction)
  | loopWoken wakeup => cases wakeup <;> cases phase <;> first | exact .inr hc | contradiction
  | _ => first | exact .inr hc | contradiction | (cases phase <;> exact .inr hc)

theorem entered_of_phase {h : List RuntimeEvent} {command : Command}
    (hc : (phase h).command = some command) : .entered command ∈ h := by
  induction h using List.reverseRecOn with
  | nil => contradiction
  | append_singleton h x ih =>
      rw [phase_snoc] at hc
      rcases Phase.command_next hc with rfl | hc
      · simp
      · exact List.mem_append_left _ (ih hc)

/-! ## The calls of the driver's mutating entry points -/

def RuntimeEvent.isCall : RuntimeEvent → Bool
  | .performCalled _ | .performReturned _ | .launchCalled _ | .launchReturned _
  | .clipboardCalled _ _ | .clipboardReturned _ => true
  | _ => false

def calls (h : List RuntimeEvent) : List RuntimeEvent := h.filter RuntimeEvent.isCall

@[simp] theorem calls_nil : calls [] = [] := rfl

theorem calls_append (h es : List RuntimeEvent) : calls (h ++ es) = calls h ++ calls es := by
  simp [calls]

/-! ## Events that leave the ghost state alone -/

def RuntimeEvent.isQuiet : RuntimeEvent → Bool
  | .sawClosed true | .schedulerLocked _ | .rescheduled | .guard _ _ | .opened _ | .rejected _
  | .resolved _ _ | .windowFound _ _ _ | .sessionClosed _ | .wallClock _ | .windowsRequested _ _
  | .consumed _ | .windowInvalidated _ _ | .sessionsListed _ | .applicationInvalidated _ _
  | .clockRead _ | .applicationsListed _ | .launchablesListed _ | .discovered _
  | .launchesDiscovered _ | .discoveryResolved _ _ _ | .launchResolved _ _ | .launchConsumed _
  | .clipboardTaken _ _ _ => true
  | _ => false

theorem TaskView.next_quiet {v : TaskView} (hv : v.holds = []) {x : RuntimeEvent}
    (hx : x.isQuiet = true) : v.next x = v := by
  obtain ⟨phase, holds, capture, lane, issued⟩ := v
  subst hv
  cases x with
  | guard sessionId event =>
      cases event with
      | sawClosed closed => cases closed <;> rfl
      | _ => rfl
  | sawClosed closed =>
      cases closed with
      | true => rfl
      | false => contradiction
  | _ => first | rfl | contradiction

theorem view_quiet {h : List RuntimeEvent} (hh : holds h = []) {es : List RuntimeEvent}
    (hes : ∀ x ∈ es, x.isQuiet = true) : view (h ++ es) = view h := by
  rw [view_append]
  induction es with
  | nil => rfl
  | cons x es ih =>
      rw [List.foldl_cons, TaskView.next_quiet hh (hes x (by simp))]
      exact ih fun y hy => hes y (by simp [hy])

theorem RuntimeEvent.not_isCall_of_isQuiet {x : RuntimeEvent} (hx : x.isQuiet = true) :
    x.isCall = false := by
  cases x with
  | sawClosed closed => rfl
  | _ => first | rfl | contradiction

theorem calls_quiet {h es : List RuntimeEvent} (hes : ∀ x ∈ es, x.isQuiet = true) :
    calls (h ++ es) = calls h := by
  have hnone : calls es = [] := List.filter_eq_nil_iff.mpr fun x hx => by
    simp [RuntimeEvent.not_isCall_of_isQuiet (hes x hx)]
  rw [calls_append, hnone, List.append_nil]

end NexusCua.Runtime
