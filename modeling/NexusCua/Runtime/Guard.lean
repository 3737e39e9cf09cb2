import NexusCua.Foundation.Pool
import NexusCua.Foundation.Table
import NexusCua.Runtime.Error

/-!
# The driver action guard

One session's guard cell: the content-free input activity behind its mutex, the
lock-free interruption latch and closed flag, and the dispatch leases that the
clones of the session's guards share.  Instants and durations are nanoseconds.

Each operation is a program whose blocks are the single atomic accesses of the
source, or the accesses made under the activity mutex.  An operation borrows the
guard it is called on for as long as it runs.
-/

namespace NexusCua.Runtime

open NexusCua.Foundation NexusCua.Protocol

def inputQuietPeriod : Nat := 2 * second

def inputWaitLimit : Nat := 5 * second

/-! ## Input activity -/

structure InputActivity where
  lastInput : Option Nat
  inputHeld : Bool
  activeDispatches : Nat
  deriving DecidableEq, Repr

namespace InputActivity

def initial : InputActivity := ⟨none, false, 0⟩

def remainingQuiet (activity : InputActivity) (quietPeriod now : Nat) : Nat :=
  if activity.inputHeld then quietPeriod
  else
    match activity.lastInput with
    | none => 0
    | some last => quietPeriod - (now - last)

def checkObservation (activity : InputActivity) (observedAt : Option Nat) :
    Except DriverError Unit :=
  match observedAt, activity.lastInput with
  | some observed, some last =>
      if observed ≤ last then
        .error ((DriverError.new .staleObservation
          ("user input changed the desktop after this observation; " ++
            "observe again within the existing session")).retryableAfter
          "observe_window").mutationNotDispatched
      else .ok ()
  | _, _ => .ok ()

end InputActivity

/-! ## The guard cell -/

inductive InterruptionCause where
  | userInput
  | monitorLost
  deriving DecidableEq, Repr

/-- `clones` counts the owned guards, `borrows` the operations running on one. -/
structure DispatchLease where
  dispatched : Bool
  clones : Nat
  borrows : Nat
  deriving DecidableEq, Repr

inductive LeaseOwner where
  | clone
  | borrow
  deriving DecidableEq, Repr

namespace DispatchLease

def retain (lease : DispatchLease) : LeaseOwner → DispatchLease
  | .clone => { lease with clones := lease.clones + 1 }
  | .borrow => { lease with borrows := lease.borrows + 1 }

def owns (lease : DispatchLease) : LeaseOwner → Bool
  | .clone => lease.clones ≠ 0
  | .borrow => lease.borrows ≠ 0

def release (lease : DispatchLease) : LeaseOwner → DispatchLease
  | .clone => { lease with clones := lease.clones - 1 }
  | .borrow => { lease with borrows := lease.borrows - 1 }

end DispatchLease

structure GuardCell where
  now : Nat
  activity : InputActivity
  activityLocked : Bool
  interruption : Option InterruptionCause
  closed : Bool
  expiresAt : Nat
  leases : Table Nat DispatchLease
  nextLease : Nat

structure DriverActionGuard where
  lease : Nat
  observedAt : Option Nat
  deriving DecidableEq, Repr

inductive GuardCall where
  | actionGuard
  | clone (lease : Nat)
  | drop (lease : Nat)
  | recordUserInputState (guard : DriverActionGuard) (inputHeld : Bool)
  | recordInputReleased (guard : DriverActionGuard)
  | userTookOver (guard : DriverActionGuard)
  | activityMonitorFailed (guard : DriverActionGuard)
  | check (guard : DriverActionGuard)
  | beginDispatch (guard : DriverActionGuard)
  | waitUntilIdle (guard : DriverActionGuard) (polls : Nat)
  | close
  deriving DecidableEq, Repr

/-- What a block reports: the calls and their outcomes, and what was read or latched. -/
inductive GuardEvent where
  | invoked (call : GuardCall)
  | returned (call : GuardCall) (outcome : Except DriverError Unit)
  | locked (activity : InputActivity)
  | unlocked
  | sawClosed (closed : Bool)
  | sawExpired (expired : Bool)
  | sawInterruption (cause : Option InterruptionCause)
  | checkFailed (lease : Nat) (error : DriverError)
  | dispatched (guard : DriverActionGuard)
  | resumed (guard : DriverActionGuard)
  | inputRecorded (whileLive : Bool)
  | latched (cause : InterruptionCause)
  | retired (lease : Nat)

abbrev GuardProgram := Async GuardCell Unit GuardEvent DriverError

namespace DriverActionGuard

/-! ## Reading the cell -/

/-- The last load of a failing check: the lease's flag decides the disposition. -/
def failRevoked (guard : DriverActionGuard) (error : DriverError) : GuardProgram Unit := do
  let error ← Async.atomic fun _ s =>
    match s.leases.lookup guard.lease with
    | none => none
    | some lease =>
        let error := if lease.dispatched then error.mutationIndeterminate
          else error.mutationNotDispatched
        some (s, [.checkFailed guard.lease error], error)
  .fail error

def interruptionError : InterruptionCause → DriverError
  | .userInput =>
      { DriverError.new .userActive
          "user input took over this session; host authorization is required to resume" with
        recoveryAction := some "request_new_bounded_session" }
  | .monitorLost =>
      { DriverError.new .platform
          "user activity monitoring lost coverage; this session cannot resume" with
        recoveryAction := some "request_new_bounded_session" }

def isRevoked : GuardProgram Bool := do
  let closed ← Async.observe (fun s => .sawClosed s.closed) GuardCell.closed
  if closed then pure true
  else
    let expired (s : GuardCell) : Bool := decide (s.expiresAt ≤ s.now)
    Async.observe (fun s => .sawExpired (expired s)) expired

def check (guard : DriverActionGuard) : GuardProgram Unit := do
  let revoked ← isRevoked
  if revoked then
    failRevoked guard
      (DriverError.new .sessionUnavailable "action authority was closed or expired")
  else
    let interruption ← Async.observe (fun s => .sawInterruption s.interruption)
      GuardCell.interruption
    match interruption with
    | none => pure ()
    | some cause => failRevoked guard (interruptionError cause)

def remainingQuiet : GuardProgram Nat :=
  Async.atomic fun _ s =>
    if s.activityLocked then none
    else some (s, [], s.activity.remainingQuiet inputQuietPeriod s.now)

def checkObservation (guard : DriverActionGuard) : GuardProgram Unit := do
  let activity ← Async.atomic fun _ s =>
    if s.activityLocked then none else some (s, [], s.activity)
  Async.ofExcept (activity.checkObservation guard.observedAt)

def stillActive : DriverError :=
  ((DriverError.new .busy
    "user input is still active; wait for idle and obtain a fresh observation").retryableAfter
    "wait_for_idle_then_observe").mutationNotDispatched

/-- `polls` bounds the iterations of the loop; a call that never settles has no bound. -/
def waitForIdle (guard : DriverActionGuard) (deadline : Nat) : Nat → GuardProgram Unit
  | 0 => Async.atomic fun _ _ => none
  | polls + 1 => do
      check guard
      let remaining ← remainingQuiet
      if remaining = 0 then pure ()
      else
        let now ← Async.read GuardCell.now
        if deadline ≤ now then .fail stillActive
        else waitForIdle guard deadline polls

def waitUntilIdle (guard : DriverActionGuard) (polls : Nat) : GuardProgram Unit := do
  let now ← Async.read GuardCell.now
  waitForIdle guard (now + inputWaitLimit) polls

/-! ## Recording input -/

def latch (cause : InterruptionCause) : GuardProgram Unit :=
  Async.atomic fun _ s =>
    some ({ s with interruption := s.interruption.or (some cause) }, [.latched cause], ())

def unlock : GuardProgram Unit :=
  Async.atomic fun _ s => some ({ s with activityLocked := false }, [.unlocked], ())

def recordUserInput (inputHeld : Bool) : GuardProgram Unit := do
  let live ← Async.atomic fun _ s =>
    if s.activityLocked then none
    else
      let live := decide (s.activity.activeDispatches ≠ 0)
      let activity := { s.activity with lastInput := some s.now, inputHeld := inputHeld }
      some ({ s with activity := activity, activityLocked := true },
        [.locked activity, .inputRecorded live], live)
  if live then
    latch .userInput
    unlock
  else unlock

def recordReleased : GuardProgram Unit :=
  Async.atomic fun _ s =>
    if s.activityLocked then none
    else some ({ s with activity := { s.activity with inputHeld := false } }, [], ())

/-! ## Dispatch -/

def resumedInput : DriverError :=
  ((DriverError.new .busy
    "user input resumed before dispatch; wait for idle and observe again").retryableAfter
    "wait_for_idle_then_observe").mutationNotDispatched

def commitDispatch (s : GuardCell) (lease : Nat) : GuardCell :=
  { s with
    activity := { s.activity with activeDispatches := s.activity.activeDispatches + 1 }
    leases := s.leases.modify lease fun l => { l with dispatched := true } }

/--
The part of `begin_dispatch` after the check.  The activity mutex is held, so
the only outside change it could see is a later clock, which keeps it quiet.
-/
def admitDispatch (guard : DriverActionGuard) : GuardProgram (Except DriverError Unit) :=
  Async.atomic fun _ s =>
    match s.leases.lookup guard.lease with
    | none => none
    | some lease =>
        if lease.dispatched then some (s, [.resumed guard], .ok ())
        else
          match s.activity.checkObservation guard.observedAt with
          | .error error => some (s, [], .error error)
          | .ok () =>
              if s.activity.remainingQuiet inputQuietPeriod s.now ≠ 0 then
                some (s, [], .error resumedInput)
              else some (commitDispatch s guard.lease, [.dispatched guard], .ok ())

def lockActivity : GuardProgram Unit :=
  Async.atomic fun _ s =>
    if s.activityLocked then none
    else some ({ s with activityLocked := true }, [.locked s.activity], ())

def beginDispatch (guard : DriverActionGuard) : GuardProgram Unit := do
  lockActivity
  let checked ← (check guard).attempt
  match checked with
  | .error error =>
      unlock
      .fail error
  | .ok () =>
      let outcome ← admitDispatch guard
      unlock
      Async.ofExcept outcome

/-! ## Guard lifetimes -/

/-- `Drop` of the lease itself: a dispatched lease gives its dispatch back. -/
def dropLease (lease : Nat) : GuardProgram Unit :=
  Async.atomic fun _ s =>
    match s.leases.lookup lease with
    | none => none
    | some l =>
        if l.dispatched then
          if s.activityLocked then none
          else
            some ({ s with
              activity := { s.activity with
                activeDispatches := s.activity.activeDispatches - 1 }
              leases := s.leases.erase lease }, [.retired lease], ())
        else some ({ s with leases := s.leases.erase lease }, [], ())

def retainLease (lease : Nat) (owner : LeaseOwner) : GuardProgram Unit :=
  Async.atomic fun _ s =>
    match s.leases.lookup lease with
    | none => none
    | some l =>
        if l.clones = 0 ∧ l.borrows = 0 then none
        else some ({ s with leases := s.leases.modify lease (·.retain owner) }, [], ())

def releaseLease (lease : Nat) (owner : LeaseOwner) : GuardProgram Unit := do
  let last ← Async.atomic fun _ s =>
    match s.leases.lookup lease with
    | none => none
    | some l =>
        if l.owns owner then
          some ({ s with leases := s.leases.modify lease (·.release owner) }, [],
            decide ((l.release owner).clones = 0 ∧ (l.release owner).borrows = 0))
        else none
  if last then dropLease lease else pure ()

/-- Run an operation on a guard, which keeps the guard's lease alive meanwhile. -/
def borrowed (guard : DriverActionGuard) (operation : GuardProgram Unit) : GuardProgram Unit := do
  retainLease guard.lease .borrow
  let outcome ← operation.attempt
  releaseLease guard.lease .borrow
  Async.ofExcept outcome

end DriverActionGuard

/-! ## The guards of one session as a system -/

/-- `Session::action_guard`: a guard of its own lease, not yet dispatched. -/
def GuardCell.newLease (s : GuardCell) : GuardCell :=
  { s with
    leases := s.leases.insert s.nextLease ⟨false, 1, 0⟩
    nextLease := s.nextLease + 1 }

open DriverActionGuard in
def GuardCall.body : GuardCall → GuardProgram Unit
  | .actionGuard => Async.update fun s => (s.newLease, ())
  | .clone lease => retainLease lease .clone
  | .drop lease => releaseLease lease .clone
  | .recordUserInputState guard inputHeld => guard.borrowed (recordUserInput inputHeld)
  | .recordInputReleased guard => guard.borrowed recordReleased
  | .userTookOver guard => guard.borrowed (latch .userInput)
  | .activityMonitorFailed guard => guard.borrowed (latch .monitorLost)
  | .check guard => guard.borrowed guard.check
  | .beginDispatch guard => guard.borrowed guard.beginDispatch
  | .waitUntilIdle guard polls => guard.borrowed (guard.waitUntilIdle polls)
  | .close => Async.update fun s => ({ s with closed := true }, ())

def GuardCall.program (call : GuardCall) : Async GuardCell Unit GuardEvent Empty Unit := do
  Async.report (.invoked call)
  let outcome ← call.body.attempt
  Async.report (.returned call outcome)

/-- A session's cell as `open_session` creates it, at some instant and with some deadline. -/
def GuardCell.initial (now expiresAt : Nat) : GuardCell where
  now := now
  activity := .initial
  activityLocked := false
  interruption := none
  closed := false
  expiresAt := expiresAt
  leases := ∅
  nextLease := 0

def guardSystem : System GuardCell Unit GuardEvent GuardCall Nat where
  init s := ∃ now expiresAt, s = .initial now expiresAt
  program := GuardCall.program
  environment elapsed s := some { s with now := s.now + elapsed }

end NexusCua.Runtime
