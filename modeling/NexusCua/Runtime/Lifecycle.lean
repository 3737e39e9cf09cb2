import NexusCua.Runtime.Actions

/-!
# The runtime as a system

The admission of commands, shutdown, the expiration loop and the drop of the
runtime, and the runtime as a system of tasks: any commands from any hosts, the
loop, and the driver's own use of the guards it was handed.
-/

namespace NexusCua.Runtime

open NexusCua.Foundation NexusCua.Protocol

variable {χ α : Type}

/-! ## Execute -/

def enterLifecycle (command : Command) : RuntimeProgram χ Unit :=
  Async.atomic fun _ s =>
    if s.writer then none
    else some ({ s with readers := s.readers + 1 }, [.entered command], ())

def leaveLifecycle : RuntimeProgram χ Unit :=
  Async.atomic fun _ s => some ({ s with readers := s.readers - 1 }, [.left], ())

/-- What `execute` does with an error of a mutation: it was not dispatched unless it says so. -/
def notDispatchedByDefault (error : CuaError) : CuaError :=
  if error.mutationStatus = .notApplicable then error.withMutationStatus .notDispatched else error

namespace RuntimeService

variable (runtime : RuntimeService)

def runCommand : Command → RuntimeProgram CuaError CommandResult
  | .getCapabilities => runtime.getCapabilities
  | .getPermissionStatus => getPermissionStatus
  | .discoverApplications => runtime.discoverApplications
  | .discoverLaunchableApplications => runtime.discoverLaunchableApplications
  | .launchApplication input => (runtime.launchApplication input).mapError notDispatchedByDefault
  | .openSession manifest => runtime.openSession manifest
  | .closeSession sessionId => closeSession sessionId
  | .listApps sessionId => runtime.listApps sessionId
  | .listWindows input => runtime.listWindows input
  | .listDisplays sessionId => runtime.listDisplays sessionId
  | .observeWindow input => CommandResult.windowObserved <$> runtime.observeWindow input false
  | .observeApplicationScene input =>
      CommandResult.windowObserved <$> runtime.observeWindow input true
  | .observeDisplay input => runtime.observeDisplay input
  | .readClipboard sessionId => runtime.readClipboard sessionId
  | .writeClipboard input => (runtime.writeClipboard input).mapError notDispatchedByDefault
  | .performAction input => (runtime.performAction input).mapError notDispatchedByDefault
  | .reconcileMutation _ => .fail (publicError .unsupported
      "mutation reconciliation is provided by the request dispatcher" false
      (some "use_dispatcher_reconciliation"))
  | .verifyState input => verifyState input

/-- The gates in front of every command; their errors are returned as they are. -/
def executeAdmitted (command : Command) : RuntimeProgram CuaError CommandResult := do
  let closed ← Async.observe (fun s => .sawClosed s.closed) RuntimeState.closed
  if closed then .fail runtimeUnavailable
  else do
    Async.ofExcept (runtime.config.policy.authorize command)
    ensureScheduler
    runtime.runCommand command

/-- A command holds the lifecycle lock, shared with other commands, for all of its life. -/
def execute (command : Command) : RuntimeProgram χ (Except CuaError CommandResult) := do
  enterLifecycle command
  let outcome ← (runtime.executeAdmitted command).attempt
  leaveLifecycle
  Async.report (.returned command outcome)
  pure outcome

end RuntimeService

/-! ## Shutdown -/

def RuntimeReply.dropsFuture : RuntimeReply → Bool
  | .dropFuture => true
  | _ => false

/-- The host may drop the future of `shutdown` at an await, which releases what it holds. -/
def awaitUnlessDropped (release : RuntimeState → RuntimeState)
    (block : RuntimeState → Option (RuntimeState × List RuntimeEvent × α)) :
    RuntimeProgram Unit α := do
  let outcome ← Async.atomic fun reply s =>
    if reply.dropsFuture then some (release s, [.shutdownDropped], none)
    else (block s).map fun out => (out.1, out.2.1, some out.2.2)
  match outcome with
  | none => .fail ()
  | some value => pure value

namespace RuntimeState

def releaseGuard (s : RuntimeState) : RuntimeState := { s with shutdownLocked := false }

def releaseShutdown (s : RuntimeState) : RuntimeState :=
  { s with writer := false, shutdownLocked := false }

def takeScheduler (s : RuntimeState) : RuntimeState × Bool :=
  if s.schedulerPoisoned then (s, false)
  else ({ s with schedulerHeld := false }, s.schedulerHeld)

def sendShutdown (s : RuntimeState) : RuntimeState :=
  { s with scheduler := s.scheduler.map (·.send .shutdown) }

end RuntimeState

def sealLifecycle : RuntimeProgram Unit Unit :=
  awaitUnlessDropped RuntimeState.releaseGuard fun s =>
    if s.readers = 0 ∧ s.writer = false then
      some ({ s with writer := true }, [.lifecycleSealed], ())
    else none

def takeScheduler : RuntimeProgram χ Bool :=
  Async.atomic fun _ s =>
    some (s.takeScheduler.1, [.schedulerTaken s.takeScheduler.2], s.takeScheduler.2)

def stopLoopAndJoin : RuntimeProgram Unit Unit := do
  Async.atomic fun _ s => some (s.sendShutdown, [.shutdownSent], ())
  awaitUnlessDropped RuntimeState.releaseShutdown fun s =>
    if s.scheduler.any (·.stopped) then some (s, [.loopJoined], ()) else none

def stopScheduler (running : Bool) : RuntimeProgram Unit Unit :=
  if running then stopLoopAndJoin else pure ()

def clearDiscovery : RuntimeProgram Unit Unit :=
  awaitUnlessDropped RuntimeState.releaseShutdown fun s =>
    some (withDiscovery s ∅, [.discoveryCleared], ())

def clearLaunches : RuntimeProgram Unit Unit :=
  awaitUnlessDropped RuntimeState.releaseShutdown fun s =>
    some (withLaunchDiscovery s ∅, [.launchesCleared], ())

/-- The map drops its sessions; no command holds one any more, so each is closed. -/
def drainSessions : RuntimeProgram Unit (List SessionId) :=
  awaitUnlessDropped RuntimeState.releaseShutdown fun s =>
    some ((s.closeSessions s.sessions).unmap s.sessions,
      .sessionsDrained :: .unmapped s.sessions :: closingEvents s s.sessions, s.sessions)

/-- The part of `shutdown` that only the call which closed the runtime runs. -/
def cleanUp : RuntimeProgram Unit Unit := do
  sealLifecycle
  let running ← takeScheduler
  stopScheduler running
  clearDiscovery
  clearLaunches
  let sessionIds ← drainSessions
  removeAllArtifacts sessionIds
  Async.atomic fun _ s => some (s.releaseShutdown, [.shutdownReturned], ())

def shutdown : RuntimeProgram χ Unit := do
  Async.atomic fun _ s =>
    if s.shutdownLocked then none
    else some ({ s with shutdownLocked := true }, [.shutdownGuarded], ())
  let already ← Async.atomic fun _ s =>
    some ({ s with closed := true }, [.closedSwapped s.closed], s.closed)
  if already then Async.atomic fun _ s => some (s.releaseGuard, [.shutdownReturned], ())
  else do
    let _ ← cleanUp.attempt
    pure ()

/-! ## Expiration -/

def nearestOf (deadlines : List Nat) : Option Nat := deadlines.min?

namespace RuntimeState

def sessionDeadline (s : RuntimeState) : Option Nat :=
  nearestOf (s.sessions.filterMap fun sessionId =>
    (s.heap.lookup sessionId).map fun entry => entry.session.expiresAt)

def discoveryDeadline (s : RuntimeState) : Option Nat :=
  nearestOf (s.discovery.toList.map fun entry => entry.2.expiresAt)

def launchDeadline (s : RuntimeState) : Option Nat :=
  nearestOf (s.launchDiscovery.toList.map fun entry => entry.2.expiresAt)

def dueSessions (s : RuntimeState) (now : Nat) : List SessionId :=
  s.sessions.filter fun sessionId =>
    (s.heap.lookup sessionId).any fun entry => decide (entry.session.expiresAt ≤ now)

end RuntimeState

def nearestDeadlineOf (sessions discovery launches : Option Nat) : Option Nat :=
  nearestOf (sessions.toList ++ discovery.toList ++ launches.toList)

def nearestDeadline : RuntimeProgram χ (Option Nat) := do
  let sessions ← Async.observe (fun s => .sessionDeadline s.sessionDeadline)
    RuntimeState.sessionDeadline
  let discovery ← Async.observe (fun s => .discoveryDeadline s.discoveryDeadline)
    RuntimeState.discoveryDeadline
  let launches ← Async.observe (fun s => .launchDeadline s.launchDeadline)
    RuntimeState.launchDeadline
  pure (nearestDeadlineOf sessions discovery launches)

def reapDue (now : Nat) : RuntimeProgram χ Unit := do
  let expired ← Async.atomic fun _ s =>
    let expired := s.dueSessions now
    some ((s.closeSessions expired).unmap expired,
      .sessionsReaped now :: .unmapped expired :: closingEvents s expired, expired)
  Async.atomic fun _ s =>
    some (withDiscovery s (s.discovery.retain fun _ record => decide (now < record.expiresAt)),
      [.discoveryReaped now], ())
  Async.atomic fun _ s =>
    some (withLaunchDiscovery s
      (s.launchDiscovery.retain fun _ record => decide (now < record.expiresAt)),
      [.launchesReaped now], ())
  removeAllArtifacts expired

/-- When both branches of the `select!` below are ready, the environment picks one. -/
def RuntimeReply.picksSignal : RuntimeReply → Bool
  | .none => true
  | _ => false

/-- `select!` between the deadline and a value that the receiver has not seen. -/
def awaitWakeup (deadline : Option Nat) (seen : Nat) : RuntimeProgram χ Wakeup :=
  Async.atomic fun reply s =>
    match s.scheduler with
    | none => none
    | some scheduler =>
        if scheduler.version ≠ seen ∧ reply.picksSignal then
          some (s, [.loopWoken (.signalled scheduler.version)], .signalled scheduler.version)
        else if deadline.any fun deadline => decide (deadline ≤ s.now) then
          some (s, [.loopWoken (.due s.now)], .due s.now)
        else none

def RuntimeState.stopLoop (s : RuntimeState) : RuntimeState :=
  { s with scheduler := s.scheduler.map fun scheduler => { scheduler with stopped := true } }

def stopLoop : RuntimeProgram χ Unit :=
  Async.atomic fun _ s => some (s.stopLoop, [.loopStopped], ())

def RuntimeState.signal (s : RuntimeState) : Option SchedulerSignal :=
  s.scheduler.map ExpirationScheduler.signal

/-- `rounds` bounds the iterations of the loop, which has no bound of its own. -/
def expirationLoop (seen : Nat) : Nat → RuntimeProgram χ Unit
  | 0 => Async.atomic fun _ _ => none
  | rounds + 1 => do
      let signal ← Async.observe (fun s => .signalRead s.signal) RuntimeState.signal
      if signal = some .shutdown then stopLoop
      else do
        let deadline ← nearestDeadline
        let wakeup ← awaitWakeup deadline seen
        match wakeup with
        | .due now => do
            reapDue now
            expirationLoop seen rounds
        | .signalled version => expirationLoop version rounds

/-- The task that `ensure_scheduler` spawned starts to run. -/
def expirationTask (rounds : Nat) : RuntimeProgram χ Unit := do
  Async.atomic fun _ s =>
    match s.scheduler with
    | none => none
    | some scheduler =>
        if scheduler.claimed then none
        else some ({ s with scheduler := some { scheduler with claimed := true } },
          [.loopStarted], ())
  expirationLoop 0 rounds

/-! ## The drop of the runtime -/

/-- `Drop`: the runtime is closed, and a loop that runs is told to stop. -/
def RuntimeState.dropRuntime (s : RuntimeState) : RuntimeState :=
  let s := { s with dropped := true, closed := true }
  if s.schedulerPoisoned || !s.schedulerHeld then s
  else { s.sendShutdown with schedulerHeld := false }

def closeAbandoned : List SessionId → RuntimeProgram χ Unit
  | [] => pure ()
  | sessionId :: rest => do
      Async.atomic fun _ s =>
        some (s.closeSession sessionId, closingEvents s [sessionId], ())
      closeAbandoned rest

/--
The fields of the runtime.  A map lives on while the loop holds it; every session
is dropped at last, wherever it was held, and `Drop` closes it; the store's own
`Drop` removes its directory.
-/
def dropFields : RuntimeProgram χ Unit := do
  Async.atomic fun _ s => some (withDiscovery s ∅, [.discoveryCleared], ())
  Async.atomic fun _ s => some (withLaunchDiscovery s ∅, [.launchesCleared], ())
  let sessionIds ← Async.atomic fun _ s =>
    let sessionIds := s.heap.toList.map Prod.fst
    some ({ s with sessions := [] }, [.sessionsAbandoned sessionIds], sessionIds)
  closeAbandoned sessionIds
  Async.atomic fun _ s => some ({ s with store := .empty }, [.storeDropped], ())

/--
The futures of all commands are gone before the runtime is dropped, and its
fields go after that.
-/
def dropRuntime : RuntimeProgram χ Unit := do
  Async.atomic fun _ s => if s.dropped then none else some (s.dropRuntime, [.runtimeDropped], ())
  dropFields

/-! ## The system -/

def GuardCall.byDriver : GuardCall → Bool
  | .actionGuard => false
  | .close => false
  | _ => true

inductive RuntimeCall where
  | execute (command : Command)
  | shutdown
  | expiration (rounds : Nat)
  | drop
  | driverGuard (sessionId : SessionId) (call : GuardCall)
  deriving DecidableEq, Repr

/-- Spawning the loop panics outside a tokio runtime, with the scheduler's mutex held. -/
inductive RuntimeLabel where
  | elapsed (duration : Nat)
  | schedulerPanicked
  deriving DecidableEq, Repr

namespace RuntimeService

variable (runtime : RuntimeService)

/-- The futures of commands and of `shutdown` borrow the runtime and do not outlive it. -/
def program : RuntimeCall → RuntimeProgram Empty Unit
  | .execute command => (do
      let _ ← runtime.execute command
      pure () : RuntimeProgram Empty Unit).whenever fun s => !s.dropped
  | .shutdown => (shutdown : RuntimeProgram Empty Unit).whenever fun s => !s.dropped
  | .expiration rounds => expirationTask rounds
  | .drop => dropRuntime
  | .driverGuard sessionId call =>
      if call.byDriver then call.program.embed (guardEmbedding sessionId) else pure ()

def environment : RuntimeLabel → RuntimeState → Option RuntimeState
  | .elapsed duration, s => some { s with now := s.now + duration }
  | .schedulerPanicked, s =>
      if s.schedulerHeld then none else some { s with schedulerPoisoned := true }

def system : System RuntimeState RuntimeReply RuntimeEvent RuntimeCall RuntimeLabel where
  init s := ∃ now, s = .initial runtime now
  program := runtime.program
  environment := environment

end RuntimeService

/-! ## A small runtime -/

/-- A runtime without policy layers and with room for one artifact a session. -/
def exampleRuntime : RuntimeService where
  config :=
    { maxSessionTtl := 3600 * second
      discoveryTtl := 30 * second
      maxObservationAge := 60 * second
      maxObservationsPerSession := 4
      maxActiveSessions := 2
      maxDiscoveredApplications := 4
      maxDiscoveryRecords := 8
      maxDiscoveredLaunchableApplications := 4
      maxLaunchDiscoveryRecords := 8
      maxElementsPerObservation := 8
      maxDisplaysPerSession := 2
      maxImageEdge := 16
      maxImagePixels := 64
      maxArtifactsPerSession := 1
      maxArtifactWorkers := 1
      maxClipboardTextBytes := 16
      policy := ⟨none, none⟩ }
  accepted := by constructor <;> decide
  epoch := "epoch"
  artifactRoot := "/artifacts"
  uuids := .tally
  codec := .plain
  sha256 _ := "digest"

def play (task : Nat) (replies : List RuntimeReply) :
    List (Move RuntimeReply RuntimeCall RuntimeLabel) :=
  replies.map (.run task)

end NexusCua.Runtime
