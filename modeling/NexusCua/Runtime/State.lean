import NexusCua.Runtime.ArtifactStore
import NexusCua.Runtime.Discovery
import NexusCua.Runtime.Guard
import NexusCua.Runtime.Policy
import NexusCua.Runtime.Session

/-!
# The state of the runtime

Everything the commands of one runtime share: the session map, the sessions
themselves with their guard cells and tables, the discovery records, the
scheduler of expirations, the locks that are held across awaits, and the
artifact store.  A session outlives its entry in the map, as its `Arc` does.

A block of a command is what the source does while it holds one lock or makes
one atomic access.  What a driver, the clock on the wall or the file system
answers is a reply of the environment.
-/

namespace NexusCua.Runtime

open NexusCua.Foundation NexusCua.Protocol

/-! ## Configuration -/

structure RuntimeConfig where
  maxSessionTtl : Nat
  discoveryTtl : Nat
  maxObservationAge : Nat
  maxObservationsPerSession : Nat
  maxActiveSessions : Nat
  maxDiscoveredApplications : Nat
  maxDiscoveryRecords : Nat
  maxDiscoveredLaunchableApplications : Nat
  maxLaunchDiscoveryRecords : Nat
  maxElementsPerObservation : Nat
  maxDisplaysPerSession : Nat
  maxImageEdge : Nat
  maxImagePixels : Nat
  maxArtifactsPerSession : Nat
  maxArtifactWorkers : Nat
  maxClipboardTextBytes : Nat
  policy : RuntimePolicyStack
  deriving DecidableEq, Repr

def maxConfiguredClipboardTextBytes : Nat := 1024 * 1024

/-- The bounds that `Runtime::new` accepts. -/
structure RuntimeConfig.Accepted (config : RuntimeConfig) : Prop where
  maxSessionTtl_pos : 0 < config.maxSessionTtl
  discoveryTtl_pos : 0 < config.discoveryTtl
  discoveryTtl_le : config.discoveryTtl ≤ 30 * second
  maxObservationAge_pos : 0 < config.maxObservationAge
  maxObservationsPerSession_pos : 0 < config.maxObservationsPerSession
  maxActiveSessions_pos : 0 < config.maxActiveSessions
  maxDiscoveredApplications_pos : 0 < config.maxDiscoveredApplications
  maxDiscoveryRecords_pos : 0 < config.maxDiscoveryRecords
  maxDiscoveredApplications_le : config.maxDiscoveredApplications ≤ config.maxDiscoveryRecords
  maxDiscoveredLaunchable_pos : 0 < config.maxDiscoveredLaunchableApplications
  maxLaunchDiscoveryRecords_pos : 0 < config.maxLaunchDiscoveryRecords
  maxDiscoveredLaunchable_le :
    config.maxDiscoveredLaunchableApplications ≤ config.maxLaunchDiscoveryRecords
  maxElementsPerObservation_pos : 0 < config.maxElementsPerObservation
  maxDisplaysPerSession_pos : 0 < config.maxDisplaysPerSession
  maxImageEdge_pos : 0 < config.maxImageEdge
  maxImageEdge_le : config.maxImageEdge ≤ 4096
  maxImagePixels_pos : 0 < config.maxImagePixels
  maxArtifactsPerSession_pos : 0 < config.maxArtifactsPerSession
  maxArtifactWorkers_pos : 0 < config.maxArtifactWorkers
  maxClipboardTextBytes_pos : 0 < config.maxClipboardTextBytes
  maxClipboardTextBytes_le : config.maxClipboardTextBytes ≤ maxConfiguredClipboardTextBytes

/-- A runtime that `Runtime::new` has built, with the libraries it uses. -/
structure RuntimeService where
  config : RuntimeConfig
  accepted : config.Accepted
  epoch : String
  artifactRoot : String
  uuids : UuidSource
  codec : PngCodec
  sha256 : List UInt8 → String

/-! ## State -/

structure SessionEntry where
  session : Session
  guard : GuardCell
  state : SessionState

inductive SchedulerSignal where
  | reschedule
  | shutdown
  deriving DecidableEq, Repr

/--
The watch channel of the expiration scheduler, with the number of values sent,
and its task: not yet running, running or stopped.
-/
structure ExpirationScheduler where
  signal : SchedulerSignal
  version : Nat
  claimed : Bool
  stopped : Bool
  deriving DecidableEq, Repr

/--
`readers` and `writer` are the guards of the lifecycle lock that are held.
`schedulerHeld` says whether the scheduler's mutex holds the scheduler, and
`dropped` whether the runtime itself was dropped.
-/
structure RuntimeState where
  now : Nat
  issued : Nat
  dropped : Bool
  closed : Bool
  readers : Nat
  writer : Bool
  shutdownLocked : Bool
  scheduler : Option ExpirationScheduler
  schedulerHeld : Bool
  schedulerPoisoned : Bool
  discovery : Table DiscoveryRef DiscoveryRecord
  launchDiscovery : Table LaunchRef LaunchDiscoveryRecord
  sessions : List SessionId
  heap : Table SessionId SessionEntry
  foregroundLane : Bool
  clipboardLane : Bool
  artifactPermits : Nat
  store : ArtifactStore

namespace RuntimeState

def initial (runtime : RuntimeService) (now : Nat) : RuntimeState where
  now := now
  issued := 0
  dropped := false
  closed := false
  readers := 0
  writer := false
  shutdownLocked := false
  scheduler := none
  schedulerHeld := false
  schedulerPoisoned := false
  discovery := ∅
  launchDiscovery := ∅
  sessions := []
  heap := ∅
  foregroundLane := false
  clipboardLane := false
  artifactPermits := runtime.config.maxArtifactWorkers
  store := .empty

def modifySession (s : RuntimeState) (sessionId : SessionId)
    (f : SessionEntry → SessionEntry) : RuntimeState :=
  { s with heap := s.heap.modify sessionId f }

def modifyTables (s : RuntimeState) (sessionId : SessionId)
    (f : SessionState → SessionState) : RuntimeState :=
  s.modifySession sessionId fun entry => { entry with state := f entry.state }

/-- `Session::close` -/
def closeSession (s : RuntimeState) (sessionId : SessionId) : RuntimeState :=
  s.modifySession sessionId fun entry => { entry with guard := { entry.guard with closed := true } }

def closeSessions (s : RuntimeState) (sessionIds : List SessionId) : RuntimeState :=
  sessionIds.foldl closeSession s

def unmap (s : RuntimeState) (sessionIds : List SessionId) : RuntimeState :=
  { s with sessions := s.sessions.filter fun sessionId => !sessionIds.contains sessionId }

def isOpen (s : RuntimeState) (sessionId : SessionId) : Bool :=
  (s.heap.lookup sessionId).any fun entry => !entry.guard.closed

end RuntimeState

/-! ## Replies and events -/

inductive RuntimeReply where
  | none
  | dropFuture
  | polls (count : Nat)
  | wallClock (text : Option String)
  | storage (succeeds : Bool)
  | workerStopped
  | capabilities (outcome : Except DriverError DriverCapabilities)
  | permissionStatus (outcome : Except DriverError PermissionStatus)
  | applications (outcome : Except DriverError (List DriverApplication))
  | launchables (outcome : Except DriverError (List DriverLaunchableApplication))
  | launched (outcome : Except DriverError DriverLaunchOutput)
  | sessionStarted (outcome : Except DriverError Unit)
  | windows (outcome : Except DriverError (List DriverWindow))
  | displays (outcome : Except DriverError (List DriverDisplay))
  | displayObserved (outcome : Except DriverError (RgbaImage × ScreenRect))
  | windowObserved (outcome : Except DriverError DriverObservation)
  | clipboardRead (outcome : Except DriverError DriverClipboardSnapshot)
  | clipboardWritten (outcome : Except DriverError DriverClipboardWriteOutput)
  | observationCurrent (outcome : Except DriverError Bool)
  | actionPerformed (outcome : Except DriverError DriverActionOutput)
  | windowSettled (outcome : Except DriverError Unit)
  | stateVerified (outcome : Except DriverError DriverVerification)

structure ActionCall where
  input : PerformActionInput
  window : DriverWindow
  deriving DecidableEq, Repr

/-- One call of the driver's `perform_action_scoped`, with the instant it was made. -/
structure PerformCall where
  call : ActionCall
  action : DriverAction
  allowForeground : Bool
  restoreForeground : Bool
  guard : DriverActionGuard
  instant : Nat
  deriving DecidableEq, Repr

structure Capture where
  sessionId : SessionId
  windowRef : WindowRef
  application : DriverApplication
  startedAt : Nat
  deriving DecidableEq, Repr

inductive Wakeup where
  | due (now : Nat)
  | signalled (version : Nat)
  deriving DecidableEq, Repr

inductive RuntimeEvent where
  -- the life of a command
  | entered (command : Command)
  | sawClosed (closed : Bool)
  | schedulerLocked (poisoned : Bool)
  | ensured
  | rescheduled
  | left
  | returned (command : Command) (outcome : Except CuaError CommandResult)
  -- shutdown
  | shutdownGuarded
  | closedSwapped (already : Bool)
  | lifecycleSealed
  | schedulerTaken (running : Bool)
  | shutdownSent
  | loopJoined
  | discoveryCleared
  | launchesCleared
  | sessionsDrained
  | shutdownReturned
  | shutdownDropped
  -- the expiration loop
  | loopStarted
  | signalRead (signal : Option SchedulerSignal)
  | sessionDeadline (deadline : Option Nat)
  | discoveryDeadline (deadline : Option Nat)
  | launchDeadline (deadline : Option Nat)
  | loopWoken (wakeup : Wakeup)
  | sessionsReaped (now : Nat)
  | discoveryReaped (now : Nat)
  | launchesReaped (now : Nat)
  | loopStopped
  -- the drop of the runtime
  | runtimeDropped
  | sessionsAbandoned (sessionIds : List SessionId)
  | storeDropped
  -- sessions and what they hold
  | guard (sessionId : SessionId) (event : GuardEvent)
  | opened (session : Session)
  | rejected (sessionId : SessionId)
  | resolved (sessionId : SessionId) (session : Session)
  | windowFound (sessionId : SessionId) (windowRef : WindowRef) (window : DriverWindow)
  | sessionClosed (sessionId : SessionId)
  | unmapped (sessionIds : List SessionId)
  | closeCalled (sessionIds : List SessionId)
  | wallClock (text : Option String)
  | windowsRequested (sessionId : SessionId) (applicationKeys : List String)
  | captureStarted (capture : Capture)
  | published (sessionId : SessionId) (record : ObservationRecord)
  | consumed (call : ActionCall)
  | performCalled (call : PerformCall)
  | performReturned (outcome : Except DriverError DriverActionOutput)
  | windowInvalidated (sessionId : SessionId) (windowRef : WindowRef)
  | sessionsListed (sessionIds : List SessionId)
  | applicationInvalidated (sessionId : SessionId) (application : DriverApplication)
  -- discovery and launching
  | clockRead (now : Nat)
  | applicationsListed (applications : List DriverApplication)
  | launchablesListed (applications : List DriverLaunchableApplication)
  | discovered (drawn : List (DiscoveryRef × DriverApplication))
  | launchesDiscovered (drawn : List (LaunchRef × DriverLaunchableApplication))
  | discoveryResolved (requested : List DiscoveryRef) (expected : List DriverApplication)
      (now : Nat)
  | launchResolved (launchRef : LaunchRef) (application : DriverLaunchableApplication)
  | launchConsumed (launchRef : LaunchRef)
  | launchCalled (application : DriverLaunchableApplication)
  | launchReturned (outcome : Except DriverError DriverLaunchOutput)
  -- the clipboard
  | clipboardLocked
  | clipboardUnlocked
  | clipboardReadCalled (sessionId : SessionId)
  | clipboardReadReturned (outcome : Except DriverError DriverClipboardSnapshot)
  | clipboardIssued (sessionId : SessionId) (clipboardRef : ClipboardRef) (changeMarker : String)
  | clipboardTaken (sessionId : SessionId) (clipboardRef : ClipboardRef) (changeMarker : String)
  | clipboardCalled (sessionId : SessionId) (changeMarker : String)
  | clipboardReturned (outcome : Except DriverError DriverClipboardWriteOutput)
  -- the artifact store
  | fileCreated (sessionId : SessionId) (artifactRef : ArtifactRef)
  | fileWritten (sessionId : SessionId) (artifactRef : ArtifactRef) (succeeded : Bool)
  | registered (sessionId : SessionId) (artifactRef : ArtifactRef) (evicted : Option ArtifactRef)
  | indexRemoved (sessionId : SessionId)
  | directoryRemoved (sessionId : SessionId)

abbrev RuntimeProgram (χ : Type) := Async RuntimeState RuntimeReply RuntimeEvent χ

end NexusCua.Runtime
