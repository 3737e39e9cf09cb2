import NexusCua.Runtime.Actions
import NexusCua.Runtime.TaskView

/-!
# What a block of the runtime can do

`RuntimeEffect` says once what every block of a command, of shutdown, of the
expiration loop and of the drop of the runtime can do to the shared state, and
what the events it reports mean after the task's own history.  The invariants
of the runtime follow from it.
-/

namespace NexusCua.Runtime

open NexusCua.Foundation NexusCua.Protocol
open NexusCua.Foundation.Async (Contract)

/-! ### Actions -/

/-- What a session's grant and the policy say about an action before it is looked at. -/
structure Granted (runtime : RuntimeService) (session : Session) (input : PerformActionInput) :
    Prop where
  policy : runtime.config.policy.authorize (.performAction input) = .ok ()
  after : runtime.authorizeAfter input = .ok ()
  action : RuntimeService.grantsAction session input.action = .ok ()

def ReadyFor (session : Session) (call : ActionCall) (h : List RuntimeEvent) : Prop :=
  ∃ before after, h = before ++ .consumed call :: after ∧
    .resolved call.input.sessionId session ∈ before ∧
    .guard session.id (.sawClosed false) ∈ after ∧ .guard session.id (.sawExpired false) ∈ after

def Prepared (h : List RuntimeEvent) (call : PerformCall) : Prop :=
  calls h = [] ∧ ∃ session, ReadyFor session call.call h

/-- Everything that an action may have made stale was invalidated since the driver returned. -/
def Invalidated (h : List RuntimeEvent) (call : PerformCall)
    (result : Except DriverError DriverActionOutput) : Prop :=
  ∃ session, .resolved call.call.input.sessionId session ∈ h ∧
    if RuntimeService.terminationMayHaveDispatched call.call.input.action result then
      ∃ sessionIds, .sessionsListed sessionIds ∈ h ∧
        ∀ sessionId ∈ sessionIds, .applicationInvalidated sessionId call.call.window.application ∈ h
    else .windowInvalidated session.id call.call.input.windowRef ∈ h

/-! ### Discovery, launching and the clipboard -/

/-- The applications of a session were resolved from its references and listed afresh. -/
def Selected (h : List RuntimeEvent) (session : Session) : Prop :=
  ∃ expected now listed,
    .discoveryResolved session.manifest.applicationRefs expected now ∈ h ∧
      .applicationsListed listed ∈ h ∧
      resolveApplications expected listed = .ok session.allowedApplications

structure Launchable (h : List RuntimeEvent) (input : LaunchApplicationInput)
    (current : DriverLaunchableApplication) : Prop where
  resolved : ∃ expected, .launchResolved input.launchRef expected ∈ h ∧
    expected.matchesIdentity current = true
  listed : ∃ listed, .launchablesListed listed ∈ h ∧ current ∈ listed
  notRunning : ∃ before running after, h = before ++ .applicationsListed running :: after ∧
    (∀ later, .applicationsListed later ∉ after) ∧ alreadyRunning current running = false
  consumed : .launchConsumed input.launchRef ∈ h

/-- The change marker that a successful clipboard call of the driver came back with. -/
def ClipboardSource (h : List RuntimeEvent) (changeMarker : String) : Prop :=
  (∃ snapshot, .clipboardReadReturned (.ok snapshot) ∈ h ∧
      changeMarker = snapshot.changeMarker) ∨
    ∃ output, .clipboardReturned (.ok output) ∈ h ∧ changeMarker = output.changeMarker

/-- The command that may issue a reference: a read, or a write that has taken the one it cites. -/
def IssuedFor (h : List RuntimeEvent) (sessionId : SessionId) (session : Session) : Prop :=
  phase h = .running (.readClipboard sessionId) ∨
    ∃ input changeMarker, phase h = .running (.writeClipboard input) ∧
      input.sessionId = sessionId ∧
      .clipboardTaken session.id input.clipboardRef changeMarker ∈ h

/-! ### The return of a command -/

def Undisturbed (h : List RuntimeEvent) : Prop :=
  .wallClock none ∉ h ∧ .schedulerLocked true ∉ h

/-- The disposition that an error is returned with, by the calls that were made. -/
def Disposed (h : List RuntimeEvent) (error : CuaError) : Prop :=
  match calls h with
  | [] => True
  | [.performCalled _, .performReturned (.error cause)]
  | [.launchCalled _, .launchReturned (.error cause)] =>
      error.mutationStatus =
        if cause.mutationStatus = .notApplicable then .indeterminate else cause.mutationStatus
  | [.clipboardCalled _ _, .clipboardReturned (.error cause)] =>
      error.mutationStatus =
        if cause.mutationStatus = .notApplicable then .notDispatched else cause.mutationStatus
  | [.performCalled _, .performReturned (.ok _)]
  | [.clipboardCalled _ _, .clipboardReturned (.ok _)] => error.mutationStatus = .indeterminate
  | [.launchCalled _, .launchReturned (.ok _)] =>
      (Undisturbed h → error.mutationStatus = .indeterminate) ∧
        (¬ Undisturbed h → error.mutationStatus = .notDispatched)
  | _ => False

def Yields : Command → CommandResult → Prop
  | .launchApplication _, result => ∃ output, result = .applicationLaunched output
  | .writeClipboard _, result => ∃ output, result = .clipboardWritten output
  | .performAction _, result => ∃ output, result = .actionPerformed output
  | _, _ => True

def Issues : Except CuaError CommandResult → ClipboardRef → Prop
  | .ok (.clipboardRead output), clipboardRef => output.clipboardRef = clipboardRef
  | .ok (.clipboardWritten output), clipboardRef => output.clipboardRef = clipboardRef
  | _, _ => False

def Published (h : List RuntimeEvent) (input : ObserveWindowInput)
    (observation : WindowObservation) : Prop :=
  ∃ session record, .resolved input.sessionId session ∈ h ∧ .published session.id record ∈ h ∧
    record.id = observation.observationId ∧ record.windowRef = input.windowRef

def Observed (h : List RuntimeEvent) : Command → Except CuaError CommandResult → Prop
  | .observeWindow input, .ok (.windowObserved observation) => Published h input observation
  | .observeApplicationScene input, .ok (.windowObserved observation) =>
      Published h input observation
  | _, _ => True

def usesClipboard : Command → Bool
  | .readClipboard _ => true
  | .writeClipboard _ => true
  | _ => false

structure ReturnFacts (h : List RuntimeEvent) (command : Command)
    (outcome : Except CuaError CommandResult) : Prop where
  gate : command.isMutation = true → ∀ error, outcome = .error error →
    error.mutationStatus = .notApplicable → .sawClosed true ∈ h ∨ .schedulerLocked true ∈ h
  result : ∀ result, outcome = .ok result → Yields command result
  disposed : ∀ error, outcome = .error error → Disposed h error
  invalidated : ∀ call, .performCalled call ∈ h →
    ∃ result, .performReturned result ∈ h ∧ Invalidated h call result
  issues : ∀ clipboardRef, (view h).issued = some clipboardRef → Issues outcome clipboardRef
  issued : usesClipboard command = true → ∀ clipboardRef, Issues outcome clipboardRef →
    (view h).issued = some clipboardRef
  observed : Observed h command outcome

/-! ### Reports -/

/-- What ends a wait of the loop until `deadline`, after the version `seen`. -/
def Wakes (s : RuntimeState) (seen : Nat) (deadline : Option Nat) : Wakeup → Prop
  | .due now => now = s.now ∧ ∃ instant, deadline = some instant ∧ instant ≤ s.now
  | .signalled version => ∃ scheduler, s.scheduler = some scheduler ∧
      version = scheduler.version ∧ version ≠ seen

def RuntimeTruthful (runtime : RuntimeService) (h : List RuntimeEvent) (s : RuntimeState) :
    RuntimeEvent → Prop
  | .sawClosed closed => closed = s.closed ∧ ∃ command, phase h = .entered command
  | .schedulerLocked poisoned => poisoned = true ∧ s.schedulerPoisoned = true
  | .returned command outcome => phase h = .left ∧ ReturnFacts h command outcome
  | .loopJoined => phase h = .signalled ∧ s.scheduler.any (·.stopped) = true
  | .signalRead signal => signal = s.signal ∧
      ∃ seen, phase h = .looping seen ∨ phase h = .cleaning seen ∧ holds h = []
  | .sessionDeadline deadline => deadline = s.sessionDeadline ∧ ∃ seen, phase h = .reading seen
  | .discoveryDeadline deadline => deadline = s.discoveryDeadline ∧
      ∃ seen sessions, phase h = .readSessions seen sessions
  | .launchDeadline deadline => deadline = s.launchDeadline ∧
      ∃ seen sessions discovery, phase h = .readDiscovery seen sessions discovery
  | .loopWoken wakeup => ∃ seen sessions discovery launches,
      phase h = .waiting seen sessions discovery launches ∧
        Wakes s seen (nearestDeadlineOf sessions discovery launches) wakeup
  | .resolved sessionId session => sessionId ∈ s.sessions ∧
      ∃ entry, s.heap.lookup sessionId = some entry ∧ entry.session = session ∧
        s.now < session.expiresAt
  | .windowFound sessionId windowRef window =>
      ∃ entry, s.heap.lookup sessionId = some entry ∧
        entry.state.windows.lookup windowRef = some window
  | .wallClock _ | .windowsRequested _ _ => True
  | .captureStarted capture => capture.startedAt = s.now ∧
      ∃ window, .windowFound capture.sessionId capture.windowRef window ∈ h ∧
        capture.application = window.application
  | .performCalled call => Prepared h call ∧ call.instant = s.now
  | .performReturned _ => ∃ call, .performCalled call ∈ h
  | .sessionsListed sessionIds => sessionIds = s.sessions ∧ ∃ result, .performReturned result ∈ h
  | .clockRead now => now = s.now
  | .applicationsListed _ | .launchablesListed _ => True
  | .discoveryResolved requested expected now => .clockRead now ∈ h ∧
      requested.mapM (expectedApplication s.discovery runtime.epoch now) = .ok expected
  | .launchResolved launchRef application =>
      ∃ record, s.launchDiscovery.lookup launchRef = some record ∧
        record.application = application ∧ record.runtimeEpoch = runtime.epoch ∧
        s.now < record.expiresAt
  | .launchCalled application => calls h = [] ∧ ∃ input,
      phase h = .running (.launchApplication input) ∧ Launchable h input application
  | .launchReturned _ => True
  | .clipboardReadCalled _ => lane h = .held
  | .clipboardReadReturned _ => lane h = .calling
  | .clipboardCalled sessionId changeMarker => calls h = [] ∧ lane h = .held ∧
      ∃ input before, phase h = .running (.writeClipboard input) ∧
        h = before ++ [.clipboardTaken sessionId input.clipboardRef changeMarker]
  | .clipboardReturned _ => lane h = .calling
  | .fileWritten sessionId artifactRef succeeded =>
      succeeded = false ∧ .writing sessionId artifactRef ∈ holds h
  | _ => False

/-! ### The control of commands, of shutdown, of the loop and of the drop -/

inductive ControlEffect :
    List RuntimeEvent → RuntimeState → List RuntimeEvent → RuntimeState → Prop where
  | entered {s command} (hwriter : s.writer = false) :
      ControlEffect [] s [.entered command] { s with readers := s.readers + 1 }
  | ensured {h s command} (hadmitted : phase h = .admitted command)
      (hpoisoned : s.schedulerPoisoned = false) :
      ControlEffect h s [.schedulerLocked false, .ensured] s.installScheduler
  | rescheduled {h s command} (hrunning : phase h = .running command)
      (hpoisoned : s.schedulerPoisoned = false) :
      ControlEffect h s [.schedulerLocked false, .rescheduled] s.reschedule
  | left {h s} (hinside : (phase h).isInside = true) (hholds : holds h = []) :
      ControlEffect h s [.left] { s with readers := s.readers - 1 }
  | shutdownGuarded {s} (hunlocked : s.shutdownLocked = false) :
      ControlEffect [] s [.shutdownGuarded] { s with shutdownLocked := true }
  | closedSwapped {h s} (hguarding : phase h = .guarding) :
      ControlEffect h s [.closedSwapped s.closed] { s with closed := true }
  | rejected {h s} (hrejecting : phase h = .rejecting) :
      ControlEffect h s [.shutdownReturned] s.releaseGuard
  | lifecycleSealed {h s} (hclosing : phase h = .closing) (hreaders : s.readers = 0)
      (hwriter : s.writer = false) :
      ControlEffect h s [.lifecycleSealed] { s with writer := true }
  | sealDropped {h s} (hclosing : phase h = .closing) :
      ControlEffect h s [.shutdownDropped] s.releaseGuard
  | schedulerTaken {h s} (hsealed : phase h = .sealed) :
      ControlEffect h s [.schedulerTaken s.takeScheduler.2] s.takeScheduler.1
  | shutdownSent {h s} (htaken : phase h = .taken) :
      ControlEffect h s [.shutdownSent] s.sendShutdown
  | discoveryCleared {h s} (hphase : phase h = .stopped ∨ phase h = .dropping) :
      ControlEffect h s [.discoveryCleared] (withDiscovery s ∅)
  | launchesCleared {h s} (hphase : phase h = .undiscovered ∨ phase h = .dropping) :
      ControlEffect h s [.launchesCleared] (withLaunchDiscovery s ∅)
  | sessionsDrained {h s} (hunlaunched : phase h = .unlaunched) :
      ControlEffect h s (.sessionsDrained :: .unmapped s.sessions :: closingEvents s s.sessions)
        ((s.closeSessions s.sessions).unmap s.sessions)
  | cleanUpDropped {h s} (hphase : phase h = .signalled ∨ phase h = .stopped ∨
        phase h = .undiscovered ∨ phase h = .unlaunched) :
      ControlEffect h s [.shutdownDropped] s.releaseShutdown
  | shutdownReturned {h s} (hdrained : phase h = .drained) (hholds : holds h = []) :
      ControlEffect h s [.shutdownReturned] s.releaseShutdown
  | loopStarted {s scheduler} (hscheduler : s.scheduler = some scheduler)
      (hunclaimed : scheduler.claimed = false) :
      ControlEffect [] s [.loopStarted]
        { s with scheduler := some { scheduler with claimed := true } }
  | sessionsReaped {h s seen now} (hreaping : phase h = .reaping seen now) :
      ControlEffect h s
        (.sessionsReaped now :: .unmapped (s.dueSessions now) ::
          closingEvents s (s.dueSessions now))
        ((s.closeSessions (s.dueSessions now)).unmap (s.dueSessions now))
  | discoveryReaped {h s seen now} (hreaping : phase h = .reapingDiscovery seen now) :
      ControlEffect h s [.discoveryReaped now]
        (withDiscovery s (s.discovery.retain fun _ record => decide (now < record.expiresAt)))
  | launchesReaped {h s seen now} (hreaping : phase h = .reapingLaunches seen now) :
      ControlEffect h s [.launchesReaped now]
        (withLaunchDiscovery s
          (s.launchDiscovery.retain fun _ record => decide (now < record.expiresAt)))
  | loopStopped {h s} (hstopping : phase h = .stopping) (hholds : holds h = []) :
      ControlEffect h s [.loopStopped] s.stopLoop
  | runtimeDropped {s} (halive : s.dropped = false) :
      ControlEffect [] s [.runtimeDropped] s.dropRuntime
  | sessionsAbandoned {h s} (hdropping : phase h = .dropping) :
      ControlEffect h s [.sessionsAbandoned (s.heap.toList.map Prod.fst)]
        { s with sessions := [] }
  | storeDropped {h s sessionIds} (hdropping : phase h = .dropping)
      (habandoned : .sessionsAbandoned sessionIds ∈ h)
      (hclosed : ∀ sessionId, .closing sessionId ∉ holds h) :
      ControlEffect h s [.storeDropped] { s with store := .empty }

/-! ### Opening and closing sessions -/

inductive SessionEffect (runtime : RuntimeService) :
    List RuntimeEvent → RuntimeState → List RuntimeEvent → RuntimeState → Prop where
  | opened {h s session} (hrunning : phase h = .running (.openSession session.manifest))
      (hselected : Selected h session)
      (hcapacity : s.sessions.length < runtime.config.maxActiveSessions)
      (hid : session.id = ⟨runtime.uuids.issue "session" s.issued⟩) :
      SessionEffect runtime h s [.opened session]
        { s with
          issued := s.issued + 1
          heap := s.heap.insert session.id
            ⟨session, (GuardCell.initial s.now session.expiresAt).newLease, .empty⟩
          sessions := session.id :: s.sessions }
  | refused {h s session} (hrunning : phase h = .running (.openSession session.manifest))
      (hselected : Selected h session)
      (hcapacity : s.sessions.length < runtime.config.maxActiveSessions)
      (hid : session.id = ⟨runtime.uuids.issue "session" s.issued⟩) :
      SessionEffect runtime h s [.opened session, .sessionClosed session.id]
        { s with
          issued := s.issued + 1
          heap := s.heap.insert session.id
            ⟨session, { (GuardCell.initial s.now session.expiresAt).newLease with closed := true },
              .empty⟩ }
  | rejected {h s command} (hrunning : phase h = .running command)
      (hcapacity : runtime.config.maxActiveSessions ≤ s.sessions.length) :
      SessionEffect runtime h s [.rejected ⟨runtime.uuids.issue "session" s.issued⟩]
        { s with issued := s.issued + 1 }
  | unmapped {h s sessionId} (hrunning : phase h = .running (.closeSession sessionId))
      (hmapped : sessionId ∈ s.sessions) :
      SessionEffect runtime h s [.unmapped [sessionId]] (s.unmap [sessionId])
  | closed {h s sessionId} (hclosing : .closing sessionId ∈ holds h) :
      SessionEffect runtime h s (closingEvents s [sessionId]) (s.closeSession sessionId)
  | expired {h s sessionId command entry} (hrunning : phase h = .running command)
      (hmapped : sessionId ∈ s.sessions) (hentry : s.heap.lookup sessionId = some entry)
      (hexpired : entry.session.expiresAt ≤ s.now) :
      SessionEffect runtime h s (.unmapped [sessionId] :: closingEvents s [sessionId])
        ((s.closeSession sessionId).unmap [sessionId])

/-! ### The tables of a session -/

structure Consumable (runtime : RuntimeService) (s : RuntimeState) (session : Session)
    (call : ActionCall) (entry : SessionEntry) (record : ObservationRecord) : Prop where
  entry_eq : s.heap.lookup session.id = some entry
  window_eq : entry.state.windows.lookup call.input.windowRef = some call.window
  allowed : session.allowsApplication call.window.application = true
  record_eq : entry.state.observations.lookup call.input.observationId = some record
  windowRef : record.windowRef = call.input.windowRef
  valid : record.status = .valid
  age : s.now - record.createdAt ≤ runtime.config.maxObservationAge

def SessionState.publish (state : SessionState) (limit : Nat) (record : ObservationRecord) :
    SessionState :=
  let state := (state.invalidateWindowObservations record.windowRef).trimObservations limit
  { state with observations := state.observations.insert record.id record }

inductive Projection (runtime : RuntimeService) (session : Session) (issued : Nat)
    (state : SessionState) : Nat → SessionState → Prop where
  | applications {applications : List DriverApplication}
      (hallowed : ∀ application ∈ applications, session.allowsApplication application = true) :
      Projection runtime session issued state
        (runtime.projectApplications issued state applications).2.1
        (runtime.projectApplications issued state applications).2.2
  | windows {windows : List DriverWindow}
      (hallowed : ∀ window ∈ windows, session.allowsApplication window.application = true) :
      Projection runtime session issued state
        (runtime.projectWindows issued state windows).2.1
        (runtime.projectWindows issued state windows).2.2
  | displays {displays : List DriverDisplay} :
      Projection runtime session issued state
        (runtime.projectDisplays issued { state with displays := ∅, displayRefs := ∅ }
          displays).2.1
        (runtime.projectDisplays issued { state with displays := ∅, displayRefs := ∅ }
          displays).2.2

inductive TableEffect (runtime : RuntimeService) :
    List RuntimeEvent → RuntimeState → List RuntimeEvent → RuntimeState → Prop where
  | projected {h s sessionId session entry issued state}
      (hresolved : .resolved sessionId session ∈ h)
      (hentry : s.heap.lookup session.id = some entry)
      (hproject : Projection runtime session s.issued entry.state issued state) :
      TableEffect runtime h s []
        { s.modifyTables session.id fun _ => state with issued := issued }
  | clipboardIssued {h s sessionId session entry changeMarker}
      (hresolved : .resolved sessionId session ∈ h) (hcommand : IssuedFor h sessionId session)
      (hentry : s.heap.lookup session.id = some entry) (hlane : lane h = .held)
      (hsource : ClipboardSource h changeMarker) (hfirst : (view h).issued = none) :
      TableEffect runtime h s
        [.clipboardIssued session.id ⟨runtime.uuids.issue "clipboard" s.issued⟩ changeMarker]
        { s.modifyTables session.id fun _ =>
            { entry.state with
              clipboard := some ⟨⟨runtime.uuids.issue "clipboard" s.issued⟩, changeMarker⟩ } with
          issued := s.issued + 1 }
  | clipboardTaken {h s session input entry changeMarker}
      (hrunning : phase h = .running (.writeClipboard input))
      (hresolved : .resolved input.sessionId session ∈ h)
      (hallowed : session.manifest.allowClipboardWrite = true) (hlane : lane h = .held)
      (hentry : s.heap.lookup session.id = some entry)
      (hclipboard : entry.state.clipboard = some ⟨input.clipboardRef, changeMarker⟩) :
      TableEffect runtime h s [.clipboardTaken session.id input.clipboardRef changeMarker]
        (s.modifyTables session.id fun _ => { entry.state with clipboard := none })
  | observationInvalidated {h s session input entry}
      (hrunning : phase h = .running (.performAction input))
      (hresolved : .resolved input.sessionId session ∈ h)
      (hentry : s.heap.lookup session.id = some entry) :
      TableEffect runtime h s []
        (s.modifyTables session.id fun _ => entry.state.setStatus input.observationId .invalid)
  | consumed {h s session call entry record}
      (hrunning : phase h = .running (.performAction call.input))
      (hresolved : .resolved call.input.sessionId session ∈ h)
      (hgranted : Granted runtime session call.input)
      (hconsumable : Consumable runtime s session call entry record) :
      TableEffect runtime h s [.consumed call]
        (s.modifyTables session.id fun _ =>
          entry.state.setStatus call.input.observationId .inFlight)
  | published {h s entry capture record issued} (hcapture : capturing h = some capture)
      (hentry : s.heap.lookup capture.sessionId = some entry)
      (hid : record.id = ⟨runtime.uuids.issue "observation" s.issued⟩)
      (hissued : s.issued < issued) (hwindow : record.windowRef = capture.windowRef)
      (hcreated : record.createdAt = capture.startedAt) (hvalid : record.status = .valid) :
      TableEffect runtime h s [.published capture.sessionId record]
        { s.modifyTables capture.sessionId fun _ =>
            entry.state.publish runtime.config.maxObservationsPerSession record with
          issued := issued }
  | windowInvalidated {h s sessionId windowRef result} (hreturned : .performReturned result ∈ h) :
      TableEffect runtime h s [.windowInvalidated sessionId windowRef]
        (s.modifyTables sessionId fun state => state.invalidateWindowObservations windowRef)
  | applicationInvalidated {h s sessionId application} {sessionIds : List SessionId}
      (hlisted : .sessionsListed sessionIds ∈ h) :
      TableEffect runtime h s [.applicationInvalidated sessionId application]
        (s.modifyTables sessionId fun state => state.invalidateApplicationObservations application)

/-! ### Discovery records -/

def RuntimeState.liveDiscovery (s : RuntimeState) : Table DiscoveryRef DiscoveryRecord :=
  s.discovery.retain fun _ record => decide (s.now < record.expiresAt)

def RuntimeState.liveLaunches (s : RuntimeState) : Table LaunchRef LaunchDiscoveryRecord :=
  s.launchDiscovery.retain fun _ record => decide (s.now < record.expiresAt)

inductive DiscoveryEffect (runtime : RuntimeService) :
    List RuntimeEvent → RuntimeState → List RuntimeEvent → RuntimeState → Prop where
  | discovered {h s command applications expiresAt} (hrunning : phase h = .running command)
      (hroom : s.liveDiscovery.size + (applications : List DriverApplication).length ≤
        runtime.config.maxDiscoveryRecords) :
      DiscoveryEffect runtime h s
        [.discovered (drawDiscoveryRefs runtime.uuids s.issued applications)]
        { withDiscovery s (insertDrawn
            (fun application => (⟨runtime.epoch, application, expiresAt⟩ : DiscoveryRecord))
            (drawDiscoveryRefs runtime.uuids s.issued applications) s.liveDiscovery) with
          issued := s.issued + applications.length }
  | discoveryFull {h s command} (hrunning : phase h = .running command) :
      DiscoveryEffect runtime h s [] (withDiscovery s s.liveDiscovery)
  | launchesDiscovered {h s command applications expiresAt} (hrunning : phase h = .running command)
      (hroom : s.liveLaunches.size + (applications : List DriverLaunchableApplication).length ≤
        runtime.config.maxLaunchDiscoveryRecords) :
      DiscoveryEffect runtime h s
        [.launchesDiscovered (drawLaunchRefs runtime.uuids s.issued applications)]
        { withLaunchDiscovery s (insertDrawn
            (fun application => (⟨runtime.epoch, application, expiresAt⟩ : LaunchDiscoveryRecord))
            (drawLaunchRefs runtime.uuids s.issued applications) s.liveLaunches) with
          issued := s.issued + applications.length }
  | launchesFull {h s command} (hrunning : phase h = .running command) :
      DiscoveryEffect runtime h s [] (withLaunchDiscovery s s.liveLaunches)
  | launchConsumed {h s input record} (hrunning : phase h = .running (.launchApplication input))
      (hrecord : s.launchDiscovery.lookup input.launchRef = some record) :
      DiscoveryEffect runtime h s [.launchConsumed input.launchRef]
        (withLaunchDiscovery s (s.launchDiscovery.erase input.launchRef))
  | terminated {h s application result} (hreturned : .performReturned result ∈ h) :
      DiscoveryEffect runtime h s []
        (withDiscovery s (s.discovery.retain fun _ record =>
          !record.application.matchesGeneration application))

/-! ### The artifact store -/

inductive StoreEffect (runtime : RuntimeService) :
    List RuntimeEvent → RuntimeState → List RuntimeEvent → RuntimeState → Prop where
  | directoryCreated {h s sessionId} :
      StoreEffect runtime h s [] { s with store := s.store.createDirectory sessionId }
  | fileCreated {h s sessionId session artifactRef store}
      (hresolved : .resolved sessionId session ∈ h)
      (hstore : s.store.createFile session.id artifactRef = some store) :
      StoreEffect runtime h s [.fileCreated session.id artifactRef] { s with store := store }
  | fileWritten {h s sessionId artifactRef bytes} :
      StoreEffect runtime h s [.fileWritten sessionId artifactRef true]
        { s with store := s.store.writeFile sessionId artifactRef bytes }
  | registered {h s sessionId artifactRef} (hholds : holds h = [.writing sessionId artifactRef]) :
      StoreEffect runtime h s
        [.registered sessionId artifactRef (s.store.registerArtifact sessionId artifactRef
          runtime.config.maxArtifactsPerSession).2]
        { s with store := (s.store.registerArtifact sessionId artifactRef
            runtime.config.maxArtifactsPerSession).1 }
  | evicted {h s sessionId artifactRef store}
      (hstore : s.store.removeFile sessionId artifactRef = some store) :
      StoreEffect runtime h s [] { s with store := store }
  | pruned {h s sessionId artifactRef} :
      StoreEffect runtime h s [] { s with store := s.store.prunePath sessionId artifactRef }
  | directoryPruned {h s sessionId} :
      StoreEffect runtime h s [] { s with store := s.store.removeEmptyDirectory sessionId }
  | indexRemoved {h s sessionId} :
      StoreEffect runtime h s [.indexRemoved sessionId]
        { s with store := s.store.removeIndex sessionId }
  | directoryRemoved {h s sessionId} :
      StoreEffect runtime h s [.directoryRemoved sessionId]
        { s with store := s.store.removeDirectory sessionId }

/-! ### All blocks -/

inductive RuntimeEffect (runtime : RuntimeService) :
    List RuntimeEvent → RuntimeState → List RuntimeEvent → RuntimeState → Prop where
  | silent {h s} : RuntimeEffect runtime h s [] s
  | report {h s x} (hx : RuntimeTruthful runtime h s x) : RuntimeEffect runtime h s [x] s
  | drawn {h s} : RuntimeEffect runtime h s [] { s with issued := s.issued + 1 }
  | permits {h s permits} : RuntimeEffect runtime h s [] { s with artifactPermits := permits }
  | foreground {h s held} : RuntimeEffect runtime h s [] { s with foregroundLane := held }
  | clipboardLocked {h s} (hfree : lane h = .free) (hlane : s.clipboardLane = false) :
      RuntimeEffect runtime h s [.clipboardLocked] { s with clipboardLane := true }
  | clipboardUnlocked {h s} (hheld : lane h = .held) :
      RuntimeEffect runtime h s [.clipboardUnlocked] { s with clipboardLane := false }
  | guard {h s sessionId entry es cell} (hentry : s.heap.lookup sessionId = some entry)
      (hguard : GuardEffect false ((guardEmbedding sessionId).own h)
        { entry.guard with now := s.now } es cell) :
      RuntimeEffect runtime h s (es.map (.guard sessionId))
        (s.modifySession sessionId fun entry => { entry with guard := cell })
  | control {h s es s'} (he : ControlEffect h s es s') : RuntimeEffect runtime h s es s'
  | session {h s es s'} (he : SessionEffect runtime h s es s') : RuntimeEffect runtime h s es s'
  | tables {h s es s'} (he : TableEffect runtime h s es s') : RuntimeEffect runtime h s es s'
  | discovery {h s es s'} (he : DiscoveryEffect runtime h s es s') :
      RuntimeEffect runtime h s es s'
  | store {h s es s'} (he : StoreEffect runtime h s es s') : RuntimeEffect runtime h s es s'

def runtimeContract (runtime : RuntimeService) : Contract RuntimeState RuntimeEvent where
  guarantee := RuntimeEffect runtime
  final h := holds h = []

end NexusCua.Runtime
