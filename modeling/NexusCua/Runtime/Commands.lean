import NexusCua.Runtime.Service

/-!
# Discovery, launching and sessions

The commands that need no session, those that open and close one, and those
that list what a session may see.
-/

namespace NexusCua.Runtime

open NexusCua.Foundation NexusCua.Protocol

variable {χ α : Type}

/-! ## Clocks -/

/-- The monotonic instant and the formatted time of day, which may not be formattable. -/
def wallClock : RuntimeProgram χ (Nat × Option String) :=
  Async.atomic fun reply s =>
    match reply with
    | .wallClock text => some (s, [.wallClock text], s.now, text)
    | _ => none

def timestamp (message : String) : RuntimeProgram CuaError (Nat × String) := do
  let (now, text) ← wallClock
  match text with
  | none => .fail (internalError message none)
  | some text => pure (now, text)

/-! ## Discovery records -/

/--
Purge the expired records of a table and add one for each value, under the
table's write lock.
-/
def recordDiscovered {κ υ : Type} [DecidableEq κ] (table : RuntimeState → Table κ υ)
    (withTable : RuntimeState → Table κ υ → RuntimeState) (expiresAt : υ → Nat) (limit : Nat)
    (full : CuaError) (draw : Nat → List (κ × α)) (record : α → υ)
    (event : List (κ × α) → RuntimeEvent) : RuntimeProgram CuaError (List (κ × α)) := do
  let outcome ← Async.atomic fun _ s =>
    let live := (table s).retain fun _ record => decide (s.now < expiresAt record)
    let drawn := draw s.issued
    if limit < live.size + drawn.length then some (withTable s live, [], Except.error full)
    else
      some ({ withTable s (insertDrawn record drawn live) with issued := s.issued + drawn.length },
        [event drawn], Except.ok drawn)
  Async.ofExcept outcome

def withDiscovery (s : RuntimeState) (discovery : Table DiscoveryRef DiscoveryRecord) :
    RuntimeState :=
  { s with discovery := discovery }

def withLaunchDiscovery (s : RuntimeState)
    (launchDiscovery : Table LaunchRef LaunchDiscoveryRecord) : RuntimeState :=
  { s with launchDiscovery := launchDiscovery }

/-! ## Launch results -/

/-- An error after the driver was called is indeterminate unless the driver says otherwise. -/
def admittedResult (result : Except DriverError α) : Except CuaError α :=
  result.mapError fun error =>
    if error.toCuaError.mutationStatus = .notApplicable then
      error.toCuaError.withMutationStatus .indeterminate
    else error.toCuaError

def admittedLaunchResult (result : Except DriverError DriverLaunchOutput) :
    Except CuaError DriverLaunchOutput :=
  admittedResult result

def checkLaunched (input : LaunchApplicationInput) (current : DriverLaunchableApplication)
    (runningBefore : List DriverApplication) (launched : DriverLaunchOutput) :
    Except CuaError Unit :=
  if launched.application.applicationId ≠ current.applicationId ∨
      launched.application.identity ≠ current.identity ∨
      runningBefore.any fun application => application.matchesGeneration launched.application then
    .error ((internalError "native launch returned an unexpected application generation"
      (some "discover_applications")).withMutationStatus .indeterminate)
  else if !input.allowForegroundActivation &&
      (launched.deliveryMode == .foreground || launched.application.foreground) then
    .error ((internalError "launched application exceeded foreground activation authority"
      (some "discover_applications")).withMutationStatus .indeterminate)
  else .ok ()

def alreadyRunning (current : DriverLaunchableApplication)
    (running : List DriverApplication) : Bool :=
  running.any fun application =>
    application.applicationId == current.applicationId && application.identity == current.identity

namespace RuntimeService

variable (runtime : RuntimeService)

/-! ## Capabilities -/

def getCapabilities : RuntimeProgram CuaError CommandResult := do
  let capabilities ← askDriver fun
    | .capabilities outcome => some outcome
    | _ => none
  let ttl := min (runtime.config.maxSessionTtl / second) (2 ^ 32 - 1)
  pure (.capabilities { capabilities with
    observeAfter := true
    actionLimits := { ActionLimits.default with maxSessionTtlSeconds := ttl } })

def getPermissionStatus : RuntimeProgram CuaError CommandResult := do
  let status ← askDriver fun
    | .permissionStatus outcome => some outcome
    | _ => none
  pure (.permissionStatus status)

/-! ## Discovery -/

def discoveryExpiry : RuntimeProgram CuaError (Nat × String) := do
  let (now, text) ← timestamp "failed to format discovery expiry"
  pure (now + runtime.config.discoveryTtl, text)

def discoverApplications : RuntimeProgram CuaError CommandResult := do
  let listed ← listApplications
  let published := publishedApplications runtime.config.maxDiscoveredApplications listed
  let (expiresAt, text) ← runtime.discoveryExpiry
  let drawn ← recordDiscovered RuntimeState.discovery withDiscovery DiscoveryRecord.expiresAt
    runtime.config.maxDiscoveryRecords
    (busyError "unexpired discovery reference capacity is exhausted"
      "retry_after_discovery_expiry")
    (fun issued => drawDiscoveryRefs runtime.uuids issued published.1)
    (fun application => ⟨runtime.epoch, application, expiresAt⟩) .discovered
  signalReschedule
  pure (.applicationsDiscovered
    ⟨drawn.map fun entry => DiscoveredApplication.project entry.1 entry.2 text, published.2⟩)

def discoverLaunchableApplications : RuntimeProgram CuaError CommandResult := do
  let listed ← listLaunchableApplications
  let published := publishedLaunchables runtime.config.maxDiscoveredLaunchableApplications listed
  let (expiresAt, text) ← runtime.discoveryExpiry
  let drawn ← recordDiscovered RuntimeState.launchDiscovery withLaunchDiscovery
    LaunchDiscoveryRecord.expiresAt runtime.config.maxLaunchDiscoveryRecords
    (busyError "unexpired launch reference capacity is exhausted" "retry_after_discovery_expiry")
    (fun issued => drawLaunchRefs runtime.uuids issued published.1)
    (fun application => ⟨runtime.epoch, application, expiresAt⟩) .launchesDiscovered
  signalReschedule
  pure (.launchableApplicationsDiscovered
    ⟨drawn.map fun entry => LaunchableApplication.project entry.1 entry.2 text, published.2⟩)

/-! ## Launching -/

def resolveLaunchRef (launchRef : LaunchRef) :
    RuntimeProgram CuaError DriverLaunchableApplication := do
  let found ← Async.atomic fun _ s =>
    match (s.launchDiscovery.lookup launchRef).filter fun record =>
        record.runtimeEpoch == runtime.epoch && decide (s.now < record.expiresAt) with
    | none => some (s, [], none)
    | some record =>
        some (s, [.launchResolved launchRef record.application], some record.application)
  match found with
  | none => .fail staleLaunchDiscovery
  | some application => pure application

def consumeLaunchRef (launchRef : LaunchRef) : RuntimeProgram CuaError Unit := do
  let consumed ← Async.atomic fun _ s =>
    match s.launchDiscovery.lookup launchRef with
    | none => some (s, [], false)
    | some _ =>
        some (withLaunchDiscovery s (s.launchDiscovery.erase launchRef),
          [.launchConsumed launchRef], true)
  if consumed then pure () else .fail staleLaunchDiscovery

def callLaunch (application : DriverLaunchableApplication) :
    RuntimeProgram CuaError (Except DriverError DriverLaunchOutput) := do
  Async.report (.launchCalled application)
  Async.atomic fun reply s =>
    match reply with
    | .launched outcome => some (s, [.launchReturned outcome], outcome)
    | _ => none

def recordLaunched (application : DriverApplication) (expiresAt : Nat) :
    RuntimeProgram CuaError DiscoveryRef := do
  let outcome ← Async.atomic fun _ s =>
    let live := s.discovery.retain fun _ record => decide (s.now < record.expiresAt)
    if runtime.config.maxDiscoveryRecords ≤ live.size then
      some (withDiscovery s live, [], Except.error
        ((busyError "application launched but running discovery capacity is exhausted"
          "discover_applications").withMutationStatus .indeterminate))
    else
      let discoveryRef : DiscoveryRef := ⟨runtime.uuids.issue "discovery" s.issued⟩
      let record : DiscoveryRecord := ⟨runtime.epoch, application, expiresAt⟩
      some ({ withDiscovery s (live.insert discoveryRef record) with issued := s.issued + 1 },
        [.discovered [(discoveryRef, application)]], Except.ok discoveryRef)
  Async.ofExcept outcome

def projectLaunchedApplication (launched : DriverLaunchOutput) :
    RuntimeProgram CuaError CommandResult := do
  let (expiresAt, text) ← runtime.discoveryExpiry
  let discoveryRef ← runtime.recordLaunched launched.application expiresAt
  signalReschedule
  pure (.applicationLaunched
    ⟨DiscoveredApplication.project discoveryRef launched.application text, launched.deliveryMode,
      true⟩)

def launchCurrent (input : LaunchApplicationInput) (current : DriverLaunchableApplication)
    (runningBefore : List DriverApplication) : RuntimeProgram CuaError CommandResult := do
  consumeLaunchRef input.launchRef
  signalReschedule
  let result ← callLaunch current
  let launched ← Async.ofExcept (admittedLaunchResult result)
  Async.ofExcept (checkLaunched input current runningBefore launched)
  runtime.projectLaunchedApplication launched

def launchApplication (input : LaunchApplicationInput) : RuntimeProgram CuaError CommandResult := do
  let expected ← runtime.resolveLaunchRef input.launchRef
  let listed ← listLaunchableApplications
  match listed.find? fun candidate => expected.matchesIdentity candidate with
  | none => .fail staleLaunchDiscovery
  | some current => do
      let runningBefore ← listApplications
      if alreadyRunning current runningBefore then
        .fail (publicError .invalidRequest
          "application identity is already running; select its running generation" false
          (some "discover_applications"))
      else runtime.launchCurrent input current runningBefore

/-! ## Sessions -/

def expectedApplications (requested : List DiscoveryRef) :
    RuntimeProgram CuaError (List DriverApplication) := do
  let now ← Async.observe (fun s => .clockRead s.now) RuntimeState.now
  let expected ← Async.atomic fun _ s =>
    match requested.mapM (expectedApplication s.discovery runtime.epoch now) with
    | .error error => some (s, [], Except.error error)
    | .ok expected => some (s, [.discoveryResolved requested expected now], Except.ok expected)
  Async.ofExcept expected

def resolveDiscoveryRefs (requested : List DiscoveryRef) :
    RuntimeProgram CuaError (List DriverApplication) := do
  let expected ← runtime.expectedApplications requested
  let listed ← listApplications
  Async.ofExcept (resolveApplications expected listed)

def sessionExpiry (ttlSeconds : Nat) : RuntimeProgram CuaError (Nat × String) := do
  let (now, text) ← timestamp "failed to format session expiry"
  pure (now + ttlSeconds * second, text)

/-- What the driver is told when the last owner of a session drops it: `Drop` closes it. -/
def dropSession (sessionId : SessionId) (closed : Bool) : List RuntimeEvent :=
  if closed then [] else [.sessionClosed sessionId]

/--
Under the write lock of the map: a session within capacity is opened, handed to
the driver with a guard of its own, and kept if the driver takes it.  One that
the driver refuses is dropped, which closes it; one that finds no room is
dropped as it was created, closed already.  The session's id is drawn here,
where it is first shown to anyone.
-/
def insertSession (manifest : CapabilityManifest) (allowedApplications : List DriverApplication)
    (expiresAt : Nat) : RuntimeProgram CuaError SessionId := do
  let outcome ← Async.atomic fun reply s =>
    let session : Session :=
      ⟨⟨runtime.uuids.issue "session" s.issued⟩, manifest, allowedApplications, expiresAt⟩
    if runtime.config.maxActiveSessions ≤ s.sessions.length then
      some ({ s with issued := s.issued + 1 },
        .rejected session.id :: dropSession session.id true, Except.error
        (busyError "active session capacity is exhausted" "close_unused_session"))
    else
      let cell := (GuardCell.initial s.now expiresAt).newLease
      match reply with
      | .sessionStarted (.ok ()) =>
          some ({ s with
            issued := s.issued + 1
            heap := s.heap.insert session.id ⟨session, cell, .empty⟩
            sessions := session.id :: s.sessions }, [.opened session], Except.ok session.id)
      | .sessionStarted (.error error) =>
          let dropped := { cell with closed := true }
          some ({ s with
            issued := s.issued + 1
            heap := s.heap.insert session.id ⟨session, dropped, .empty⟩ },
            .opened session :: dropSession session.id cell.closed,
            Except.error error.toCuaError)
      | _ => none
  Async.ofExcept outcome

def openSession (manifest : CapabilityManifest) : RuntimeProgram CuaError CommandResult := do
  let maxTtl := min (runtime.config.maxSessionTtl / second) (2 ^ 32 - 1)
  Async.ofExcept (validateManifest manifest maxTtl)
  let allowedApplications ← runtime.resolveDiscoveryRefs manifest.applicationRefs
  let (expiresAt, text) ← sessionExpiry manifest.ttlSeconds
  let sessionId ← runtime.insertSession manifest allowedApplications expiresAt
  signalReschedule
  pure (.sessionOpened ⟨sessionId, text⟩)

def closeSession (sessionId : SessionId) : RuntimeProgram CuaError CommandResult := do
  let removed ← Async.atomic fun _ s =>
    if s.sessions.contains sessionId then
      some (s.unmap [sessionId], [.unmapped [sessionId]], true)
    else some (s, [], false)
  if removed then do
    Async.atomic fun _ s =>
      some (s.closeSession sessionId, closingEvents s [sessionId], ())
    removeSessionArtifacts sessionId
    signalReschedule
    pure .acknowledged
  else .fail sessionUnavailable

/-! ## Listings -/

def projectApplications (issued : Nat) (state : SessionState) :
    List DriverApplication → List ApplicationSummary × Nat × SessionState
  | [] => ([], issued, state)
  | application :: rest =>
      let (appRef, issued, state) := state.projectApplication runtime.uuids issued application
      let (summaries, issued, state) := projectApplications issued state rest
      (⟨appRef, application.name, application.applicationId, application.foreground⟩ :: summaries,
        issued, state)

def listApps (sessionId : SessionId) : RuntimeProgram CuaError CommandResult := do
  let session ← resolveSession sessionId
  let listed ← listApplications
  let summaries ← updateTables session.id fun issued state =>
    runtime.projectApplications issued state (listed.filter session.allowsApplication)
  pure (.apps summaries)

def projectWindows (issued : Nat) (state : SessionState) :
    List DriverWindow → List WindowSummary × Nat × SessionState
  | [] => ([], issued, state)
  | window :: rest =>
      let (appRef, issued, state) :=
        state.projectApplication runtime.uuids issued window.application
      let (windowRef, issued, state) := state.projectWindow runtime.uuids issued window
      let (summaries, issued, state) := projectWindows issued state rest
      (⟨windowRef, appRef, window.title, window.screenBounds, window.state, window.visible,
        window.foreground⟩ :: summaries, issued, state)

def listedApplication (session : Session) :
    Option AppRef → RuntimeProgram CuaError (Option String)
  | none => pure none
  | some appRef => do
      let application ← readTables session.id fun state => state.applications.lookup appRef
      match application with
      | none => .fail referenceNotFound
      | some application => pure (some application.key)

def requestedKeys (session : Session) (applicationKey : Option String) : List String :=
  (session.allowedApplications.filter fun application =>
    applicationKey.all fun key => key == application.key).map DriverApplication.key

def listWindows (input : ListWindowsInput) : RuntimeProgram CuaError CommandResult := do
  let session ← resolveSession input.sessionId
  let applicationKey ← listedApplication session input.appRef
  Async.report (.windowsRequested session.id (requestedKeys session applicationKey))
  let listed ← askDriver fun
    | .windows outcome => some outcome
    | _ => none
  let summaries ← updateTables session.id fun issued state =>
    runtime.projectWindows issued state
      (listed.filter fun window => session.allowsApplication window.application)
  pure (.windows summaries)

def projectDisplays (issued : Nat) (state : SessionState) :
    List DriverDisplay → List DisplaySummary × Nat × SessionState
  | [] => ([], issued, state)
  | display :: rest =>
      let (displayRef, issued, state) := state.projectDisplay runtime.uuids issued display
      let (summaries, issued, state) := projectDisplays issued state rest
      (⟨displayRef, display.screenBounds, display.primary⟩ :: summaries, issued, state)

def sortedDisplays (listed : List DriverDisplay) : List DriverDisplay :=
  dedupByKey DriverDisplay.key
    (listed.insertionSort fun left right => (compare left.key right.key).isLE = true)

def listDisplays (sessionId : SessionId) : RuntimeProgram CuaError CommandResult := do
  let session ← resolveSession sessionId
  if session.manifest.allowDisplayCapture then do
    let listed ← askDriver fun
      | .displays outcome => some outcome
      | _ => none
    let displays := sortedDisplays listed
    if runtime.config.maxDisplaysPerSession < displays.length then
      .fail (busyError "physical display count exceeds the configured session bound"
        "narrow_desktop_topology")
    else do
      let summaries ← updateTables session.id fun issued state =>
        runtime.projectDisplays issued { state with displays := ∅, displayRefs := ∅ } displays
      pure (.displays summaries)
  else .fail capabilityDenied

/-! ## Verification -/

def verifyState (input : VerifyStateInput) : RuntimeProgram CuaError CommandResult := do
  let session ← resolveSession input.sessionId
  let _window ← authorizedWindow session input.windowRef
  let result ← askDriver fun
    | .stateVerified outcome => some outcome
    | _ => none
  pure (.stateVerified ⟨result.matched, result.evidence⟩)

/-! ## The clipboard -/

def maxClipboardChangeMarkerBytes : Nat := 256

/-- The characters that `char::is_control` accepts. -/
def isControl (c : Char) : Bool :=
  let n := c.toNat
  n < 0x20 || (0x7F ≤ n && n ≤ 0x9F)

def validateClipboardChangeMarker (changeMarker : String) : Except CuaError Unit :=
  if changeMarker.isEmpty ∨ maxClipboardChangeMarkerBytes < changeMarker.utf8ByteSize ∨
      !isTrimmed changeMarker ∨ changeMarker.toList.any isControl then
    .error (internalError "driver returned an invalid clipboard change marker"
      (some "restart_runtime"))
  else .ok ()

def clipboardBusy : CuaError := busyError "clipboard actor is busy" "retry_after_capacity"

/-- `try_lock` on the clipboard lane. -/
def lockClipboard (busy : CuaError) : RuntimeProgram CuaError Unit := do
  let locked ← Async.atomic fun _ s =>
    if s.clipboardLane then some (s, [], false)
    else some ({ s with clipboardLane := true }, [.clipboardLocked], true)
  if locked then pure () else .fail busy

def unlockClipboard : RuntimeProgram CuaError Unit :=
  Async.atomic fun _ s => some ({ s with clipboardLane := false }, [.clipboardUnlocked], ())

/-- Run an operation with the lane held; the lane is released however it ends. -/
def onClipboard (busy : CuaError) (operation : RuntimeProgram CuaError CommandResult) :
    RuntimeProgram CuaError CommandResult := do
  lockClipboard busy
  let outcome ← operation.attempt
  unlockClipboard
  Async.ofExcept outcome

def callReadClipboard (session : Session) : RuntimeProgram CuaError DriverClipboardSnapshot := do
  Async.report (.clipboardReadCalled session.id)
  let outcome ← Async.atomic fun reply s =>
    match reply with
    | .clipboardRead outcome => some (s, [.clipboardReadReturned outcome], outcome)
    | _ => none
  Async.ofExcept (outcome.mapError DriverError.toCuaError)

/-- `project_clipboard` under the lock of the session's tables. -/
def issueClipboard (session : Session) (changeMarker : String) :
    RuntimeProgram CuaError ClipboardRef :=
  Async.atomic fun _ s =>
    match s.heap.lookup session.id with
    | none => none
    | some entry =>
        let (clipboardRef, issued, state) :=
          entry.state.projectClipboard runtime.uuids s.issued changeMarker
        some ({ s.modifyTables session.id fun _ => state with issued := issued },
          [.clipboardIssued session.id clipboardRef changeMarker], clipboardRef)

def readClipboardText (session : Session) : RuntimeProgram CuaError CommandResult := do
  let snapshot ← callReadClipboard session
  Async.ofExcept (validateClipboardChangeMarker snapshot.changeMarker)
  Async.ofExcept ((snapshot.text.map fun text =>
    validateClipboardText text runtime.config.maxClipboardTextBytes).getD (.ok ()))
  let byteLength := (snapshot.text.map fun text => text.value.utf8ByteSize).getD 0
  if 2 ^ 32 ≤ byteLength then
    .fail (internalError "clipboard byte length exceeded the protocol bound" none)
  else do
    let clipboardRef ← runtime.issueClipboard session snapshot.changeMarker
    pure (.clipboardRead ⟨clipboardRef, snapshot.text, byteLength⟩)

def readClipboard (sessionId : SessionId) : RuntimeProgram CuaError CommandResult := do
  let session ← resolveSession sessionId
  if session.manifest.allowClipboardRead then
    onClipboard clipboardBusy (runtime.readClipboardText session)
  else .fail capabilityDenied

def takeClipboardMarker (session : Session) (clipboardRef : ClipboardRef) :
    RuntimeProgram CuaError String := do
  let marker ← Async.atomic fun _ s =>
    match s.heap.lookup session.id with
    | none => none
    | some entry =>
        match entry.state.takeClipboardMarker clipboardRef with
        | none => some (s, [], none)
        | some (marker, state) =>
            some (s.modifyTables session.id fun _ => state,
              [.clipboardTaken session.id clipboardRef marker], some marker)
  match marker with
  | none => .fail staleClipboard
  | some marker => pure marker

def callWriteClipboard (session : Session) (changeMarker : String) :
    RuntimeProgram CuaError (Except DriverError DriverClipboardWriteOutput) := do
  Async.report (.clipboardCalled session.id changeMarker)
  Async.atomic fun reply s =>
    match reply with
    | .clipboardWritten outcome => some (s, [.clipboardReturned outcome], outcome)
    | _ => none

def checkClipboardOutput (output : DriverClipboardWriteOutput) : Except CuaError Unit := do
  (validateClipboardChangeMarker output.changeMarker).mapError fun error =>
    error.withMutationStatus .indeterminate
  if output.effectStatus.isSupportedBy output.evidenceKind then .ok ()
  else
    .error ((internalError "driver returned incoherent clipboard effect evidence"
      (some "read_clipboard_again")).withMutationStatus .indeterminate)

def writeClipboardText (session : Session) (input : WriteClipboardInput) :
    RuntimeProgram CuaError CommandResult := do
  let changeMarker ← takeClipboardMarker session input.clipboardRef
  let result ← callWriteClipboard session changeMarker
  let output ← Async.ofExcept (result.mapError DriverError.toCuaError)
  Async.ofExcept (checkClipboardOutput output)
  let clipboardRef ← runtime.issueClipboard session output.changeMarker
  pure (.clipboardWritten
    ⟨clipboardRef, .system, true, output.effectStatus, output.evidenceKind⟩)

def writeClipboard (input : WriteClipboardInput) : RuntimeProgram CuaError CommandResult := do
  let session ← resolveSession input.sessionId
  if session.manifest.allowClipboardWrite then do
    Async.ofExcept ((validateClipboardText input.text
      runtime.config.maxClipboardTextBytes).mapError fun error =>
        error.withMutationStatus .notDispatched)
    onClipboard (clipboardBusy.withMutationStatus .notDispatched)
      (runtime.writeClipboardText session input)
  else .fail (capabilityDenied.withMutationStatus .notDispatched)

end RuntimeService

end NexusCua.Runtime
