import NexusCua.Runtime.Commands

/-!
# Observations and actions

Capturing windows and displays, storing their screenshots, and performing one
guarded action on what was observed.
-/

namespace NexusCua.Runtime

open NexusCua.Foundation NexusCua.Protocol

variable {χ α : Type}

/-! ## Writing a screenshot -/

def storageStep (step : ArtifactStore → Option ArtifactStore) (events : List RuntimeEvent) :
    RuntimeProgram CuaError Unit := do
  let done ← Async.atomic fun reply s =>
    match reply with
    | .storage true =>
        match step s.store with
        | some store => some ({ s with store := store }, events, true)
        | none => some (s, [], false)
    | .storage false => some (s, [], false)
    | _ => none
  if done then pure () else .fail ioError

def createArtifactDirectory (sessionId : SessionId) : RuntimeProgram CuaError Unit :=
  storageStep (fun store => some (store.createDirectory sessionId)) []

def setDirectoryPermissions (sessionId : SessionId) : RuntimeProgram CuaError Unit :=
  storageStep (fun store => if store.hasDirectory sessionId then some store else none) []

def createArtifactFile (sessionId : SessionId) (artifactRef : ArtifactRef) :
    RuntimeProgram CuaError Unit :=
  storageStep (fun store => store.createFile sessionId artifactRef)
    [.fileCreated sessionId artifactRef]

def writeArtifactFile (sessionId : SessionId) (artifactRef : ArtifactRef) (bytes : List UInt8) :
    RuntimeProgram CuaError Unit := do
  let done ← Async.atomic fun reply s =>
    match reply with
    | .storage true =>
        some ({ s with store := s.store.writeFile sessionId artifactRef bytes },
          [.fileWritten sessionId artifactRef true], true)
    | .storage false => some (s, [.fileWritten sessionId artifactRef false], false)
    | _ => none
  if done then pure () else .fail ioError

def removeEvicted (sessionId : SessionId) :
    Option ArtifactRef → RuntimeProgram CuaError Unit
  | none => pure ()
  | some evicted => do
      let removed ← Async.update fun s =>
        match s.store.removeFile sessionId evicted with
        | some store => ({ s with store := store }, true)
        | none => (s, false)
      if removed then pure () else .fail ioError

def acquirePermit : RuntimeProgram χ Unit :=
  Async.atomic fun _ s =>
    if s.artifactPermits = 0 then none
    else some ({ s with artifactPermits := s.artifactPermits - 1 }, [], ())

def releasePermit : RuntimeProgram χ Unit :=
  Async.update fun s => ({ s with artifactPermits := s.artifactPermits + 1 }, ())

def startWorker : RuntimeProgram CuaError Unit := do
  let started ← Async.receive fun
    | .none => some true
    | .workerStopped => some false
    | _ => none
  if started then pure ()
  else .fail (publicError .internal "artifact worker stopped unexpectedly" true
    (some "restart_runtime"))

/-- Equality of rectangles as the source compares them, by IEEE equality of the sides. -/
def sameBounds (left right : ScreenRect) : Bool :=
  Float.beq left.x right.x && Float.beq left.y right.y && Float.beq left.width right.width &&
    Float.beq left.height right.height

namespace RuntimeService

variable (runtime : RuntimeService)

def registerArtifact (sessionId : SessionId) (artifactRef : ArtifactRef) :
    RuntimeProgram CuaError Unit := do
  let evicted ← Async.atomic fun _ s =>
    let (store, evicted) :=
      s.store.registerArtifact sessionId artifactRef runtime.config.maxArtifactsPerSession
    some ({ s with store := store }, [.registered sessionId artifactRef evicted], evicted)
  removeEvicted sessionId evicted

def drawArtifact : RuntimeProgram CuaError ArtifactRef :=
  Async.update fun s =>
    ({ s with issued := s.issued + 1 }, (⟨runtime.uuids.issue "artifact" s.issued⟩ : ArtifactRef))

def imageLimits : ImageLimits := ⟨runtime.config.maxImagePixels, runtime.config.maxImageEdge⟩

def screenshotArtifact (sessionId : SessionId) (artifactRef : ArtifactRef)
    (screenBounds : ScreenRect) (size : PixelSize) (bytes : List UInt8) : ScreenshotArtifact where
  artifactRef := artifactRef
  path := artifactPath runtime.artifactRoot sessionId artifactRef
  mimeType := "image/png"
  mapping := ⟨screenBounds, size⟩
  byteLength := bytes.length
  sha256 := runtime.sha256 bytes

/-- `ArtifactStore::write_image` -/
def writeImage (sessionId : SessionId) (image : RgbaImage) (screenBounds : ScreenRect) :
    RuntimeProgram CuaError ScreenshotArtifact := do
  Async.ofExcept (validateImage runtime.imageLimits image)
  let artifactRef ← runtime.drawArtifact
  createArtifactDirectory sessionId
  setDirectoryPermissions sessionId
  let (size, bytes) ← Async.ofExcept (encodeImage runtime.codec runtime.imageLimits image)
  createArtifactFile sessionId artifactRef
  writeArtifactFile sessionId artifactRef bytes
  runtime.registerArtifact sessionId artifactRef
  pure (runtime.screenshotArtifact sessionId artifactRef screenBounds size bytes)

def writeScreenshot (sessionId : SessionId) (image : RgbaImage) (screenBounds : ScreenRect) :
    RuntimeProgram CuaError ScreenshotArtifact := do
  acquirePermit
  let outcome ← (do
    startWorker
    runtime.writeImage sessionId image screenBounds).attempt
  releasePermit
  Async.ofExcept outcome

/-- The check after a screenshot was written: a revoked session leaves nothing behind. -/
def ensureLive (sessionId : SessionId) : RuntimeProgram CuaError Unit := do
  let revoked ← isRevoked sessionId
  if revoked then do
    removeSessionArtifacts sessionId
    .fail sessionUnavailable
  else pure ()

/-! ## Displays -/

def drawObservationId : RuntimeProgram CuaError ObservationId :=
  Async.update fun s =>
    ({ s with issued := s.issued + 1 },
      (⟨runtime.uuids.issue "observation" s.issued⟩ : ObservationId))

def captureDisplay (session : Session) (input : ObserveDisplayInput) :
    RuntimeProgram CuaError CommandResult := do
  let display ← readTables session.id fun state => state.displays.lookup input.displayRef
  match display with
  | none => .fail referenceNotFound
  | some display => do
      let (image, screenBounds) ← askDriver fun
        | .displayObserved outcome => some outcome
        | _ => none
      if sameBounds screenBounds display.screenBounds then do
        let screenshot ← runtime.writeScreenshot session.id image screenBounds
        ensureLive session.id
        let (_, capturedAt) ← timestamp "failed to format display observation timestamp"
        let observationId ← runtime.drawObservationId
        pure (.displayObserved
          ⟨observationId, input.displayRef, capturedAt, screenBounds, screenshot⟩)
      else
        .fail (publicError .staleObservation "display topology changed during capture" true
          (some "list_displays_again"))

def observeDisplay (input : ObserveDisplayInput) : RuntimeProgram CuaError CommandResult := do
  let session ← resolveSession input.sessionId
  if session.manifest.allowDisplayCapture then runtime.captureDisplay session input
  else .fail capabilityDenied

/-! ## Windows -/

def receiveObservation : RuntimeProgram CuaError (Except DriverError DriverObservation) :=
  Async.receive fun
    | .windowObserved outcome => some outcome
    | _ => none

def foundStale : Except DriverError DriverObservation → Bool
  | .error error => error.kind == .staleObservation
  | .ok _ => false

def observeDriverWindow : RuntimeProgram CuaError DriverObservation := do
  let first ← receiveObservation
  if foundStale first then do
    let second ← receiveObservation
    Async.ofExcept (second.mapError DriverError.toCuaError)
  else Async.ofExcept (first.mapError DriverError.toCuaError)

def startCapture (session : Session) (windowRef : WindowRef) (window : DriverWindow) :
    RuntimeProgram CuaError Nat :=
  Async.atomic fun _ s =>
    some (s, [.captureStarted ⟨session.id, windowRef, window.application, s.now⟩], s.now)

def storeScreenshot (session : Session) (observation : DriverObservation) :
    RuntimeProgram CuaError (Option ScreenshotArtifact) :=
  match observation.screenshot, observation.screenshotScreenBounds with
  | some image, some screenBounds => do
      let screenshot ← runtime.writeScreenshot session.id image screenBounds
      pure (some screenshot)
  | none, none => pure none
  | _, _ => .fail (internalError "driver returned an incomplete screenshot mapping" none)

def elementsComplete (observation : DriverObservation) : Bool :=
  observation.elementsComplete &&
    decide (observation.elements.length ≤ runtime.config.maxElementsPerObservation)

def elementsTruncation (observation : DriverObservation) (published : Nat) :
    Option ObservationTruncation :=
  if runtime.elementsComplete observation then none
  else if runtime.config.maxElementsPerObservation < observation.elements.length then
    some ⟨.nodeLimit, min published (2 ^ 32 - 1)⟩
  else observation.elementsTruncation

def publishObservation (session : Session) (windowRef : WindowRef) (applicationScene : Bool)
    (startedAt : Nat) (observation : DriverObservation) (screenshot : Option ScreenshotArtifact)
    (capturedAt : String) : RuntimeProgram CuaError WindowObservation :=
  Async.atomic fun _ s =>
    match s.heap.lookup session.id with
    | none => none
    | some entry =>
        let state := (entry.state.invalidateWindowObservations windowRef).trimObservations
          runtime.config.maxObservationsPerSession
        let (record, elements, issued) := projectObservation runtime.uuids s.issued observation
          windowRef (screenshot.map ScreenshotArtifact.mapping)
          runtime.config.maxElementsPerObservation applicationScene startedAt
        let state :=
          { state with observations := state.observations.insert record.id record }
        some ({ s.modifyTables session.id fun _ => state with issued := issued },
          [.published session.id record],
          { observationId := record.id
            windowRef := windowRef
            capturedAt := capturedAt
            windowScreenBounds := observation.windowScreenBounds
            screenshot := screenshot
            elements := elements
            elementsComplete := runtime.elementsComplete observation
            elementsTruncation := runtime.elementsTruncation observation elements.length })

def captureWindow (session : Session) (input : ObserveWindowInput) (applicationScene : Bool)
    (window : DriverWindow) : RuntimeProgram CuaError WindowObservation := do
  let startedAt ← startCapture session input.windowRef window
  let observation ← observeDriverWindow
  let revoked ← isRevoked session.id
  if revoked then .fail sessionUnavailable
  else if observation.windowKey ≠ window.key then
    .fail (internalError "driver observation target mismatch" none)
  else do
    let screenshot ← runtime.storeScreenshot session observation
    ensureLive session.id
    let (_, capturedAt) ← timestamp "failed to format observation timestamp"
    runtime.publishObservation session input.windowRef applicationScene startedAt observation
      screenshot capturedAt

def observeWindow (input : ObserveWindowInput) (applicationScene : Bool) :
    RuntimeProgram CuaError WindowObservation := do
  let session ← resolveSession input.sessionId
  let window ← authorizedWindow session input.windowRef
  runtime.captureWindow session input applicationScene window

/-! ## Actions -/

/-- `validate_action_authority`, after the check of a guard of its own. -/
def grantsAction (session : Session) (action : Action) : Except CuaError Unit :=
  if session.manifest.mode ≠ .bounded ∨
      !session.manifest.allowedActions.contains action.kind then
    .error capabilityDenied
  else if action.requiresForeground && !session.manifest.allowForegroundInput then
    .error (publicError .foregroundRequired
      "action requires foreground input not granted by this session" false
      (some "request_foreground_authorization"))
  else .ok ()

def validateActionAuthority (session : Session) (action : Action) :
    RuntimeProgram CuaError Unit := do
  let guard ← actionGuard session.id
  let checked ← (onGuard session.id guard.check).attempt
  dropGuard session.id guard
  Async.ofExcept checked
  Async.ofExcept (grantsAction session action)

/-- `try_lock` on the foreground lane, for the actions that need it. -/
def lockForeground (required : Bool) : RuntimeProgram CuaError Unit :=
  if required then do
    let locked ← Async.update fun s =>
      if s.foregroundLane then (s, false) else ({ s with foregroundLane := true }, true)
    if locked then pure ()
    else .fail ((busyError "the desktop foreground-input lane is busy"
      "retry_with_fresh_observation").withMutationStatus .notDispatched)
  else pure ()

def unlockForeground (required : Bool) : RuntimeProgram CuaError Unit :=
  if required then Async.update fun s => ({ s with foregroundLane := false }, ())
  else pure ()

structure ConsumedAction where
  window : DriverWindow
  fingerprint : String
  action : DriverAction
  observedAt : Nat

def resolveObserved (input : PerformActionInput) (activity : InputActivity)
    (observation : ObservationRecord) : Except CuaError DriverAction := do
  validateAction input.action observation.screenshotMapping
  (activity.checkObservation (some observation.createdAt)).mapError DriverError.toCuaError
  resolveAction input.action observation

/-- The cited observation is consumed, or invalidated when it cannot be used any more. -/
def consume (session : Session) (input : PerformActionInput) (now : Nat)
    (activity : InputActivity) (state : SessionState) :
    SessionState × Except CuaError ConsumedAction :=
  match state.windows.lookup input.windowRef with
  | none => (state, .error referenceNotFound)
  | some window =>
      if session.allowsApplication window.application then
        match state.observations.lookup input.observationId with
        | none => (state, .error staleObservation)
        | some observation =>
            if observation.windowRef ≠ input.windowRef ∨ observation.status ≠ .valid ∨
                runtime.config.maxObservationAge < now - observation.createdAt then
              (state.setStatus input.observationId .invalid, .error staleObservation)
            else
              match resolveObserved input activity observation with
              | .error error => (state, .error error)
              | .ok action =>
                  (state.setStatus input.observationId .inFlight,
                    .ok ⟨window, observation.fingerprint, action, observation.createdAt⟩)
      else (state, .error capabilityDenied)

def consumedEvents (input : PerformActionInput) :
    Except CuaError ConsumedAction → List RuntimeEvent
  | .ok consumed => [.consumed ⟨input, consumed.window⟩]
  | .error _ => []

/-- Under the lock of the session's tables; the activity mutex is taken inside it. -/
def consumeObservation (session : Session) (input : PerformActionInput) :
    RuntimeProgram CuaError ConsumedAction := do
  let outcome ← Async.atomic fun _ s =>
    match s.heap.lookup session.id with
    | none => none
    | some entry =>
        if entry.guard.activityLocked then none
        else
          let (state, outcome) :=
            runtime.consume session input s.now entry.guard.activity entry.state
          some (s.modifyTables session.id fun _ => state, consumedEvents input outcome, outcome)
  Async.ofExcept outcome

def verifyCurrent (session : Session) (guard : DriverActionGuard) :
    RuntimeProgram CuaError Bool := do
  let current ← askDriver fun
    | .observationCurrent outcome => some outcome
    | _ => none
  onGuard session.id guard.check
  onGuard session.id guard.checkObservation
  pure current

def invalidateObservation (session : Session) (observationId : ObservationId) :
    RuntimeProgram CuaError Unit :=
  updateTables session.id fun issued state =>
    ((), issued, state.setStatus observationId .invalid)

def verifyObservation (session : Session) (input : PerformActionInput)
    (guard : DriverActionGuard) : RuntimeProgram CuaError Unit := do
  let verification ← (verifyCurrent session guard).attempt
  match verification with
  | .ok true => pure ()
  | .ok false => do
      invalidateObservation session input.observationId
      .fail staleObservation
  | .error error => do
      invalidateObservation session input.observationId
      .fail error

/-! ### Dispatch -/

def callPerform (call : ActionCall) (session : Session) (action : DriverAction)
    (guard : DriverActionGuard) :
    RuntimeProgram CuaError (Except DriverError DriverActionOutput) := do
  Async.atomic fun _ s =>
    some (s, [.performCalled ⟨call, action, session.manifest.allowForegroundInput,
      session.manifest.restoreForegroundAfterInput, guard, s.now⟩], ())
  Async.atomic fun reply s =>
    match reply with
    | .actionPerformed outcome => some (s, [.performReturned outcome], outcome)
    | _ => none

def invalidateWindow (session : Session) (windowRef : WindowRef) : RuntimeProgram CuaError Unit :=
  Async.atomic fun _ s =>
    some (s.modifyTables session.id fun state => state.invalidateWindowObservations windowRef,
      [.windowInvalidated session.id windowRef], ())

def invalidateApplications (application : DriverApplication) :
    List SessionId → RuntimeProgram CuaError Unit
  | [] => pure ()
  | sessionId :: rest => do
      Async.atomic fun _ s =>
        some (s.modifyTables sessionId fun state =>
            state.invalidateApplicationObservations application,
          [.applicationInvalidated sessionId application], ())
      invalidateApplications application rest

def invalidateApplicationGeneration (application : DriverApplication) :
    RuntimeProgram CuaError Unit := do
  Async.update fun s =>
    (withDiscovery s (s.discovery.retain fun _ record =>
      !record.application.matchesGeneration application), ())
  let sessions ← Async.observe (fun s => .sessionsListed s.sessions) RuntimeState.sessions
  invalidateApplications application sessions

def terminationMayHaveDispatched (action : Action)
    (result : Except DriverError DriverActionOutput) : Bool :=
  action.kind == .terminateApplication &&
    match result with
    | .ok _ => true
    | .error error => error.mutationStatus != .notDispatched

def invalidateAfterActionAttempt (session : Session) (call : ActionCall)
    (result : Except DriverError DriverActionOutput) : RuntimeProgram CuaError Unit :=
  if terminationMayHaveDispatched call.input.action result then
    invalidateApplicationGeneration call.window.application
  else invalidateWindow session call.input.windowRef

def admittedActionResult (result : Except DriverError DriverActionOutput) :
    Except CuaError DriverActionOutput :=
  admittedResult result

def outputError (message : String) : CuaError :=
  (internalError message none).withMutationStatus .indeterminate

def projectActionOutput (session : Session) (requiresForeground supportsRestoration : Bool)
    (result : DriverActionOutput) : Except CuaError ActionOutput :=
  if result.deliveryMode = .foreground ∧
      (!session.manifest.allowForegroundInput || !requiresForeground) then
    .error (outputError "driver exceeded the authorized delivery mode")
  else
    let restorationExpected := session.manifest.restoreForegroundAfterInput &&
      result.deliveryMode == .foreground && supportsRestoration
    if restorationExpected = (result.foregroundRestoration == .notRequested) then
      .error (outputError "driver returned an invalid foreground restoration status")
    else if !result.evidenceIsCoherent then
      .error (outputError "driver returned incoherent action effect evidence")
    else
      .ok
        { observation := none
          observationError := none
          deliveryMode := result.deliveryMode
          dispatched := true
          effectStatus := result.effectStatus
          evidenceKind := result.evidenceKind
          foregroundRestoration := result.foregroundRestoration
          observationInvalidated := true }

def prepareAction (session : Session) (input : PerformActionInput) (guard : DriverActionGuard) :
    RuntimeProgram CuaError (ConsumedAction × DriverActionGuard) := do
  waitUntilIdle session.id guard
  lockForeground input.action.requiresForeground
  let prepared ← (do
    let consumed ← runtime.consumeObservation session input
    let guard := { guard with observedAt := some consumed.observedAt }
    verifyObservation session input guard
    pure (consumed, guard) : RuntimeProgram CuaError (ConsumedAction × DriverActionGuard)).attempt
  match prepared with
  | .ok prepared => pure prepared
  | .error error => do
      unlockForeground input.action.requiresForeground
      .fail error

def dispatchAction (session : Session) (input : PerformActionInput) (consumed : ConsumedAction)
    (guard : DriverActionGuard) : RuntimeProgram CuaError ActionOutput := do
  let call : ActionCall := ⟨input, consumed.window⟩
  let result ← callPerform call session consumed.action guard
  invalidateAfterActionAttempt session call result
  unlockForeground input.action.requiresForeground
  let output ← Async.ofExcept (admittedActionResult result)
  Async.ofExcept (projectActionOutput session input.action.requiresForeground
    consumed.action.supportsForegroundRestoration output)

def performActionOnly (input : PerformActionInput) : RuntimeProgram CuaError ActionOutput := do
  let session ← resolveSession input.sessionId
  validateActionAuthority session input.action
  let guard ← actionGuard session.id
  let prepared ← (runtime.prepareAction session input guard).attempt
  match prepared with
  | .ok (consumed, guard) => dispatchAction session input consumed guard
  | .error error => do
      dropGuard session.id guard
      .fail error

/-! ### The observation after an action -/

def observationAfter (input : PerformActionInput) : Option (ObserveWindowInput × Bool) :=
  input.observeAfter.map fun options =>
    (⟨input.sessionId, input.windowRef, options.includeScreenshot, options.accessibility⟩,
      options.applicationScene)

def observationCommand : ObserveWindowInput × Bool → Command
  | (input, true) => .observeApplicationScene input
  | (input, false) => .observeWindow input

def authorizeAfter (input : PerformActionInput) : Except CuaError Unit :=
  match observationAfter input with
  | none => .ok ()
  | some after =>
      (runtime.config.policy.authorize (observationCommand after)).mapError fun error =>
        error.withMutationStatus .notDispatched

def settleWindow (input : ObserveWindowInput) : RuntimeProgram CuaError Unit := do
  let session ← resolveSession input.sessionId
  let window ← readTables session.id fun state => state.windows.lookup input.windowRef
  match window with
  | none => .fail referenceNotFound
  | some _ =>
      askDriver fun
        | .windowSettled outcome => some outcome
        | _ => none

def settleForScreenshot (input : ObserveWindowInput) : RuntimeProgram CuaError Unit :=
  if input.includeScreenshot then settleWindow input else pure ()

def observeAfterAction (input : ObserveWindowInput) (applicationScene : Bool) :
    RuntimeProgram CuaError WindowObservation := do
  settleForScreenshot input
  runtime.observeWindow input applicationScene

def performAction (input : PerformActionInput) : RuntimeProgram CuaError CommandResult := do
  Async.ofExcept (runtime.authorizeAfter input)
  let output ← runtime.performActionOnly input
  match observationAfter input with
  | none => pure (.actionPerformed output)
  | some (after, applicationScene) => do
      let observed ← (runtime.observeAfterAction after applicationScene).attempt
      match observed with
      | .ok observation =>
          pure (.actionPerformed { output with observation := some observation })
      | .error error =>
          pure (.actionPerformed { output with observationError := some error })

end RuntimeService

end NexusCua.Runtime
