import NexusCua.Protocol.Observation

/-!
# Commands and responses

The closed request and response envelopes.
-/

namespace NexusCua.Protocol

structure ReconcileMutationInput where
  requestId : RequestId
  waitMs : Nat
  deriving DecidableEq, Repr

structure ObserveAfterOptions where
  includeScreenshot : Bool
  accessibility : AccessibilityMode
  applicationScene : Bool
  deriving DecidableEq, Repr

structure PerformActionInput where
  observeAfter : Option ObserveAfterOptions
  sessionId : SessionId
  windowRef : WindowRef
  observationId : ObservationId
  action : Action
  deriving DecidableEq, Repr

structure VerifyStateInput where
  sessionId : SessionId
  windowRef : WindowRef
  predicate : StatePredicate
  deriving DecidableEq, Repr

inductive Command where
  | getCapabilities
  | getPermissionStatus
  | discoverApplications
  | discoverLaunchableApplications
  | launchApplication (input : LaunchApplicationInput)
  | openSession (manifest : CapabilityManifest)
  | closeSession (sessionId : SessionId)
  | listApps (sessionId : SessionId)
  | listWindows (input : ListWindowsInput)
  | listDisplays (sessionId : SessionId)
  | observeWindow (input : ObserveWindowInput)
  | observeApplicationScene (input : ObserveWindowInput)
  | observeDisplay (input : ObserveDisplayInput)
  | readClipboard (sessionId : SessionId)
  | writeClipboard (input : WriteClipboardInput)
  | performAction (input : PerformActionInput)
  | reconcileMutation (input : ReconcileMutationInput)
  | verifyState (input : VerifyStateInput)
  deriving DecidableEq, Repr

structure ActionOutput where
  observation : Option WindowObservation
  observationError : Option CuaError
  deliveryMode : DeliveryMode
  dispatched : Bool
  effectStatus : ActionEffectStatus
  evidenceKind : ActionEvidenceKind
  foregroundRestoration : ForegroundRestorationStatus
  observationInvalidated : Bool
  deriving DecidableEq, Repr

structure VerificationOutput where
  matched : Bool
  evidence : String
  deriving DecidableEq, Repr

inductive MutationAdmission where
  | unknown
  | admitted
  deriving DecidableEq, Repr

inductive MutationDisposition where
  | unknown
  | notMutation
  | pending
  | succeeded
  | notDispatched
  | indeterminate
  deriving DecidableEq, Repr

structure MutationReconciliation where
  requestId : RequestId
  runtimeEpoch : String
  workerEpoch : Option String
  admission : MutationAdmission
  disposition : MutationDisposition
  dispatched : Option Bool
  effectStatus : Option ActionEffectStatus
  evidenceKind : Option ActionEvidenceKind
  errorCode : Option ErrorCode
  freshObservationRequired : Bool
  deriving DecidableEq, Repr

inductive CommandResult where
  | capabilities (data : DriverCapabilities)
  | permissionStatus (data : PermissionStatus)
  | applicationsDiscovered (data : DiscoverApplicationsOutput)
  | launchableApplicationsDiscovered (data : DiscoverLaunchableApplicationsOutput)
  | applicationLaunched (data : ApplicationLaunchOutput)
  | sessionOpened (data : OpenSessionOutput)
  | acknowledged
  | apps (data : List ApplicationSummary)
  | windows (data : List WindowSummary)
  | displays (data : List DisplaySummary)
  | windowObserved (data : WindowObservation)
  | displayObserved (data : DisplayObservation)
  | clipboardRead (data : ClipboardSnapshot)
  | clipboardWritten (data : ClipboardWriteOutput)
  | actionPerformed (data : ActionOutput)
  | mutationReconciled (data : MutationReconciliation)
  | stateVerified (data : VerificationOutput)
  deriving DecidableEq, Repr

def CommandResult.screenshots : CommandResult → List ScreenshotArtifact
  | .windowObserved observation => observation.screenshot.toList
  | .displayObserved observation => [observation.screenshot]
  | .actionPerformed output => (output.observation.bind WindowObservation.screenshot).toList
  | _ => []

structure RequestEnvelope where
  protocolVersion : String
  requestId : RequestId
  timeoutMs : Nat
  authorization : AuthorizationToken
  command : Command
  deriving DecidableEq, Repr

inductive ResponseOutcome where
  | success (result : CommandResult)
  | error (error : CuaError)
  deriving DecidableEq, Repr

structure ResponseEnvelope where
  protocolVersion : String
  requestId : RequestId
  outcome : ResponseOutcome
  deriving DecidableEq, Repr

namespace Command

def isMutation : Command → Bool
  | .performAction _ => true
  | .launchApplication _ => true
  | .writeClipboard _ => true
  | _ => false

end Command

end NexusCua.Protocol
