import NexusCua.Protocol.Action

/-!
# Sessions, discovery and observations

The data a client receives about applications, windows, displays and the
clipboard, the manifest that opens a session, and the driver's capabilities.
-/

namespace NexusCua.Protocol

/-! ## Sessions -/

inductive PermissionMode where
  | readOnly
  | bounded
  deriving DecidableEq, Repr

structure CapabilityManifest where
  mode : PermissionMode
  applicationRefs : List DiscoveryRef
  allowedActions : List ActionKind
  allowForegroundInput : Bool
  restoreForegroundAfterInput : Bool
  allowDisplayCapture : Bool
  allowClipboardRead : Bool
  allowClipboardWrite : Bool
  ttlSeconds : Nat
  deriving DecidableEq, Repr

structure OpenSessionOutput where
  sessionId : SessionId
  expiresAt : String
  deriving DecidableEq, Repr

/-! ## Discovery -/

inductive SignatureStatus where
  | verified
  | invalid
  | unsigned
  | unknown
  deriving DecidableEq, Repr

inductive ApplicationProvenance where
  | macos (bundleId executablePath signingTeamId designatedRequirement : Option String)
  | windows (executablePath : String) (publisher : Option String)
      (signatureStatus : SignatureStatus)
  | unsupported (executablePath : Option String)
  deriving DecidableEq, Repr

structure DiscoveredApplication where
  discoveryRef : DiscoveryRef
  name : String
  applicationId : String
  foreground : Bool
  provenance : ApplicationProvenance
  expiresAt : String
  deriving DecidableEq, Repr

structure DiscoverApplicationsOutput where
  applications : List DiscoveredApplication
  complete : Bool
  deriving DecidableEq, Repr

structure LaunchableApplication where
  launchRef : LaunchRef
  name : String
  applicationId : String
  provenance : ApplicationProvenance
  expiresAt : String
  deriving DecidableEq, Repr

structure DiscoverLaunchableApplicationsOutput where
  applications : List LaunchableApplication
  complete : Bool
  deriving DecidableEq, Repr

structure LaunchApplicationInput where
  launchRef : LaunchRef
  allowForegroundActivation : Bool
  deriving DecidableEq, Repr

structure ApplicationLaunchOutput where
  application : DiscoveredApplication
  deliveryMode : DeliveryMode
  dispatched : Bool
  deriving DecidableEq, Repr

/-! ## Applications, windows and displays -/

structure ApplicationSummary where
  appRef : AppRef
  name : String
  applicationId : String
  foreground : Bool
  deriving DecidableEq, Repr

inductive WindowState where
  | normal
  | minimized
  | offscreen
  | unknown
  deriving DecidableEq, Repr

structure WindowSummary where
  windowRef : WindowRef
  appRef : AppRef
  title : String
  screenBounds : ScreenRect
  state : WindowState
  visible : Bool
  foreground : Bool
  deriving DecidableEq, Repr

structure ListWindowsInput where
  sessionId : SessionId
  appRef : Option AppRef
  deriving DecidableEq, Repr

structure DisplaySummary where
  displayRef : DisplayRef
  screenBounds : ScreenRect
  primary : Bool
  deriving DecidableEq, Repr

/-! ## Observations -/

structure ObserveDisplayInput where
  sessionId : SessionId
  displayRef : DisplayRef
  deriving DecidableEq, Repr

inductive AccessibilityMode where
  | disabled
  | interactive
  | full
  deriving DecidableEq, Repr

structure ObserveWindowInput where
  sessionId : SessionId
  windowRef : WindowRef
  includeScreenshot : Bool
  accessibility : AccessibilityMode
  deriving DecidableEq, Repr

structure ScreenshotArtifact where
  artifactRef : ArtifactRef
  path : String
  mimeType : String
  mapping : ScreenshotMapping
  byteLength : Nat
  sha256 : String
  deriving DecidableEq, Repr

structure AccessibilityRangeValue where
  value : Float
  minimum : Float
  maximum : Float
  smallChange : Option Float
  largeChange : Option Float
  readOnly : Bool
  deriving DecidableEq, Repr

structure AccessibilityElement where
  elementRef : ElementRef
  parentRef : Option ElementRef
  role : String
  name : String
  value : Option String
  rangeValue : Option AccessibilityRangeValue
  screenBounds : Option ScreenRect
  enabled : Bool
  focused : Bool
  selected : Option Bool
  checked : Option Bool
  expanded : Option Bool
  actions : List String
  deriving DecidableEq, Repr

inductive TruncationReason where
  | nodeLimit
  | depthLimit
  | byteLimit
  | deadline
  | providerFailure
  deriving DecidableEq, Repr

structure ObservationTruncation where
  reason : TruncationReason
  emittedElements : Nat
  deriving DecidableEq, Repr

structure WindowObservation where
  observationId : ObservationId
  windowRef : WindowRef
  capturedAt : String
  windowScreenBounds : ScreenRect
  screenshot : Option ScreenshotArtifact
  elements : List AccessibilityElement
  elementsComplete : Bool
  elementsTruncation : Option ObservationTruncation
  deriving DecidableEq, Repr

structure DisplayObservation where
  observationId : ObservationId
  displayRef : DisplayRef
  capturedAt : String
  displayScreenBounds : ScreenRect
  screenshot : ScreenshotArtifact
  deriving DecidableEq, Repr

/-! ## Clipboard -/

inductive ClipboardOperation where
  | readText
  | writeText
  deriving DecidableEq, Repr

structure ClipboardSnapshot where
  clipboardRef : ClipboardRef
  text : Option SensitiveText
  byteLength : Nat
  deriving DecidableEq, Repr

structure WriteClipboardInput where
  sessionId : SessionId
  clipboardRef : ClipboardRef
  text : SensitiveText
  deriving DecidableEq, Repr

structure ClipboardWriteOutput where
  clipboardRef : ClipboardRef
  deliveryMode : DeliveryMode
  dispatched : Bool
  effectStatus : ActionEffectStatus
  evidenceKind : ActionEvidenceKind
  deriving DecidableEq, Repr

/-! ## Capabilities -/

inductive Platform where
  | macos
  | windows
  | unsupported
  deriving DecidableEq, Repr

inductive CaptureMode where
  | applicationScene
  | window
  | display
  deriving DecidableEq, Repr

inductive InputRoute where
  | semantic
  | system
  | background
  | foreground
  deriving DecidableEq, Repr

inductive ApplicationLifecycleOperation where
  | launch
  deriving DecidableEq, Repr

inductive PermissionState where
  | granted
  | denied
  | notDetermined
  | notApplicable
  | unknown
  deriving DecidableEq, Repr

structure PermissionStatus where
  screenCapture : PermissionState
  accessibility : PermissionState
  inputControl : PermissionState
  deriving DecidableEq, Repr

structure DriverCapabilities where
  observeAfter : Bool
  actionLimits : ActionLimits
  protocolVersion : String
  runtimeVersion : String
  platform : Platform
  primaryModifier : String
  captureModes : List CaptureMode
  accessibilityTree : Bool
  inputRoutes : List InputRoute
  applicationLifecycle : List ApplicationLifecycleOperation
  clipboard : List ClipboardOperation
  actions : List ActionKind
  deriving DecidableEq, Repr

end NexusCua.Protocol
