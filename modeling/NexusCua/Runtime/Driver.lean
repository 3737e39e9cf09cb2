import NexusCua.Protocol.Command
import NexusCua.Runtime.Image

/-!
# The driver contract

The internal data that the runtime exchanges with a platform driver.  Keys are
owned by the driver and mean nothing to a caller.
-/

namespace NexusCua.Runtime

open NexusCua.Protocol

/-! ## Applications, windows and displays -/

structure DriverApplication where
  key : String
  processGeneration : String
  identity : String
  name : String
  applicationId : String
  foreground : Bool
  provenance : ApplicationProvenance
  deriving DecidableEq, Repr

def DriverApplication.matchesGeneration (application current : DriverApplication) : Bool :=
  application.key == current.key && application.processGeneration == current.processGeneration &&
    application.identity == current.identity && application.applicationId == current.applicationId

structure DriverLaunchableApplication where
  key : String
  launchTarget : String
  identity : String
  name : String
  applicationId : String
  provenance : ApplicationProvenance
  deriving DecidableEq, Repr

def DriverLaunchableApplication.matchesIdentity
    (application current : DriverLaunchableApplication) :
    Bool :=
  application.key == current.key && application.launchTarget == current.launchTarget &&
    application.identity == current.identity &&
    application.applicationId == current.applicationId &&
    application.provenance == current.provenance

structure DriverLaunchOutput where
  application : DriverApplication
  deliveryMode : DeliveryMode
  deriving DecidableEq, Repr

structure DriverWindow where
  key : String
  application : DriverApplication
  title : String
  screenBounds : ScreenRect
  state : WindowState
  visible : Bool
  foreground : Bool
  deriving DecidableEq, Repr

structure DriverDisplay where
  key : String
  screenBounds : ScreenRect
  primary : Bool
  deriving DecidableEq, Repr

/-! ## Observations -/

structure DriverElement where
  key : String
  parentKey : Option String
  role : String
  name : String
  value : Option String
  rangeValue : Option AccessibilityRangeValue
  screenBounds : Option ScreenRect
  enabled : Bool
  focused : Bool
  selected : Option Bool
  checked : Option Bool
  expanded : Option Bool
  actions : List String
  deriving DecidableEq, Repr

structure DriverObservation where
  windowKey : String
  windowScreenBounds : ScreenRect
  screenshot : Option RgbaImage
  screenshotScreenBounds : Option ScreenRect
  elements : List DriverElement
  elementsComplete : Bool
  elementsTruncation : Option ObservationTruncation
  fingerprint : String
  deriving DecidableEq, Repr

structure DriverVerification where
  matched : Bool
  evidence : String
  deriving DecidableEq, Repr

structure DriverClipboardSnapshot where
  changeMarker : String
  text : Option SensitiveText
  deriving DecidableEq, Repr

structure DriverClipboardWriteOutput where
  changeMarker : String
  effectStatus : ActionEffectStatus
  evidenceKind : ActionEvidenceKind
  deriving DecidableEq, Repr

/-! ## Actions -/

inductive DriverAction where
  | focusWindow
  | setWindowBounds (bounds : ScreenRect)
  | setWindowMinimized (minimized : Bool)
  | terminateApplication
  | focusElement (elementKey : String)
  | invokeElement (elementKey : String)
  | clickPoint (point : ScreenPoint) (button : PointerButton) (count : Nat)
      (delivery : DeliveryPreference)
  | pressPoint (point : ScreenPoint) (button : PointerButton) (durationMs : Nat)
  | setValue (elementKey : String) (value : SensitiveText)
  | setRangeValue (elementKey : String) (value : Float)
  | toggleElement (elementKey : String)
  | selectElement (elementKey : String)
  | setExpanded (elementKey : String) (expanded : Bool)
  | movePointer (point : ScreenPoint) (durationMs : Nat)
  | typeText (text : SensitiveText)
  | pressKeys (keys : List String)
  | scroll (point : ScreenPoint) (deltaX deltaY : Float)
  | drag (start finish : ScreenPoint) (durationMs : Nat)
  deriving DecidableEq, Repr

/-- The action activates its target for input and can restore the prior owner afterwards. -/
def DriverAction.supportsForegroundRestoration : DriverAction → Bool
  | .clickPoint _ _ _ .foreground => true
  | .pressPoint .. => true
  | .movePointer .. => true
  | .typeText _ => true
  | .pressKeys _ => true
  | .scroll .. => true
  | .drag .. => true
  | _ => false

structure DriverActionOutput where
  deliveryMode : DeliveryMode
  effectStatus : ActionEffectStatus
  evidenceKind : ActionEvidenceKind
  foregroundRestoration : ForegroundRestorationStatus
  deriving DecidableEq, Repr

def DriverActionOutput.evidenceIsCoherent (output : DriverActionOutput) : Bool :=
  output.effectStatus.isSupportedBy output.evidenceKind

end NexusCua.Runtime
