import NexusCua.Protocol.Identifiers
import NexusCua.Protocol.Geometry

/-!
# Actions

User-visible input actions, the categories a capability manifest grants, and
the closed classifications of their delivery and effect.
-/

namespace NexusCua.Protocol

def canonicalKey (key : String) : String :=
  match key with
  | "cmd" => "command"
  | "ctrl" => "control"
  | "opt" => "option"
  | "esc" => "escape"
  | "return" => "enter"
  | "pageup" => "page_up"
  | "pagedown" => "page_down"
  | _ => key

inductive ActionKind where
  | focusWindow
  | setWindowBounds
  | setWindowMinimized
  | terminateApplication
  | focusElement
  | invokeElement
  | clickPoint
  | pressPoint
  | setValue
  | setRangeValue
  | toggleElement
  | selectElement
  | setExpanded
  | movePointer
  | typeText
  | pressKeys
  | scroll
  | drag
  deriving DecidableEq, Repr

inductive PointerButton where
  | left
  | middle
  | right
  deriving DecidableEq, Repr

inductive DeliveryPreference where
  | background
  | foreground
  deriving DecidableEq, Repr

inductive Action where
  | focusWindow
  | setWindowBounds (bounds : ScreenRect)
  | setWindowMinimized (minimized : Bool)
  | terminateApplication
  | focusElement (elementRef : ElementRef)
  | invokeElement (elementRef : ElementRef)
  | clickPoint (point : NormalizedPoint) (button : PointerButton) (count : Nat)
      (delivery : DeliveryPreference)
  | pressPoint (point : NormalizedPoint) (button : PointerButton) (durationMs : Nat)
  | setValue (elementRef : ElementRef) (value : SensitiveText)
  | setRangeValue (elementRef : ElementRef) (value : Float)
  | toggleElement (elementRef : ElementRef)
  | selectElement (elementRef : ElementRef)
  | setExpanded (elementRef : ElementRef) (expanded : Bool)
  | movePointer (point : NormalizedPoint) (durationMs : Nat)
  | typeText (text : SensitiveText)
  | pressKeys (keys : List String)
  | scroll (point : NormalizedPoint) (deltaX deltaY : Float)
  | drag (start finish : NormalizedPoint) (durationMs : Nat)
  deriving DecidableEq, Repr

namespace Action

def kind : Action → ActionKind
  | .focusWindow => .focusWindow
  | .setWindowBounds _ => .setWindowBounds
  | .setWindowMinimized _ => .setWindowMinimized
  | .terminateApplication => .terminateApplication
  | .focusElement _ => .focusElement
  | .invokeElement _ => .invokeElement
  | .clickPoint .. => .clickPoint
  | .pressPoint .. => .pressPoint
  | .setValue .. => .setValue
  | .setRangeValue .. => .setRangeValue
  | .toggleElement _ => .toggleElement
  | .selectElement _ => .selectElement
  | .setExpanded .. => .setExpanded
  | .movePointer .. => .movePointer
  | .typeText _ => .typeText
  | .pressKeys _ => .pressKeys
  | .scroll .. => .scroll
  | .drag .. => .drag

def requiresForeground : Action → Bool
  | .focusWindow => true
  | .movePointer .. => true
  | .clickPoint _ _ _ .foreground => true
  | .pressPoint .. => true
  | .typeText _ => true
  | .pressKeys _ => true
  | .scroll .. => true
  | .drag .. => true
  | _ => false

end Action

inductive ElementState where
  | enabled
  | focused
  | selected
  | checked
  | expanded
  deriving DecidableEq, Repr

inductive StatePredicate where
  | windowTitleContains (text : String)
  | elementExists (role name : Option String)
  | elementState (role name : Option String) (state : ElementState) (value : Bool)
  | boundsContained (inner outer : ScreenRect)
  deriving DecidableEq, Repr

inductive DeliveryMode where
  | semantic
  | system
  | background
  | foreground
  deriving DecidableEq, Repr

inductive ActionEffectStatus where
  | confirmed
  | unverified
  deriving DecidableEq, Repr

inductive ActionEvidenceKind where
  | nativeReadback
  | dispatchAcceptance
  deriving DecidableEq, Repr

def ActionEffectStatus.isSupportedBy : ActionEffectStatus → ActionEvidenceKind → Bool
  | .confirmed, .nativeReadback => true
  | .unverified, .dispatchAcceptance => true
  | _, _ => false

inductive ForegroundRestorationStatus where
  | notRequested
  | notNeeded
  | restored
  | skippedOwnerChanged
  | targetUnavailable
  | failed
  deriving DecidableEq, Repr

/-! ## Limits -/

structure ActionLimits where
  maxSessionTtlSeconds : Nat
  maxTextBytes : Nat
  maxKeys : Nat
  maxScrollDelta : Nat
  maxPointerDurationMs : Nat
  maxWindowCoordinate : Nat
  maxWindowDimension : Nat
  maxRangeValue : Nat
  maxClickCount : Nat
  deriving DecidableEq, Repr

def ActionLimits.default : ActionLimits where
  maxSessionTtlSeconds := 3600
  maxTextBytes := 65536
  maxKeys := 8
  maxScrollDelta := 100000
  maxPointerDurationMs := 10000
  maxWindowCoordinate := 1000000
  maxWindowDimension := 100000
  maxRangeValue := 1000000000000
  maxClickCount := 3

end NexusCua.Protocol
