import NexusCua.Foundation.Table
import NexusCua.Runtime.Driver

/-!
# Sessions

The immutable grant of a session, the tables behind its public references, and
the projection of driver data to them.  Functions that mint references are
given the number of identifiers drawn so far and return the new number.
-/

namespace NexusCua.Runtime

open NexusCua.Foundation NexusCua.Protocol

/-- What `open_session` fixes once and for all. -/
structure Session where
  id : SessionId
  manifest : CapabilityManifest
  allowedApplications : List DriverApplication
  expiresAt : Nat
  deriving DecidableEq, Repr

def Session.allowsApplication (session : Session) (application : DriverApplication) : Bool :=
  session.allowedApplications.any fun allowed => allowed.matchesGeneration application

/-! ## Session state -/

inductive ObservationStatus where
  | valid
  | inFlight
  | invalid
  deriving DecidableEq, Repr

structure ObservationRecord where
  applicationScene : Bool
  id : ObservationId
  windowRef : WindowRef
  screenshotMapping : Option ScreenshotMapping
  fingerprint : String
  createdAt : Nat
  status : ObservationStatus
  elements : Table ElementRef DriverElement

structure ClipboardRecord where
  id : ClipboardRef
  changeMarker : String
  deriving DecidableEq, Repr

structure SessionState where
  applications : Table AppRef DriverApplication
  applicationRefs : Table String AppRef
  windows : Table WindowRef DriverWindow
  windowRefs : Table String WindowRef
  displays : Table DisplayRef DriverDisplay
  displayRefs : Table String DisplayRef
  observations : Table ObservationId ObservationRecord
  clipboard : Option ClipboardRecord

namespace SessionState

def empty : SessionState := ⟨∅, ∅, ∅, ∅, ∅, ∅, ∅, none⟩

variable (uuids : UuidSource)

def projectApplication (issued : Nat) (state : SessionState) (application : DriverApplication) :
    AppRef × Nat × SessionState :=
  match state.applicationRefs.lookup application.key with
  | some existing =>
      (existing, issued,
        { state with applications := state.applications.insert existing application })
  | none =>
      let appRef : AppRef := ⟨uuids.issue "app" issued⟩
      (appRef, issued + 1,
        { state with
          applicationRefs := state.applicationRefs.insert application.key appRef
          applications := state.applications.insert appRef application })

def projectWindow (issued : Nat) (state : SessionState) (window : DriverWindow) :
    WindowRef × Nat × SessionState :=
  match state.windowRefs.lookup window.key with
  | some existing =>
      (existing, issued, { state with windows := state.windows.insert existing window })
  | none =>
      let windowRef : WindowRef := ⟨uuids.issue "window" issued⟩
      (windowRef, issued + 1,
        { state with
          windowRefs := state.windowRefs.insert window.key windowRef
          windows := state.windows.insert windowRef window })

def projectDisplay (issued : Nat) (state : SessionState) (display : DriverDisplay) :
    DisplayRef × Nat × SessionState :=
  match state.displayRefs.lookup display.key with
  | some existing =>
      (existing, issued, { state with displays := state.displays.insert existing display })
  | none =>
      let displayRef : DisplayRef := ⟨uuids.issue "display" issued⟩
      (displayRef, issued + 1,
        { state with
          displayRefs := state.displayRefs.insert display.key displayRef
          displays := state.displays.insert displayRef display })

def projectClipboard (issued : Nat) (state : SessionState) (changeMarker : String) :
    ClipboardRef × Nat × SessionState :=
  let clipboardRef : ClipboardRef := ⟨uuids.issue "clipboard" issued⟩
  (clipboardRef, issued + 1, { state with clipboard := some ⟨clipboardRef, changeMarker⟩ })

def takeClipboardMarker (state : SessionState) (clipboardRef : ClipboardRef) :
    Option (String × SessionState) :=
  match state.clipboard with
  | none => none
  | some record =>
      if record.id = clipboardRef then some (record.changeMarker, { state with clipboard := none })
      else none

/-! ### Observations -/

def setStatus (state : SessionState) (observationId : ObservationId)
    (status : ObservationStatus) : SessionState :=
  { state with observations := state.observations.modify observationId fun record =>
      { record with status := status } }

/-- Invalidate the observations of the windows that `affected` accepts. -/
def invalidateWhere (state : SessionState) (affected : WindowRef → Bool) : SessionState :=
  { state with observations := state.observations.mapValues fun _ record =>
      if affected record.windowRef then { record with status := .invalid } else record }

def invalidateWindowObservations (state : SessionState) (windowRef : WindowRef) : SessionState :=
  state.invalidateWhere fun candidate => candidate == windowRef

def invalidateApplicationObservations (state : SessionState) (application : DriverApplication) :
    SessionState :=
  state.invalidateWhere fun windowRef =>
    (state.windows.lookup windowRef).any fun window =>
      window.application.matchesGeneration application

/-- The oldest `count` observations; equally old ones in the order of the table. -/
def oldestObservations (state : SessionState) (count : Nat) : List ObservationId :=
  ((state.observations.toList.insertionSort fun left right =>
    left.2.createdAt ≤ right.2.createdAt).take count).map Prod.fst

def trimObservations (state : SessionState) (limit : Nat) : SessionState :=
  if state.observations.size < limit then state
  else
    let removed := state.oldestObservations (state.observations.size - limit + 1)
    { state with observations := state.observations.retain fun observationId _ =>
        !removed.contains observationId }

end SessionState

/-! ## Projected observations -/

/-- The references drawn for the elements; the last element of a key keeps the key. -/
def refsByKey (uuids : UuidSource) (issued : Nat) (elements : List DriverElement) :
    Table String ElementRef :=
  (elements.zipIdx issued).foldl
    (fun refs entry => refs.insert entry.1.key ⟨uuids.issue "element" entry.2⟩) ∅

def projectElement (refs : Table String ElementRef) (element : DriverElement)
    (elementRef : ElementRef) : AccessibilityElement where
  elementRef := elementRef
  parentRef := element.parentKey.bind fun key => refs.lookup key
  role := element.role
  name := element.name
  value := element.value
  rangeValue := element.rangeValue
  screenBounds := element.screenBounds
  enabled := element.enabled
  focused := element.focused
  selected := element.selected
  checked := element.checked
  expanded := element.expanded
  actions := element.actions

def referencedElements (refs : Table String ElementRef) (elements : List DriverElement) :
    List (ElementRef × DriverElement) :=
  elements.filterMap fun element =>
    (refs.lookup element.key).map fun elementRef => (elementRef, element)

/-- The record, the published elements and the number of identifiers drawn afterwards. -/
def projectObservation (uuids : UuidSource) (issued : Nat) (observation : DriverObservation)
    (windowRef : WindowRef) (screenshotMapping : Option ScreenshotMapping) (maxElements : Nat)
    (applicationScene : Bool) (createdAt : Nat) :
    ObservationRecord × List AccessibilityElement × Nat :=
  let selected := observation.elements.take maxElements
  let refs := refsByKey uuids (issued + 1) selected
  let referenced := referencedElements refs selected
  ({ applicationScene := applicationScene
     id := ⟨uuids.issue "observation" issued⟩
     windowRef := windowRef
     screenshotMapping := screenshotMapping
     fingerprint := observation.fingerprint
     createdAt := createdAt
     status := .valid
     elements := referenced.foldl (fun elements entry => elements.insert entry.1 entry.2) ∅ },
    referenced.map fun entry => projectElement refs entry.2 entry.1,
    issued + 1 + selected.length)

/-! ## Resolving actions -/

def staleObservation : CuaError :=
  publicError .staleObservation "observation is expired, invalidated, or no longer current" true
    (some "observe_window")

namespace ObservationRecord

variable (observation : ObservationRecord)

def validateSceneDelivery (action : Action) : Except CuaError Unit :=
  match action with
  | .clickPoint _ _ _ .background =>
      if observation.applicationScene then
        .error (publicError .unsupported
          ("application scene clicks require the foreground route; use an exact-window " ++
            "observation for background delivery") false (some "observe_window"))
      else .ok ()
  | _ => .ok ()

def element (elementRef : ElementRef) : Except CuaError DriverElement :=
  match observation.elements.lookup elementRef with
  | none => .error staleObservation
  | some element => .ok element

def elementKey (elementRef : ElementRef) : Except CuaError String := do
  let element ← observation.element elementRef
  pure element.key

def resolveScreenshotPoint (point : NormalizedPoint) : Except CuaError ScreenPoint :=
  let resolved := do
    let mapping ← observation.screenshotMapping
    let pixel ← point.toPixel mapping.pixelSize
    mapping.toScreen pixel
  match resolved with
  | none => .error (publicError .invalidRequest
      "point cannot be resolved through the guarded screenshot mapping" false none)
  | some point => .ok point

def resolveRangeValue (elementRef : ElementRef) (value : Float) : Except CuaError DriverAction := do
  let element ← observation.element elementRef
  match element.rangeValue with
  | none => .error (publicError .invalidRequest "element does not expose a numeric range value"
      false (some "observe_window"))
  | some range =>
      if !element.enabled || range.readOnly || decide (value < range.minimum) ||
          decide (range.maximum < value) then
        .error (publicError .invalidRequest
          "numeric range value is disabled, read-only, or outside the observed bounds" false
          (some "fix_request"))
      else .ok (.setRangeValue element.key value)

end ObservationRecord

def resolveTarget (action : Action) (observation : ObservationRecord) :
    Except CuaError DriverAction :=
  match action with
  | .focusWindow => .ok .focusWindow
  | .setWindowBounds bounds => .ok (.setWindowBounds bounds)
  | .setWindowMinimized minimized => .ok (.setWindowMinimized minimized)
  | .terminateApplication => .ok .terminateApplication
  | .focusElement elementRef => .focusElement <$> observation.elementKey elementRef
  | .invokeElement elementRef => .invokeElement <$> observation.elementKey elementRef
  | .clickPoint point button count delivery => do
      let point ← observation.resolveScreenshotPoint point
      pure (.clickPoint point button count delivery)
  | .pressPoint point button durationMs => do
      let point ← observation.resolveScreenshotPoint point
      pure (.pressPoint point button durationMs)
  | .setValue elementRef value => do
      let elementKey ← observation.elementKey elementRef
      pure (.setValue elementKey value)
  | .setRangeValue elementRef value => observation.resolveRangeValue elementRef value
  | .toggleElement elementRef => .toggleElement <$> observation.elementKey elementRef
  | .selectElement elementRef => .selectElement <$> observation.elementKey elementRef
  | .setExpanded elementRef expanded => do
      let elementKey ← observation.elementKey elementRef
      pure (.setExpanded elementKey expanded)
  | .movePointer point durationMs => do
      let point ← observation.resolveScreenshotPoint point
      pure (.movePointer point durationMs)
  | .typeText text => .ok (.typeText text)
  | .pressKeys keys => .ok (.pressKeys keys)
  | .scroll point deltaX deltaY => do
      let point ← observation.resolveScreenshotPoint point
      pure (.scroll point deltaX deltaY)
  | .drag start finish durationMs => do
      let start ← observation.resolveScreenshotPoint start
      let finish ← observation.resolveScreenshotPoint finish
      pure (.drag start finish durationMs)

def resolveAction (action : Action) (observation : ObservationRecord) :
    Except CuaError DriverAction := do
  observation.validateSceneDelivery action
  resolveTarget action observation

end NexusCua.Runtime
