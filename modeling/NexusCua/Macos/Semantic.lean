import NexusCua.Platform.Semantic

/-!
# The semantic actor of macOS

Reading accessibility elements, and the snapshot of a window.  The node of a tree
is the answer of the provider to the batch read of an element; its children are
the elements of its child list.
-/

namespace NexusCua.Macos

open NexusCua.Foundation NexusCua.Protocol NexusCua.Runtime NexusCua.Platform

/-! ## Reading an element -/

/-- A value of the accessibility interface, as far as the casts of the actor tell
values apart.  A number carries its integer when it has one. -/
inductive AxValue where
  | string (text : String)
  | boolean (value : Bool)
  | number (value : Float) (integer : Option Int)
  | other
  deriving DecidableEq, Repr

def cfString : AxValue → Option String
  | .string text => some text
  | _ => none

def cfBoolean : AxValue → Option Bool
  | .boolean value => some value
  | _ => none

def cfBooleanish : AxValue → Option Bool
  | .boolean value => some value
  | .number _ integer => integer.map (· ≠ 0)
  | _ => none

def cfNumber : AxValue → Option Float
  | .number value _ => some value
  | _ => none

/-- The attributes of one batch read; `settable` is asked for separately. -/
structure AxAttributes where
  role : Option AxValue
  subrole : Option AxValue
  title : Option AxValue
  description : Option AxValue
  value : Option AxValue
  enabled : Option AxValue
  focused : Option AxValue
  position : Option (Float × Float)
  size : Option (Float × Float)
  selected : Option AxValue
  expanded : Option AxValue
  minimum : Option AxValue
  maximum : Option AxValue
  increment : Option AxValue
  settable : Bool
  deriving DecidableEq, Repr

structure NodeValues where
  role : String
  name : String
  value : Option String
  rangeValue : Option AccessibilityRangeValue
  enabled : Bool
  focused : Bool
  selected : Option Bool
  checked : Option Bool
  expanded : Option Bool
  bounds : Option ScreenRect
  deriving DecidableEq, Repr

def secureTextFieldSubrole : String := "AXSecureTextField"

def boundsFromValues (position size : Option (Float × Float)) : Option ScreenRect := do
  let (x, y) ← position
  let (width, height) ← size
  if x.isFinite && y.isFinite && width.isFinite && height.isFinite && !(width < 0) &&
      !(height < 0) then
    some ⟨x, y, width, height⟩
  else none

def rangeValue (attributes : AxAttributes) : Option AccessibilityRangeValue := do
  let value ← attributes.value.bind cfNumber
  let minimum ← attributes.minimum.bind cfNumber
  let maximum ← attributes.maximum.bind cfNumber
  if validRange value minimum maximum then
    some ⟨value, minimum, maximum, finitePositive (attributes.increment.bind cfNumber), none,
      !attributes.settable⟩
  else none

def isCheckable (role : String) : Bool :=
  role = "AXCheckBox" || role = "AXSwitch" || role = "AXRadioButton"

def readNode (texts : SemanticTexts) (attributes : AxAttributes) : NodeValues :=
  let role := (attributes.role.bind cfString).getD ""
  let subrole := (attributes.subrole.bind cfString).getD ""
  let title := (attributes.title.bind cfString).getD ""
  let description := (attributes.description.bind cfString).getD ""
  -- the value of a secure field is not read
  let value :=
    if subrole = secureTextFieldSubrole then none
    else (attributes.value.bind cfString).map boundedString
  let range := rangeValue attributes
  { role := role
    name := boundedString (if title = "" then description else title)
    value := value <|> range.map fun range => texts.display range.value
    rangeValue := range
    enabled := (attributes.enabled.bind cfBoolean).getD true
    focused := (attributes.focused.bind cfBoolean).getD false
    selected := attributes.selected.bind cfBoolean
    checked := if isCheckable role then attributes.value.bind cfBooleanish else none
    expanded := attributes.expanded.bind cfBoolean
    bounds := boundsFromValues attributes.position attributes.size }

def elementSignature (texts : SemanticTexts) (values : NodeValues) : List UInt8 :=
  texts.sha256 (signatureBytes values.role values.name values.value values.rangeValue
    (if values.enabled then 1 else 0) values.bounds)

/-! ## Errors of the provider -/

def kAXErrorInvalidUIElement : Int := -25202

def kAXErrorCannotComplete : Int := -25204

def providerFailure (message : String) : DriverError :=
  (DriverError.new .platform message).retryableAfter "retry_accessibility_snapshot"

def targetUnresponsive (message : String) : DriverError :=
  (DriverError.new .targetUnresponsive message).retryableAfter "retry_after_target_recovers"

def providerError (error : Int) (message : String) : DriverError :=
  if error = kAXErrorCannotComplete then targetUnresponsive message
  else if error = kAXErrorInvalidUIElement then
    (DriverError.new .targetUnavailable message).retryableAfter "list_windows"
  else providerFailure message

theorem retryable_providerError (error : Int) (message : String) :
    (providerError error message).retryable = true := by
  rw [providerError]
  split
  · rfl
  · split <;> rfl

/-! ## Roles and actions -/

def asciiLower (c : Char) : Char :=
  if 'A'.toNat ≤ c.toNat ∧ c.toNat ≤ 'Z'.toNat then Char.ofNat (c.toNat + 32) else c

def stripAx : List Char → List Char
  | 'A' :: 'X' :: rest => rest
  | role => role

def normalizeRole (role : String) : String := String.ofList ((stripAx role.toList).map asciiLower)

def normalizedActions (role : String) (range : Option AccessibilityRangeValue) : List String :=
  if range.any fun range => !range.readOnly then ["focus", "set_range_value"]
  else if role = "AXButton" ∨ role = "AXMenuItem" ∨ role = "AXLink" then ["invoke"]
  else if role = "AXCheckBox" ∨ role = "AXSwitch" then ["toggle"]
  else if role = "AXRadioButton" ∨ role = "AXRow" ∨ role = "AXCell" ∨ role = "AXTab" then ["select"]
  else if role = "AXTextField" ∨ role = "AXTextArea" ∨ role = "AXComboBox" ∨ role = "AXSlider" then
    ["focus", "set_value"]
  else if role = "AXDisclosureTriangle" then ["set_expanded"]
  else []

/-! ## The snapshot -/

def snapshotBudget : AccessibilityMode → SnapshotBudget
  | .disabled => ⟨0, 0, 0⟩
  | .interactive => ⟨800, 16, 256 * 1024⟩
  | .full => ⟨2500, 32, 1024 * 1024⟩

abbrev AxNode := Except Int AxAttributes

def batchReadFailed : String := "accessibility provider batch read failed"

def reading (texts : SemanticTexts) : AxNode → Reading DriverError NodeValues
  | .ok attributes => .values (readNode texts attributes)
  | .error code =>
      let error := providerError code batchReadFailed
      if error.kind = .targetUnresponsive then .fail error
      else if error.retryable then .cut
      else .skip

def emits (mode : AccessibilityMode) (depth : Nat) (values : NodeValues) : Bool :=
  mode = .full || !(normalizedActions values.role values.rangeValue).isEmpty || values.name ≠ "" ||
    depth ≤ 1

def valuesBytes (values : NodeValues) : Nat :=
  byteLength values.role + byteLength values.name + (values.value.map byteLength).getD 0

def walk (texts : SemanticTexts) (mode : AccessibilityMode) (snapshotKey : String) :
    Walk AxNode NodeValues String DriverError where
  maxNodes := (snapshotBudget mode).maxNodes
  maxDepth := (snapshotBudget mode).maxDepth
  maxBytes := (snapshotBudget mode).maxBytes
  key := elementKey snapshotKey
  read := reading texts
  emits := emits mode
  bytes := valuesBytes
  descends _ := true

def driverElement (node : Walk.Emitted NodeValues String) : DriverElement where
  key := node.key
  parentKey := node.parentKey
  role := normalizeRole node.values.role
  name := node.values.name
  value := node.values.value
  rangeValue := node.values.rangeValue
  screenBounds := node.values.bounds
  enabled := node.values.enabled
  focused := node.values.focused
  selected := node.values.selected
  checked := node.values.checked
  expanded := node.values.expanded
  actions := normalizedActions node.values.role node.values.rangeValue

def childName (elements : List DriverElement) (key : String) : Option String :=
  (elements.reverse.find? fun element => element.name ≠ "" && element.parentKey = some key).map
    DriverElement.name

def takenOver (elements : List DriverElement) (element : DriverElement) : Option String :=
  if element.role = "row" ∧ element.name = "" then childName elements element.key else none

def propagateTableRowNames (elements : List DriverElement) : List DriverElement :=
  elements.map fun element =>
    match takenOver elements element with
    | none => element
    | some name => { element with name := name }

def snapshotKey (pid : Int) (state : SemanticState) : String :=
  "ax:" ++ toString pid ++ ":" ++ toString (state.nextSnapshot + 1)

/-- The snapshot of a window, once permission and the window have been looked for;
`expired` answers in each turn whether the deadline has passed. -/
def snapshot (texts : SemanticTexts) (pid : Int) (mode : AccessibilityMode) (expired : Nat → Bool)
    (window : Except DriverError (RoseTree AxNode)) (state : SemanticState) :
    Except DriverError SemanticSnapshot × SemanticState :=
  state.take (walk texts mode (snapshotKey pid state))
    (fun emitted => propagateTableRowNames (emitted.map driverElement)) (elementSignature texts)
    expired window

end NexusCua.Macos
