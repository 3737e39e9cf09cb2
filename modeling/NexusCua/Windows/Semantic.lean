import NexusCua.Platform.Semantic

/-!
# The semantic actor of Windows

The snapshot of a window from the cache that one request to UI Automation builds.
The node of a tree is what the cache holds of an element, or none when the type of
its control is missing; its children are the cached ones.
-/

namespace NexusCua.Windows

open NexusCua.Foundation NexusCua.Protocol NexusCua.Runtime NexusCua.Platform

/-! ## Reading the cache -/

inductive ControlType where
  | button | checkBox | comboBox | edit | hyperlink | list | listItem | menu | menuBar | menuItem
  | radioButton | slider | tab | tabItem | tree | treeItem | window | text | document | image
  | group | pane | dataGrid | dataItem | table | header | headerItem | scrollBar | progressBar
  | spinner | splitButton | statusBar | toolBar | toolTip | titleBar | thumb | separator
  | semanticZoom | custom | other
  deriving DecidableEq, Repr

def normalizeControlType : ControlType → String
  | .button => "button"
  | .checkBox => "checkbox"
  | .comboBox => "combobox"
  | .edit => "edit"
  | .hyperlink => "link"
  | .list => "list"
  | .listItem => "listitem"
  | .menu => "menu"
  | .menuBar => "menubar"
  | .menuItem => "menuitem"
  | .radioButton => "radio"
  | .slider => "slider"
  | .tab => "tablist"
  | .tabItem => "tab"
  | .tree => "tree"
  | .treeItem => "treeitem"
  | .window => "window"
  | .text => "text"
  | .document => "document"
  | .image => "image"
  | .group => "group"
  | .pane => "pane"
  | .dataGrid => "datagrid"
  | .dataItem => "dataitem"
  | .table => "table"
  | .header => "header"
  | .headerItem => "headeritem"
  | .scrollBar => "scrollbar"
  | .progressBar => "progressbar"
  | .spinner => "spinner"
  | .splitButton => "splitbutton"
  | .statusBar => "statusbar"
  | .toolBar => "toolbar"
  | .toolTip => "tooltip"
  | .titleBar => "titlebar"
  | .thumb => "thumb"
  | .separator => "separator"
  | .semanticZoom => "semanticzoom"
  | .custom => "custom"
  | .other => "unknown"

inductive ToggleState where
  | off | on | indeterminate
  deriving DecidableEq, Repr

inductive ExpandCollapseState where
  | collapsed | expanded | partiallyExpanded | leafNode
  deriving DecidableEq, Repr

structure CachedRange where
  value : Option Float
  minimum : Option Float
  maximum : Option Float
  smallChange : Option Float
  largeChange : Option Float
  isReadOnly : Option Bool
  deriving DecidableEq, Repr

structure Rectangle where
  left : Int
  top : Int
  right : Int
  bottom : Int
  deriving DecidableEq, Repr

structure CachedElement where
  controlType : ControlType
  name : Option String
  rectangle : Option Rectangle
  isPassword : Option Bool
  value : Option String
  range : Option CachedRange
  isSelected : Option Bool
  toggleState : Option ToggleState
  expandCollapseState : Option ExpandCollapseState
  isEnabled : Option Bool
  hasKeyboardFocus : Option Bool
  isKeyboardFocusable : Option Bool
  isOffscreen : Option Bool
  deriving DecidableEq, Repr

structure NodeState where
  enabled : Bool
  focused : Bool
  focusable : Bool
  offscreen : Bool
  deriving DecidableEq, Repr

structure NodeValues where
  role : String
  name : String
  value : Option String
  rangeValue : Option AccessibilityRangeValue
  state : NodeState
  selected : Option Bool
  checked : Option Bool
  expanded : Option Bool
  bounds : Option ScreenRect
  deriving DecidableEq, Repr

def saturatingI32 (value : Int) : Int := max (-2 ^ 31) (min value (2 ^ 31 - 1))

def screenRect (rectangle : Rectangle) : Option ScreenRect :=
  let width := saturatingI32 (rectangle.right - rectangle.left)
  let height := saturatingI32 (rectangle.bottom - rectangle.top)
  if 0 ≤ width ∧ 0 ≤ height then
    some ⟨Float.ofInt rectangle.left, Float.ofInt rectangle.top, Float.ofInt width,
      Float.ofInt height⟩
  else none

def cachedRangeValue (range : CachedRange) : Option AccessibilityRangeValue := do
  let value ← range.value
  let minimum ← range.minimum
  let maximum ← range.maximum
  if validRange value minimum maximum then
    some ⟨value, minimum, maximum, finitePositive range.smallChange,
      finitePositive range.largeChange, range.isReadOnly.getD true⟩
  else none

def ToggleState.checked : ToggleState → Option Bool
  | .on => some true
  | .off => some false
  | .indeterminate => none

def ExpandCollapseState.isExpanded : ExpandCollapseState → Option Bool
  | .expanded => some true
  | .partiallyExpanded => some true
  | .collapsed => some false
  | .leafNode => none

def cachedValues (texts : SemanticTexts) (element : CachedElement) : NodeValues :=
  let value :=
    if element.isPassword.getD false then none else element.value.map boundedString
  let range := element.range.bind cachedRangeValue
  { role := normalizeControlType element.controlType
    name := boundedString (element.name.getD "")
    value := value <|> range.map fun range => texts.display range.value
    rangeValue := range
    state :=
      { enabled := element.isEnabled.getD true
        focused := element.hasKeyboardFocus.getD false
        focusable := element.isKeyboardFocusable.getD false
        offscreen := element.isOffscreen.getD false }
    selected := element.isSelected
    checked := element.toggleState.bind ToggleState.checked
    expanded := element.expandCollapseState.bind ExpandCollapseState.isExpanded
    bounds := screenRect (element.rectangle.getD ⟨0, 0, 0, 0⟩) }

def NodeState.stableByte (state : NodeState) : UInt8 :=
  (if state.enabled then 1 else 0) + (if state.focusable then 4 else 0) +
    (if state.offscreen then 8 else 0)

def elementSignature (texts : SemanticTexts) (values : NodeValues) : List UInt8 :=
  texts.sha256 (signatureBytes values.role values.name values.value values.rangeValue
    values.state.stableByte values.bounds)

/-! ## The snapshot -/

def normalizedActions (role : String) (range : Option AccessibilityRangeValue) : List String :=
  if range.any fun range => !range.readOnly then ["focus", "set_range_value"]
  else if role = "button" ∨ role = "link" ∨ role = "menuitem" ∨ role = "splitbutton" then
    ["invoke"]
  else if role = "checkbox" then ["toggle"]
  else if role = "radio" ∨ role = "listitem" ∨ role = "tab" ∨ role = "dataitem" then ["select"]
  else if role = "edit" ∨ role = "combobox" ∨ role = "slider" ∨ role = "spinner" then
    ["focus", "set_value"]
  else if role = "treeitem" then ["select", "set_expanded"]
  else []

def snapshotBudget : AccessibilityMode → SnapshotBudget
  | .disabled => ⟨0, 0, 0⟩
  | .interactive => ⟨1000, 20, 256 * 1024⟩
  | .full => ⟨3000, 40, 1024 * 1024⟩

abbrev UiaNode := Option CachedElement

def reading (texts : SemanticTexts) : UiaNode → Reading DriverError NodeValues
  | some element => .values (cachedValues texts element)
  | none => .cut

def emits (mode : AccessibilityMode) (depth : Nat) (values : NodeValues) : Bool :=
  mode = .full || !(normalizedActions values.role values.rangeValue).isEmpty ||
    values.state.focusable || values.name ≠ "" || depth ≤ 1

def valuesBytes (values : NodeValues) : Nat :=
  byteLength values.role + byteLength values.name + (values.value.map byteLength).getD 0

def descends (mode : AccessibilityMode) (values : NodeValues) : Bool :=
  !values.state.offscreen || mode = .full

def walk (texts : SemanticTexts) (mode : AccessibilityMode) (snapshotKey : String) :
    Walk UiaNode NodeValues String DriverError where
  maxNodes := (snapshotBudget mode).maxNodes
  maxDepth := (snapshotBudget mode).maxDepth
  maxBytes := (snapshotBudget mode).maxBytes
  key := elementKey snapshotKey
  read := reading texts
  emits := emits mode
  bytes := valuesBytes
  descends := descends mode

def driverElement (node : Walk.Emitted NodeValues String) : DriverElement where
  key := node.key
  parentKey := node.parentKey
  role := node.values.role
  name := node.values.name
  value := node.values.value
  rangeValue := node.values.rangeValue
  screenBounds := node.values.bounds
  enabled := node.values.state.enabled
  focused := node.values.state.focused
  selected := node.values.selected
  checked := node.values.checked
  expanded := node.values.expanded
  actions := normalizedActions node.values.role node.values.rangeValue

def snapshotKey (hwnd : UInt64) (state : SemanticState) : String :=
  "uia:" ++ String.ofList (Nat.toDigits 16 hwnd.toNat) ++ ":" ++ toString (state.nextSnapshot + 1)

/-- The snapshot of a window; `cache` is the answer to the request that builds the
cache, and `expired` answers in each turn whether the deadline has passed. -/
def snapshot (texts : SemanticTexts) (hwnd : UInt64) (mode : AccessibilityMode)
    (expired : Nat → Bool) (cache : Except DriverError (RoseTree UiaNode)) (state : SemanticState) :
    Except DriverError SemanticSnapshot × SemanticState :=
  state.take (walk texts mode (snapshotKey hwnd state)) (fun emitted => emitted.map driverElement)
    (elementSignature texts) expired cache

end NexusCua.Windows
