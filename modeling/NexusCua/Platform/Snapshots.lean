import NexusCua.Foundation.Levels
import NexusCua.Macos.Semantic
import NexusCua.Windows.Semantic

/-!
# What a semantic snapshot is

The structure of the snapshots of both platforms, over every accessibility tree,
mode and clock, and the bytes of their texts.
-/

namespace NexusCua.Platform

open NexusCua.Foundation NexusCua.Protocol NexusCua.Runtime

/-! ## Keys and parents -/

theorem elementKey_injective (snapshotKey : String) :
    Function.Injective (elementKey snapshotKey) := by
  intro index index' h
  have hdigits : Nat.toDigits 10 index = Nat.toDigits 10 index' := by
    have hlist := congrArg String.toList h
    simpa [elementKey, Nat.toString_eq_ofList_toDigits] using hlist
  have hindex := congrArg (Nat.ofDigitChars 10 · 0) hdigits
  simpa only [Nat.ofDigitChars_ten_toDigits] using hindex

/-- The key of the nearest element above, which comes earlier, or none when no element
is above.  `handles` are the native elements behind the elements. -/
def HasNearestParent (elements : List DriverElement) (handles : List (List Nat)) (index : Nat)
    (path : List Nat) : Option String → Prop
  | none => ∀ other ∈ handles, ¬ Above other path
  | some key => ∃ earlier parent above, earlier < index ∧ elements[earlier]? = some parent ∧
      handles[earlier]? = some above ∧ parent.key = key ∧ Above above path ∧
      ∀ other ∈ handles, Above other path → other <:+ above

def SemanticState.handles (state : SemanticState) : List (List Nat) :=
  match state.snapshots.getLast? with
  | none => []
  | some snapshot => snapshot.elements.map fun entry => entry.2.element

theorem SemanticState.handles_store (state : SemanticState) (snapshot : StoredSnapshot) :
    (state.store snapshot).handles = snapshot.elements.map fun entry => entry.2.element := by
  have hlimit : state.snapshots.length + 1 - snapshotCacheLimit ≤ state.snapshots.length := by
    simp only [snapshotCacheLimit]
    omega
  have hlast : (state.store snapshot).snapshots.getLast? = some snapshot := by
    simp only [store, List.length_append, List.length_singleton]
    rw [List.drop_append_of_le_length hlimit, List.getLast?_append]
    rfl
  rw [handles, hlast]

/-- A snapshot of a tree, the elements that were visited for it and those behind its
elements. -/
structure Structured (budget : SnapshotBudget) (reaches : List Nat → Prop)
    (visited handles : List (List Nat)) (snapshot : SemanticSnapshot) : Prop where
  nodes : visited.length ≤ budget.maxNodes
  depth : ∀ path ∈ visited, path.length ≤ budget.maxDepth
  behind : handles.length = snapshot.elements.length ∧ ∀ path ∈ handles, path ∈ visited
  keys : (snapshot.elements.map DriverElement.key).Nodup
  parents : ∀ index element path, snapshot.elements[index]? = some element →
    handles[index]? = some path →
      HasNearestParent snapshot.elements handles index path element.parentKey
  complete : snapshot.complete = true ↔ snapshot.truncation = none
  covers : snapshot.complete = true → ∀ path, reaches path → path ∈ visited

section Emission

variable {ν ο : Type} {walk : Walk ν ο String DriverError} {progress : Walk.Progress ν ο String}
  {elements : List DriverElement}

structure Carries (elements : List DriverElement) (emitted : List (Walk.Emitted ο String)) :
    Prop where
  keys : elements.map DriverElement.key = emitted.map Walk.Emitted.key
  parents : elements.map DriverElement.parentKey = emitted.map Walk.Emitted.parentKey

theorem Carries.getElem? {emitted : List (Walk.Emitted ο String)} (h : Carries elements emitted)
    {index : Nat} {node : Walk.Emitted ο String} (hnode : emitted[index]? = some node) :
    ∃ element, elements[index]? = some element ∧ element.key = node.key ∧
      element.parentKey = node.parentKey := by
  have hkeys := congrArg (·[index]?) h.keys
  have hparents := congrArg (·[index]?) h.parents
  simp only [List.getElem?_map, hnode, Option.map_some, Option.map_eq_some_iff] at hkeys hparents
  obtain ⟨element, helement, hkey⟩ := hkeys
  obtain ⟨element', helement', hparent⟩ := hparents
  rw [helement] at helement'
  obtain rfl := Option.some.inj helement'
  exact ⟨element, helement, hkey, hparent⟩

theorem Carries.length_eq {emitted : List (Walk.Emitted ο String)} (h : Carries elements emitted) :
    elements.length = emitted.length := by
  have hlength := congrArg List.length h.keys
  simpa using hlength

theorem hasNearestParent {root : RoseTree ν} (h : Carries elements progress.emitted)
    (hrecorded : Walk.Recorded walk root progress) {index : Nat} {node : Walk.Emitted ο String}
    (hindex : progress.emitted[index]? = some node) :
    HasNearestParent elements (progress.emitted.map Walk.Emitted.path) index node.path
      node.parentKey := by
  obtain ⟨parent, hparent, hnearest, hkey⟩ := hrecorded.parents node (List.mem_of_getElem? hindex)
  rw [hkey]
  cases parent with
  | none => exact nearestAbove_eq_none hnearest
  | some parent =>
    obtain ⟨habove, hnear⟩ := nearestAbove_eq_some hnearest
    obtain ⟨earlier, hearlier⟩ := List.mem_iff_getElem?.mp (hparent parent rfl)
    obtain ⟨element, helement, helementKey, -⟩ := h.getElem? hearlier
    refine ⟨earlier, element, parent.path, ?_, helement, by simp [hearlier], helementKey, habove,
      hnear⟩
    -- what is emitted later does not have a shorter path
    have hordered := List.pairwise_iff_getElem.mp (List.pairwise_map.mp hrecorded.ordered)
    obtain ⟨hlt, rfl⟩ := List.getElem?_eq_some_iff.mp hindex
    obtain ⟨hlt', rfl⟩ := List.getElem?_eq_some_iff.mp hearlier
    rcases Nat.lt_trichotomy earlier index with hbefore | rfl | hafter
    · exact hbefore
    · exact absurd rfl habove.2
    · exact absurd habove.length_lt (Nat.not_lt.mpr (hordered _ _ hlt hlt' hafter).2)

theorem structured_finish {budget : SnapshotBudget} {root : RoseTree ν}
    {reaches : List Nat → Prop}
    (hbudget : walk.maxNodes = budget.maxNodes ∧ walk.maxDepth = budget.maxDepth)
    (hkey : Function.Injective walk.key) (hrecorded : Walk.Recorded walk root progress)
    (hcovers : progress.truncation = none → ∀ path, reaches path → path ∈ progress.visited)
    (h : Carries elements progress.emitted) :
    Structured budget reaches progress.visited (progress.emitted.map Walk.Emitted.path)
      (finishSnapshot elements progress.truncation) where
  nodes := hbudget.1 ▸ hrecorded.nodes
  depth := hbudget.2 ▸ hrecorded.depth
  behind := by
    refine ⟨by simp [finishSnapshot, h.length_eq], ?_⟩
    intro path hpath
    obtain ⟨node, hnode, rfl⟩ := List.mem_map.mp hpath
    exact hrecorded.visited node hnode
  keys := by
    have hnodup := hrecorded.nodup_keys hkey
    rw [← h.keys] at hnodup
    exact hnodup
  parents := by
    intro index element path helement hpath
    simp only [List.getElem?_map, Option.map_eq_some_iff] at hpath
    obtain ⟨node, hnode, rfl⟩ := hpath
    obtain ⟨element', helement', _, hparent⟩ := h.getElem? hnode
    obtain rfl : element' = element := Option.some.inj (helement'.symm.trans helement)
    rw [hparent]
    exact hasNearestParent h hrecorded hnode
  complete := by
    simp only [finishSnapshot]
    exact Option.isNone_iff_eq_none
  covers := by
    intro hcomplete
    apply hcovers
    simpa [finishSnapshot] using hcomplete

variable {published : List (Walk.Emitted ο String) → List DriverElement}
  {signature : ο → List UInt8} {expired : Nat → Bool} {state state' : SemanticState}
  {result : SemanticSnapshot}

theorem SemanticState.take_eq {window : Except DriverError (RoseTree ν)}
    (h : state.take walk published signature expired window = (.ok result, state')) :
    ∃ root progress, window = .ok root ∧ walk.run expired root = .ok progress ∧
      result = finishSnapshot (published progress.emitted) progress.truncation ∧
      state'.handles = progress.emitted.map Walk.Emitted.path := by
  cases window with
  | error error => cases h
  | ok root =>
    simp only [take] at h
    split at h
    · cases h
    case h_2 progress hrun =>
      obtain ⟨hresult, rfl⟩ := Prod.mk.inj h
      exact ⟨root, progress, rfl, hrun, (Except.ok.inj hresult).symm, by simp [handles_store]⟩

theorem SemanticState.exists_take {root : RoseTree ν} {P : SemanticSnapshot → Prop}
    [DecidablePred P] (fuel : Nat)
    (h : (walk.advance expired fuel 0 (Walk.start root)).any fun outcome =>
      outcome.toOption.any fun progress =>
        decide (P (finishSnapshot (published progress.emitted) progress.truncation))) :
    ∃ result state', state.take walk published signature expired (.ok root) =
      (.ok result, state') ∧ P result := by
  obtain ⟨progress, hrun, hP⟩ := Walk.run_of_advance h
  exact ⟨_, _, by rw [take, hrun], of_decide_eq_true hP⟩

theorem structured_take {budget : SnapshotBudget} {root : RoseTree ν} {closed : ν → Bool}
    (hbudget : walk.maxNodes = budget.maxNodes ∧ walk.maxDepth = budget.maxDepth)
    (hkey : Function.Injective walk.key) (hcloses : Walk.Closes walk closed)
    (hcarries : ∀ emitted, Carries (published emitted) emitted)
    (h : state.take walk published signature expired (.ok root) = (.ok result, state')) :
    ∃ progress, walk.run expired root = .ok progress ∧
      Structured budget (root.Reaches closed) progress.visited state'.handles result := by
  obtain ⟨_, progress, hroot, hrun, rfl, hhandles⟩ := SemanticState.take_eq h
  obtain rfl := Except.ok.inj hroot
  obtain ⟨hrecorded, hcovers⟩ := Walk.run_recorded hcloses hrun
  rw [hhandles]
  exact ⟨progress, hrun, structured_finish hbudget hkey hrecorded hcovers (hcarries _)⟩

end Emission

end NexusCua.Platform

namespace NexusCua.Macos

open NexusCua.Foundation NexusCua.Protocol NexusCua.Runtime NexusCua.Platform

theorem closes_walk (texts : SemanticTexts) (mode : AccessibilityMode) (key : String) :
    Walk.Closes (walk texts mode key) fun _ => false where
  pruned value values hread hdescends := by cases hdescends
  skipped value hread := by
    -- no failure of the provider is passed over, since each can be tried again
    cases value with
    | ok attributes => cases hread
    | error code =>
      simp only [walk, reading, retryable_providerError, if_true] at hread
      split at hread <;> cases hread

theorem carries_propagate (emitted : List (Walk.Emitted NodeValues String)) :
    Carries (propagateTableRowNames (emitted.map driverElement)) emitted := by
  have hkeep : ∀ elements element, ∀ element', element' = (match takenOver elements element with
      | none => element
      | some name => { element with name := name }) →
      element'.key = element.key ∧ element'.parentKey = element.parentKey := by
    rintro elements element _ rfl
    split <;> exact ⟨rfl, rfl⟩
  constructor
  · simp only [propagateTableRowNames, List.map_map]
    exact List.map_congr_left fun node _ => (hkeep _ _ _ rfl).1
  · simp only [propagateTableRowNames, List.map_map]
    exact List.map_congr_left fun node _ => (hkeep _ _ _ rfl).2

end NexusCua.Macos

namespace NexusCua.Windows

open NexusCua.Foundation NexusCua.Protocol NexusCua.Runtime NexusCua.Platform

/-- An element that is off the screen, in a mode that leaves out what is below it. -/
def closed (texts : SemanticTexts) (mode : AccessibilityMode) (node : UiaNode) : Bool :=
  mode ≠ .full && node.any fun element => (cachedValues texts element).state.offscreen

theorem closes_walk (texts : SemanticTexts) (mode : AccessibilityMode) (key : String) :
    Walk.Closes (walk texts mode key) (closed texts mode) where
  pruned value values hread hdescends := by
    cases value with
    | none => cases hread
    | some element =>
      obtain rfl := Reading.values.inj hread
      have hdescends : descends mode (cachedValues texts element) = false := hdescends
      simp only [descends, Bool.or_eq_false_iff, Bool.not_eq_false',
        decide_eq_false_iff_not] at hdescends
      simp [closed, hdescends.1, hdescends.2]
  skipped value hread := by cases value <;> cases hread

theorem carries_elements (emitted : List (Walk.Emitted NodeValues String)) :
    Carries (emitted.map driverElement) emitted := by
  constructor <;> simp [driverElement, Function.comp_def]

end NexusCua.Windows

namespace NexusCua.Platform

open NexusCua.Foundation NexusCua.Protocol NexusCua.Runtime

/-- The snapshots of both platforms are structured.  Below an element that is off the
screen Windows looks only in full mode. -/
theorem snapshot_structured (texts : SemanticTexts) (mode : AccessibilityMode)
    (expired : Nat → Bool) (state state' : SemanticState) (result : SemanticSnapshot) :
    (∀ pid root, Macos.snapshot texts pid mode expired (.ok root) state = (.ok result, state') →
      ∃ progress,
        (Macos.walk texts mode (Macos.snapshotKey pid state)).run expired root = .ok progress ∧
        Structured (Macos.snapshotBudget mode) (root.Reaches fun _ => false) progress.visited
          state'.handles result) ∧
      ∀ hwnd root,
        Windows.snapshot texts hwnd mode expired (.ok root) state = (.ok result, state') →
        ∃ progress,
          (Windows.walk texts mode (Windows.snapshotKey hwnd state)).run expired root =
            .ok progress ∧
          Structured (Windows.snapshotBudget mode) (root.Reaches (Windows.closed texts mode))
            progress.visited state'.handles result := by
  constructor
  · intro pid root h
    exact structured_take ⟨rfl, rfl⟩ (elementKey_injective _) (Macos.closes_walk texts mode _)
      Macos.carries_propagate h
  · intro hwnd root h
    exact structured_take ⟨rfl, rfl⟩ (elementKey_injective _) (Windows.closes_walk texts mode _)
      Windows.carries_elements h

/-! ## Two snapshots -/

def blankAttributes : Macos.AxAttributes where
  role := none
  subrole := none
  title := none
  description := none
  value := none
  enabled := none
  focused := none
  position := none
  size := none
  selected := none
  expanded := none
  minimum := none
  maximum := none
  increment := none
  settable := false

def blankElement : Windows.CachedElement where
  controlType := .window
  name := none
  rectangle := none
  isPassword := none
  value := none
  range := none
  isSelected := none
  toggleState := none
  expandCollapseState := none
  isEnabled := none
  hasKeyboardFocus := none
  isKeyboardFocusable := none
  isOffscreen := none

def named (role title : String) : Macos.AxNode :=
  .ok { blankAttributes with role := some (.string role), title := some (.string title) }

def grouped (count : Nat) (tree : RoseTree Macos.AxNode) : RoseTree Macos.AxNode :=
  (List.replicate count (named "AXGroup" "")).foldr (fun value tree => .node value [tree]) tree

/-- A row with a text in a group without a name, and one below the depth limit. -/
def axTable : RoseTree Macos.AxNode :=
  .node (named "AXWindow" "Team") [.node (named "AXTable" "") [.node (named "AXRow" "")
    [grouped 1 (.node (named "AXStaticText" "Ada") []),
      grouped 14 (.node (named "AXStaticText" "Grace") [])]]]

def uiaNode (controlType : Windows.ControlType) (name : String) (offscreen : Bool) :
    Windows.UiaNode :=
  some { blankElement with
    controlType := controlType, name := some name, isOffscreen := some offscreen }

/-- A text below a group without a name, and one below a list that is off the screen. -/
def uiaPane : RoseTree Windows.UiaNode :=
  .node (uiaNode .window "Team" false) [.node (uiaNode .pane "" false)
    [.node (uiaNode .group "" false) [.node (uiaNode .text "Ada" false) []],
      .node (uiaNode .list "Archive" true) [.node (uiaNode .text "Grace" false) []]]]

def outline (snapshot : SemanticSnapshot) : List (String × Option String × String) :=
  snapshot.elements.map fun element => (element.key, element.parentKey, element.name)

/-- The row is the parent of the text, and takes over its name. -/
def axOutline : List (String × Option String × String) :=
  [("ax:1:1:0", none, "Team"), ("ax:1:1:1", some "ax:1:1:0", ""),
    ("ax:1:1:2", some "ax:1:1:1", "Ada"), ("ax:1:1:3", some "ax:1:1:2", "Ada")]

def uiaOutline : List (String × Option String × String) :=
  [("uia:1:1:0", none, "Team"), ("uia:1:1:1", some "uia:1:1:0", ""),
    ("uia:1:1:2", some "uia:1:1:1", "Archive"), ("uia:1:1:3", some "uia:1:1:1", "Ada")]

theorem snapshot_axTable :
    ∃ result state', Macos.snapshot plainTexts 1 .interactive (fun _ => false) (.ok axTable)
        ⟨0, []⟩ = (.ok result, state') ∧
      outline result = axOutline ∧ result.truncation = some ⟨.depthLimit, 4⟩ :=
  SemanticState.exists_take 21 (by decide +kernel)

theorem snapshot_uiaPane :
    ∃ result state', Windows.snapshot plainTexts 1 .interactive (fun _ => false) (.ok uiaPane)
        ⟨0, []⟩ = (.ok result, state') ∧
      outline result = uiaOutline ∧ result.complete = true :=
  SemanticState.exists_take 6 (by decide +kernel)

theorem snapshot_structured_nested :
    (∃ result state' visited,
      Macos.snapshot plainTexts 1 .interactive (fun _ => false) (.ok axTable) ⟨0, []⟩ =
        (.ok result, state') ∧
      outline result = axOutline ∧ result.truncation = some ⟨.depthLimit, 4⟩ ∧
      Structured (Macos.snapshotBudget .interactive) (axTable.Reaches fun _ => false) visited
        state'.handles result) ∧
      ∃ result state' visited,
        Windows.snapshot plainTexts 1 .interactive (fun _ => false) (.ok uiaPane) ⟨0, []⟩ =
          (.ok result, state') ∧
        outline result = uiaOutline ∧ result.complete = true ∧
        Structured (Windows.snapshotBudget .interactive)
          (uiaPane.Reaches (Windows.closed plainTexts .interactive)) visited state'.handles
          result := by
  constructor
  · obtain ⟨result, state', h, houtline, htruncation⟩ := snapshot_axTable
    obtain ⟨progress, _, hstructured⟩ := (snapshot_structured _ _ _ _ _ _).1 1 axTable h
    exact ⟨result, state', progress.visited, h, houtline, htruncation, hstructured⟩
  · obtain ⟨result, state', h, houtline, hcomplete⟩ := snapshot_uiaPane
    obtain ⟨progress, _, hstructured⟩ := (snapshot_structured _ _ _ _ _ _).2 1 uiaPane h
    exact ⟨result, state', progress.visited, h, houtline, hcomplete, hstructured⟩

end NexusCua.Platform
