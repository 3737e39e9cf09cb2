import NexusCua.Platform.Snapshots

/-!
# The bytes of a snapshot

The traversal counts the bytes of what it emits and stops at its limit.  On macOS
rows take over the names of their children afterwards, and these are not counted:
a tree keeps to the budget when the names fit wherever the traversal may stop.
-/

namespace NexusCua.Macos

open NexusCua.Foundation NexusCua.Protocol NexusCua.Runtime NexusCua.Platform

/-! ## Names that rows take over -/

/-- The name that a row takes over is the last one among the elements right below it. -/
def rowName (shown : List (List Nat × NodeValues)) (row : List Nat × NodeValues) :
    Option String :=
  if normalizeRole row.2.role = "row" ∧ row.2.name = "" then
    (shown.reverse.find? fun child => child.2.name ≠ "" &&
      nearestAbove (shown.map Prod.fst) child.1 = some row.1).map fun child => child.2.name
  else none

def publishedBytes (shown : List (List Nat × NodeValues)) : Nat :=
  (shown.map fun node => byteLength (normalizeRole node.2.role) + byteLength node.2.name +
    (node.2.value.map byteLength).getD 0 + ((rowName shown node).map byteLength).getD 0).sum

/-- Wherever the traversal of the tree may stop, what is published fits.  Keys do not matter. -/
def KeepsBudget (texts : SemanticTexts) (mode : AccessibilityMode) (root : RoseTree AxNode) :
    Prop :=
  ∀ nodes, (walk texts mode "").Visitable root nodes →
    publishedBytes ((walk texts mode "").shown nodes) ≤ (snapshotBudget mode).maxBytes

theorem elementBytes_takenOver (elements : List DriverElement) (element : DriverElement) :
    elementBytes (match takenOver elements element with
      | none => element
      | some name => { element with name := name }) =
      elementBytes element + ((takenOver elements element).map byteLength).getD 0 := by
  cases htaken : takenOver elements element with
  | none => rfl
  | some name =>
    -- only a row without a name takes one over
    have hname : element.name = "" := by
      rw [takenOver] at htaken
      split at htaken
      case isTrue hrow => exact hrow.2
      case isFalse => cases htaken
    simp only [elementBytes, hname, Option.map_some, Option.getD_some]
    have hempty : byteLength "" = 0 := rfl
    omega

section Recorded

variable {texts : SemanticTexts} {mode : AccessibilityMode} {key : String}
  {root : RoseTree AxNode} {progress : Walk.Progress AxNode NodeValues String}
  (hrecorded : Walk.Recorded (walk texts mode key) root progress)
include hrecorded

theorem childName_driverElement {row : Walk.Emitted NodeValues String}
    (hrow : row ∈ progress.emitted) :
    childName (progress.emitted.map driverElement) row.key =
      ((progress.emitted.map Walk.Emitted.shown).reverse.find? fun child => child.2.name ≠ "" &&
        nearestAbove ((progress.emitted.map Walk.Emitted.shown).map Prod.fst) child.1 =
          some row.path).map fun child => child.2.name := by
  rw [childName, ← List.map_reverse, ← List.map_reverse, List.find?_map, List.find?_map,
    Option.map_map, Option.map_map, List.map_map]
  refine congrArg (Option.map _) (List.find?_congr fun child hchild => ?_)
  have hparent := hrecorded.parentKey_iff (elementKey_injective key)
    (List.mem_reverse.mp hchild) hrow
  simp only [Function.comp_apply, driverElement, Walk.Emitted.shown, hparent]
  rfl

theorem sum_elementBytes_propagate :
    ((propagateTableRowNames (progress.emitted.map driverElement)).map elementBytes).sum =
      publishedBytes (progress.emitted.map Walk.Emitted.shown) := by
  simp only [propagateTableRowNames, publishedBytes, List.map_map]
  refine congrArg List.sum (List.map_congr_left fun node hnode => ?_)
  have hname : takenOver (progress.emitted.map driverElement) (driverElement node) =
      rowName (progress.emitted.map Walk.Emitted.shown) node.shown :=
    if_congr Iff.rfl (childName_driverElement hrecorded hnode) rfl
  refine (elementBytes_takenOver _ _).trans ?_
  rw [hname]
  rfl

end Recorded

end NexusCua.Macos

namespace NexusCua.Platform

open NexusCua.Foundation NexusCua.Protocol NexusCua.Runtime

def WithinBudget (budget : SnapshotBudget) (snapshot : SemanticSnapshot) : Prop :=
  (snapshot.elements.map elementBytes).sum ≤ budget.maxBytes

section Stops

variable {texts : SemanticTexts} {mode : AccessibilityMode} {root : RoseTree Macos.AxNode}
  {nodes : List (Located Macos.AxNode)}

theorem snapshot_of_visitable (pid : Int) (state : SemanticState)
    (h : (Macos.walk texts mode "").Visitable root nodes) :
    ∃ result state', Macos.snapshot texts pid mode (fun round => decide (nodes.length ≤ round))
        (.ok root) state = (.ok result, state') ∧
      (result.elements.map elementBytes).sum =
        Macos.publishedBytes ((Macos.walk texts mode "").shown nodes) := by
  have hnodes : (Macos.walk texts mode (Macos.snapshotKey pid state)).Visitable root nodes :=
    ⟨h.begins, h.nodes, h.readable, h.bytes⟩
  obtain ⟨progress, hrun, hshown⟩ := Walk.run_of_visitable hnodes
  obtain ⟨hrecorded, -⟩ := Walk.run_recorded (Macos.closes_walk texts mode _) hrun
  refine ⟨_, _, by rw [Macos.snapshot, SemanticState.take, hrun], ?_⟩
  rw [finishSnapshot, Macos.sum_elementBytes_propagate hrecorded, hshown]
  rfl

theorem keepsBudget_iff :
    (∀ pid expired state result state',
      Macos.snapshot texts pid mode expired (.ok root) state = (.ok result, state') →
        WithinBudget (Macos.snapshotBudget mode) result) ↔ Macos.KeepsBudget texts mode root := by
  constructor
  · intro hall nodes hnodes
    obtain ⟨result, state', h, hbytes⟩ := snapshot_of_visitable 1 ⟨0, []⟩ hnodes
    exact hbytes ▸ hall _ _ _ _ _ h
  · intro hkeeps pid expired state result state' h
    obtain ⟨_, progress, hroot, hrun, rfl, -⟩ := SemanticState.take_eq h
    obtain rfl := Except.ok.inj hroot
    obtain ⟨hrecorded, -⟩ := Walk.run_recorded (Macos.closes_walk texts mode _) hrun
    obtain ⟨nodes, hnodes, hshown⟩ := hrecorded.shown
    rw [WithinBudget, finishSnapshot, Macos.sum_elementBytes_propagate hrecorded, hshown]
    exact hkeeps nodes ⟨hnodes.begins, hnodes.nodes, hnodes.readable, hnodes.bytes⟩

end Stops

/-! ## A row that takes over a name -/

/-- A window with a row, and in the row an element with a name of three bytes. -/
def rowTree (role : String) : RoseTree Macos.AxNode :=
  .node (named role "") [.node (named "AXRow" "") [.node (named "" "abc") []]]

def plainRole (n : Nat) : String := String.ofList (List.replicate n 'x')

theorem byteLength_plainRole (n : Nat) : byteLength (plainRole n) = n := by
  have hascii : ∀ c ∈ List.replicate n 'x', c.toNat < 128 := by
    intro c hc
    rw [List.eq_of_mem_replicate hc]
    decide
  rw [byteLength, plainRole, String.toList_ofList, length_utf8_of_ascii hascii,
    List.length_replicate]

theorem normalizeRole_plainRole (n : Nat) : Macos.normalizeRole (plainRole n) = plainRole n := by
  have hstrip : Macos.stripAx (List.replicate n 'x') = List.replicate n 'x' := by
    cases n with
    | zero => rfl
    | succ n =>
      rw [List.replicate_succ, Macos.stripAx.eq_def]
      rfl
  have hlower : Macos.asciiLower 'x' = 'x' := by decide
  rw [Macos.normalizeRole, plainRole, String.toList_ofList, hstrip, List.map_replicate, hlower]

def namedValues (role name : String) : Macos.NodeValues :=
  ⟨role, name, none, none, true, false, none, none, none, none⟩

theorem reading_named (role : String) {title : String} (htitle : boundedString title = title) :
    Macos.reading plainTexts (named role title) = .values (namedValues role title) := by
  have hread : Macos.reading plainTexts (named role title) = .values ⟨role,
      boundedString (if title = "" then "" else title), none, none, true, false, none,
      if Macos.isCheckable role then none else none, none, none⟩ := rfl
  have hname : (if title = "" then "" else title) = title := by
    split
    case isTrue hempty => rw [hempty]
    case isFalse => rfl
  rw [hread, hname, htitle, ite_self, namedValues]

/-- The nodes of the row tree, which are all that the traversal visits. -/
def rowNodes (role : String) : List (Located Macos.AxNode) :=
  [([], rowTree role), ([0], .node (named "AXRow" "") [.node (named "" "abc") []]),
    ([0, 0], .node (named "" "abc") [])]

theorem shown_rowNodes (mode : AccessibilityMode) (role : String) :
    (Macos.walk plainTexts mode "").shown (rowNodes role) =
      [([], namedValues role ""), ([0], namedValues "AXRow" ""),
        ([0, 0], namedValues "" "abc")] := by
  have hempty : boundedString "" = "" := by decide
  have hname : boundedString "abc" = "abc" := by decide
  simp [Walk.shown, Walk.shows, rowNodes, rowTree, RoseTree.value, Macos.walk, Macos.emits,
    reading_named, hempty, hname, namedValues]

theorem visitable_rowNodes {mode : AccessibilityMode} (hmode : mode ≠ .disabled) {n : Nat}
    (hn : n + 8 = (Macos.snapshotBudget mode).maxBytes) :
    (Macos.walk plainTexts mode "").Visitable (rowTree (plainRole n)) (rowNodes (plainRole n)) where
  begins := by
    have hdepth : 3 ≤ (Macos.snapshotBudget mode).maxDepth + 1 := by
      cases mode <;> simp_all [Macos.snapshotBudget]
    exact @RoseTree.levels_mono _ (Macos.walk plainTexts mode "").next (rowTree (plainRole n)) _ _
      hdepth
  nodes := by cases mode <;> simp_all [Macos.walk, Macos.snapshotBudget, rowNodes]
  readable := by
    simp [rowNodes, Walk.readable, rowTree, RoseTree.value, Macos.walk, Macos.reading, named]
  bytes := by
    have hrow : byteLength "AXRow" = 5 := by decide
    have hempty : byteLength "" = 0 := by decide
    have hname : byteLength "abc" = 3 := by decide
    rw [shown_rowNodes]
    simp [Walk.countedBytes, Macos.walk, Macos.valuesBytes, namedValues, byteLength_plainRole, hrow,
      hempty, hname, ← hn]

theorem publishedBytes_rowNodes (n : Nat) :
    Macos.publishedBytes [([], namedValues (plainRole n) ""), ([0], namedValues "AXRow" ""),
      ([0, 0], namedValues "" "abc")] = n + 9 := by
  have hrowRole : Macos.normalizeRole "AXRow" = "row" := by decide
  have hemptyRole : Macos.normalizeRole "" = "" := by decide
  have hrow : byteLength "row" = 3 := by decide
  have hempty : byteLength "" = 0 := by decide
  have hname : byteLength "abc" = 3 := by decide
  simp [Macos.publishedBytes, Macos.rowName, nearestAbove, namedValues, normalizeRole_plainRole,
    byteLength_plainRole, hrowRole, hemptyRole, hrow, hempty, hname]

theorem rowTree_exceeds_budget :
    ∃ result state', Macos.snapshot plainTexts 1 .interactive (fun round => decide (3 ≤ round))
        (.ok (rowTree (plainRole 262136))) ⟨0, []⟩ = (.ok result, state') ∧
      ¬ WithinBudget (Macos.snapshotBudget .interactive) result := by
  obtain ⟨result, state', h, hbytes⟩ := snapshot_of_visitable 1 ⟨0, []⟩
    (@visitable_rowNodes .interactive (by decide) 262136 rfl)
  rw [shown_rowNodes, publishedBytes_rowNodes] at hbytes
  refine ⟨result, state', h, fun hwithin => ?_⟩
  rw [WithinBudget, hbytes] at hwithin
  exact absurd hwithin (by decide)

/-! ## When the budget is kept -/

/-- On Windows every snapshot keeps to its budget.  On macOS those of a tree do exactly
when the names fit wherever its traversal may stop, and those of all trees only in the
mode without elements. -/
theorem snapshot_withinBudget_iff (mode : AccessibilityMode) :
    (∀ texts hwnd expired cache state result state',
      Windows.snapshot texts hwnd mode expired cache state = (.ok result, state') →
        WithinBudget (Windows.snapshotBudget mode) result) ∧
      (∀ texts root, (∀ pid expired state result state',
        Macos.snapshot texts pid mode expired (.ok root) state = (.ok result, state') →
          WithinBudget (Macos.snapshotBudget mode) result) ↔ Macos.KeepsBudget texts mode root) ∧
      ((∀ texts root, Macos.KeepsBudget texts mode root) ↔ mode = .disabled) := by
  refine ⟨?_, fun texts root => keepsBudget_iff, ?_, ?_⟩
  · intro texts hwnd expired cache state result state' h
    obtain ⟨root, progress, rfl, hrun, rfl, -⟩ := SemanticState.take_eq h
    obtain ⟨hrecorded, -⟩ := Walk.run_recorded (Windows.closes_walk texts mode _) hrun
    obtain ⟨nodes, hnodes, hshown⟩ := hrecorded.shown
    have hbytes := hnodes.bytes
    rw [← hshown, Walk.countedBytes, List.map_map] at hbytes
    rw [WithinBudget, finishSnapshot, List.map_map]
    exact hbytes
  · intro hall
    by_contra hmode
    have hbytes : 8 ≤ (Macos.snapshotBudget mode).maxBytes := by
      cases mode <;> simp_all [Macos.snapshotBudget]
    have hfits := hall plainTexts _ _ (visitable_rowNodes hmode (Nat.sub_add_cancel hbytes))
    rw [shown_rowNodes, publishedBytes_rowNodes] at hfits
    omega
  · rintro rfl texts root nodes hnodes
    obtain rfl := List.eq_nil_of_length_eq_zero (Nat.le_zero.mp hnodes.nodes)
    exact Nat.zero_le _

theorem keepsBudget_axTable : Macos.KeepsBudget plainTexts .interactive axTable := by
  intro nodes hnodes
  have hall : ∀ done ∈ ((Macos.walk plainTexts .interactive "").order axTable).inits,
      Macos.publishedBytes ((Macos.walk plainTexts .interactive "").shown done) ≤ 262144 := by
    decide +kernel
  exact hall nodes ((List.mem_inits _ _).mpr hnodes.begins)

/-- The row of the table takes over a name, and there is room for it. -/
theorem table_withinBudget :
    (∃ result state', Windows.snapshot plainTexts 1 .interactive (fun _ => false) (.ok uiaPane)
        ⟨0, []⟩ = (.ok result, state') ∧ outline result = uiaOutline ∧
      WithinBudget (Windows.snapshotBudget .interactive) result) ∧
      ∃ result state', Macos.snapshot plainTexts 1 .interactive (fun _ => false) (.ok axTable)
          ⟨0, []⟩ = (.ok result, state') ∧ outline result = axOutline ∧
        WithinBudget (Macos.snapshotBudget .interactive) result := by
  constructor
  · obtain ⟨result, state', h, houtline, -⟩ := snapshot_uiaPane
    exact ⟨result, state', h, houtline, (snapshot_withinBudget_iff _).1 _ _ _ _ _ _ _ h⟩
  · obtain ⟨result, state', h, houtline, -⟩ := snapshot_axTable
    exact ⟨result, state', h, houtline, ((snapshot_withinBudget_iff _).2.1 _ _).mpr
      keepsBudget_axTable _ _ _ _ _ h⟩

end NexusCua.Platform
