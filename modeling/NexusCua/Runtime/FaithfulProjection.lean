import NexusCua.Foundation.Roster
import NexusCua.Runtime.Actions

/-!
# Projected observations

What is published of an observation and what is kept of it for later actions come from
the same selection of the driver's elements.  Each published element stands at the
position of its driver element, and its reference leads back to that element alone.
-/

namespace NexusCua.Runtime

open NexusCua.Foundation NexusCua.Protocol

/-! ## The references -/

variable {uuids : UuidSource} {issued : Nat} {elements : List DriverElement}

def drawnRef (uuids : UuidSource) (n : Nat) : ElementRef := ⟨uuids.issue "element" n⟩

theorem drawnRef_injective (uuids : UuidSource) : Function.Injective (drawnRef uuids) := by
  intro m n h
  simpa [drawnRef] using h

theorem nodup_keys_zipIdx (h : (elements.map (·.key)).Nodup) :
    ((elements.zipIdx issued).map fun entry => entry.1.key).Nodup := by
  have hmap : ((elements.zipIdx issued).map fun entry => entry.1.key) = elements.map (·.key) := by
    rw [← List.zipIdx_map_fst issued elements, List.map_map]
    rw [List.zipIdx_map_fst]
    rfl
  rwa [hmap]

theorem lookup_refsByKey (h : (elements.map (·.key)).Nodup) {i : Nat} {element : DriverElement}
    (hi : elements[i]? = some element) :
    (refsByKey uuids issued elements).lookup element.key = some (drawnRef uuids (issued + i)) := by
  have hmem : (element, issued + i) ∈ elements.zipIdx issued := by
    rw [List.mk_mem_zipIdx_iff_le_and_getElem?_sub, Nat.add_sub_cancel_left]
    exact ⟨Nat.le_add_right _ _, hi⟩
  exact Table.lookup_foldl_insert_of_mem (f := fun entry : DriverElement × Nat => entry.1.key)
    (g := fun entry => drawnRef uuids entry.2) (nodup_keys_zipIdx h) hmem

theorem lookup_refsByKey_none {key : String} (h : ∀ element ∈ elements, element.key ≠ key) :
    (refsByKey uuids issued elements).lookup key = none := by
  refine (Table.lookup_foldl_insert_of_notMem (f := fun entry : DriverElement × Nat => entry.1.key)
    (g := fun entry => drawnRef uuids entry.2) fun entry hentry => ?_).trans rfl
  exact h entry.1 (List.fst_mem_of_mem_zipIdx hentry)

theorem referencedElements_eq (h : (elements.map (·.key)).Nodup) :
    referencedElements (refsByKey uuids issued elements) elements =
      (elements.zipIdx issued).map fun entry => (drawnRef uuids entry.2, entry.1) := by
  have hdrawn : ∀ entry ∈ elements.zipIdx issued,
      ((refsByKey uuids issued elements).lookup entry.1.key).map
          (fun elementRef => (elementRef, entry.1)) =
        some (drawnRef uuids entry.2, entry.1) := by
    rintro ⟨element, n⟩ hentry
    obtain ⟨i, rfl, hi⟩ : ∃ i, n = issued + i ∧ elements[i]? = some element := by
      obtain ⟨hle, hget⟩ := List.mk_mem_zipIdx_iff_le_and_getElem?_sub.mp hentry
      exact ⟨n - issued, by omega, hget⟩
    rw [lookup_refsByKey h hi]
    rfl
  have hfirst : ∀ refs : Table String ElementRef, referencedElements refs elements =
      (elements.zipIdx issued).filterMap fun entry =>
        (refs.lookup entry.1.key).map fun elementRef => (elementRef, entry.1) := by
    intro refs
    rw [referencedElements]
    conv_lhs => rw [← List.zipIdx_map_fst issued elements]
    rw [List.filterMap_map]
    rfl
  rw [hfirst, List.filterMap_congr hdrawn]
  exact congrFun List.filterMap_eq_map' _

/-! ## What is published -/

def publishedElements (uuids : UuidSource) (issued : Nat) (elements : List DriverElement) :
    List AccessibilityElement :=
  (elements.zipIdx issued).map fun entry =>
    projectElement (refsByKey uuids issued elements) entry.1 (drawnRef uuids entry.2)

theorem getElem?_publishedElements (i : Nat) :
    (publishedElements uuids issued elements)[i]? = elements[i]?.map fun element =>
      projectElement (refsByKey uuids issued elements) element (drawnRef uuids (issued + i)) := by
  rw [publishedElements, List.getElem?_map, List.getElem?_zipIdx, Option.map_map]
  rfl

theorem map_elementRef_publishedElements :
    (publishedElements uuids issued elements).map (·.elementRef) =
      (List.range' issued elements.length).map (drawnRef uuids) := by
  rw [publishedElements, List.map_map, ← List.zipIdx_map_snd issued elements, List.map_map]
  rfl

theorem nodup_elementRef_publishedElements (uuids : UuidSource) (issued : Nat)
    (elements : List DriverElement) :
    ((publishedElements uuids issued elements).map (·.elementRef)).Nodup := by
  rw [map_elementRef_publishedElements]
  exact (List.nodup_range').map (drawnRef_injective uuids)

def recordElements (uuids : UuidSource) (issued : Nat) (elements : List DriverElement) :
    Table ElementRef DriverElement :=
  ((elements.zipIdx issued).map fun entry => (drawnRef uuids entry.2, entry.1)).foldl
    (fun table entry => table.insert entry.1 entry.2) ∅

theorem lookup_recordElements {i : Nat} {element : DriverElement}
    (hi : elements[i]? = some element) :
    (recordElements uuids issued elements).lookup (drawnRef uuids (issued + i)) =
      some element := by
  have hrefs : (((elements.zipIdx issued).map fun entry =>
      (drawnRef uuids entry.2, entry.1)).map Prod.fst).Nodup := by
    have hnodup := nodup_elementRef_publishedElements uuids issued elements
    rw [publishedElements, List.map_map] at hnodup
    rw [List.map_map]
    exact hnodup
  have hmem : (drawnRef uuids (issued + i), element) ∈ (elements.zipIdx issued).map fun entry =>
      (drawnRef uuids entry.2, entry.1) := by
    refine List.mem_map.mpr ⟨(element, issued + i), ?_, rfl⟩
    rw [List.mk_mem_zipIdx_iff_le_and_getElem?_sub, Nat.add_sub_cancel_left]
    exact ⟨Nat.le_add_right _ _, hi⟩
  exact Table.lookup_foldl_insert_of_mem (f := Prod.fst) (g := Prod.snd) hrefs hmem

theorem lookup_recordElements_none {elementRef : ElementRef}
    (h : elementRef ∉ (publishedElements uuids issued elements).map (·.elementRef)) :
    (recordElements uuids issued elements).lookup elementRef = none := by
  refine (Table.lookup_foldl_insert_of_notMem (f := Prod.fst) (g := Prod.snd)
    fun entry hentry heq => h ?_).trans rfl
  obtain ⟨drawn, hdrawn, rfl⟩ := List.mem_map.mp hentry
  subst heq
  rw [publishedElements, List.map_map]
  exact List.mem_map.mpr ⟨drawn, hdrawn, rfl⟩

theorem projectObservation_eq (uuids : UuidSource) (issued : Nat) (observation : DriverObservation)
    (windowRef : WindowRef) (screenshotMapping : Option ScreenshotMapping) (maxElements : Nat)
    (applicationScene : Bool) (createdAt : Nat) (h : (observation.elements.map (·.key)).Nodup) :
    (projectObservation uuids issued observation windowRef screenshotMapping maxElements
        applicationScene createdAt).1.elements =
      recordElements uuids (issued + 1) (observation.elements.take maxElements) ∧
    (projectObservation uuids issued observation windowRef screenshotMapping maxElements
        applicationScene createdAt).2.1 =
      publishedElements uuids (issued + 1) (observation.elements.take maxElements) := by
  have hselected : ((observation.elements.take maxElements).map (·.key)).Nodup := by
    rw [List.map_take]
    exact h.sublist (List.take_sublist _ _)
  simp only [projectObservation, referencedElements_eq hselected]
  exact ⟨rfl, by rw [List.map_map]; rfl⟩

/-! ## What actions resolve to -/

def elementRef? : Action → Option ElementRef
  | .focusElement elementRef | .invokeElement elementRef | .setValue elementRef _
  | .setRangeValue elementRef _ | .toggleElement elementRef | .selectElement elementRef
  | .setExpanded elementRef _ => some elementRef
  | _ => none

def onElement (key : String) : Action → Option DriverAction
  | .focusElement _ => some (.focusElement key)
  | .invokeElement _ => some (.invokeElement key)
  | .setValue _ value => some (.setValue key value)
  | .setRangeValue _ value => some (.setRangeValue key value)
  | .toggleElement _ => some (.toggleElement key)
  | .selectElement _ => some (.selectElement key)
  | .setExpanded _ expanded => some (.setExpanded key expanded)
  | _ => none

def TakesValue (element : DriverElement) (value : Float) : Prop :=
  ∃ range, element.rangeValue = some range ∧ element.enabled = true ∧ range.readOnly = false ∧
    ¬ value < range.minimum ∧ ¬ range.maximum < value

section Resolving

variable {record : ObservationRecord} {action : Action} {elementRef : ElementRef}
  {element : DriverElement}

theorem resolveRangeValue_of_lookup (h : record.elements.lookup elementRef = some element)
    (value : Float) :
    (TakesValue element value ∧
        record.resolveRangeValue elementRef value = .ok (.setRangeValue element.key value)) ∨
      (¬ TakesValue element value ∧ ∃ error, record.resolveRangeValue elementRef value =
        .error error) := by
  have helement : record.element elementRef = .ok element := by
    simp only [ObservationRecord.element, h]
  cases hrange : element.rangeValue with
  | none =>
    refine .inr ⟨?_, ?_⟩
    · rintro ⟨range, hsome, _⟩
      rw [hrange] at hsome
      cases hsome
    · simp only [ObservationRecord.resolveRangeValue, helement, hrange, bind, Except.bind]
      exact ⟨_, rfl⟩
  | some range =>
    by_cases hrefused : (!element.enabled || range.readOnly || decide (value < range.minimum) ||
        decide (range.maximum < value)) = true
    · refine .inr ⟨?_, ?_⟩
      · rintro ⟨range', hsome, henabled, hwritable, hmin, hmax⟩
        obtain rfl : range = range' := Option.some.inj (hrange.symm.trans hsome)
        simp [henabled, hwritable, hmin, hmax] at hrefused
      · simp only [ObservationRecord.resolveRangeValue, helement, hrange, bind, Except.bind]
        exact ⟨_, if_pos hrefused⟩
    · refine .inl ⟨⟨range, hrange, ?_⟩, ?_⟩
      · simpa [not_or, and_assoc] using hrefused
      · simp only [ObservationRecord.resolveRangeValue, helement, hrange, bind, Except.bind]
        exact if_neg hrefused

/-- A reference of the record leads to the key of its element.  A numeric value is also
compared with the range that was observed. -/
theorem resolveAction_of_lookup (h : record.elements.lookup elementRef = some element)
    (haction : elementRef? action = some elementRef) :
    ∃ driverAction, onElement element.key action = some driverAction ∧
      (resolveAction action record = .ok driverAction ∨
        ∃ value, action = .setRangeValue elementRef value ∧ ¬ TakesValue element value ∧
          ∃ error, resolveAction action record = .error error) := by
  have helement : record.element elementRef = .ok element := by
    simp only [ObservationRecord.element, h]
  have hkey : record.elementKey elementRef = .ok element.key := by
    simp only [ObservationRecord.elementKey, helement]
    rfl
  cases action <;> simp only [elementRef?, Option.some.injEq, reduceCtorEq] at haction <;>
    subst haction
  case setRangeValue value =>
    refine ⟨_, rfl, ?_⟩
    obtain ⟨_, hok⟩ | ⟨hrefused, error, herror⟩ := resolveRangeValue_of_lookup h value
    · exact .inl hok
    · exact .inr ⟨value, rfl, hrefused, error, herror⟩
  all_goals
    refine ⟨_, rfl, .inl ?_⟩
    simp only [resolveAction, ObservationRecord.validateSceneDelivery, resolveTarget, hkey]
    rfl

theorem resolveAction_of_lookup_none (h : record.elements.lookup elementRef = none)
    (haction : elementRef? action = some elementRef) :
    resolveAction action record = .error staleObservation := by
  have helement : record.element elementRef = .error staleObservation := by
    simp only [ObservationRecord.element, h]
  have hkey : record.elementKey elementRef = .error staleObservation := by
    simp only [ObservationRecord.elementKey, helement]
    rfl
  cases action <;> simp only [elementRef?, Option.some.injEq, reduceCtorEq] at haction <;>
    subst haction
  case setRangeValue value =>
    simp only [resolveAction, ObservationRecord.validateSceneDelivery, resolveTarget,
      ObservationRecord.resolveRangeValue, helement]
    rfl
  all_goals
    simp only [resolveAction, ObservationRecord.validateSceneDelivery, resolveTarget, hkey]
    rfl

end Resolving

/-! ## Faithful projections -/

structure SameData (shown : AccessibilityElement) (element : DriverElement) : Prop where
  role : shown.role = element.role
  name : shown.name = element.name
  value : shown.value = element.value
  rangeValue : shown.rangeValue = element.rangeValue
  screenBounds : shown.screenBounds = element.screenBounds
  enabled : shown.enabled = element.enabled
  focused : shown.focused = element.focused
  selected : shown.selected = element.selected
  checked : shown.checked = element.checked
  expanded : shown.expanded = element.expanded
  actions : shown.actions = element.actions

structure Faithful (record : ObservationRecord) (published : List AccessibilityElement)
    (selected : List DriverElement) : Prop where
  length : published.length = selected.length
  distinct : (published.map (·.elementRef)).Nodup
  data : ∀ (i : Nat) shown element, published[i]? = some shown → selected[i]? = some element →
    SameData shown element
  resolves : ∀ (i : Nat) shown element action, published[i]? = some shown →
    selected[i]? = some element → elementRef? action = some shown.elementRef →
    ∃ driverAction, onElement element.key action = some driverAction ∧
      (resolveAction action record = .ok driverAction ∨
        ∃ value, action = .setRangeValue shown.elementRef value ∧ ¬ TakesValue element value ∧
          ∃ error, resolveAction action record = .error error)
  rejects : ∀ action elementRef, elementRef? action = some elementRef →
    elementRef ∉ published.map (·.elementRef) →
    resolveAction action record = .error staleObservation
  parent : ∀ (i : Nat) shown element, published[i]? = some shown → selected[i]? = some element →
    ∀ (j : Nat) shown' parent, published[j]? = some shown' → selected[j]? = some parent →
      element.parentKey = some parent.key → shown.parentRef = some shown'.elementRef
  parent_none : ∀ (i : Nat) shown element, published[i]? = some shown →
    selected[i]? = some element →
    (shown.parentRef = none ↔
      ∀ key, element.parentKey = some key → ∀ parent ∈ selected, parent.key ≠ key)

theorem sameData_projectElement (refs : Table String ElementRef) (element : DriverElement)
    (elementRef : ElementRef) : SameData (projectElement refs element elementRef) element :=
  ⟨rfl, rfl, rfl, rfl, rfl, rfl, rfl, rfl, rfl, rfl, rfl⟩

theorem parentRef_eq_none_iff (h : (elements.map (·.key)).Nodup) (element : DriverElement)
    (elementRef : ElementRef) :
    (projectElement (refsByKey uuids issued elements) element elementRef).parentRef = none ↔
      ∀ key, element.parentKey = some key → ∀ parent ∈ elements, parent.key ≠ key := by
  simp only [projectElement, Option.bind_eq_none_iff]
  constructor
  · rintro hnone key hkey parent hparent rfl
    obtain ⟨j, hj⟩ := List.mem_iff_getElem?.mp hparent
    have hlookup := hnone parent.key hkey
    rw [lookup_refsByKey h hj] at hlookup
    cases hlookup
  · intro hkeys key hkey
    exact lookup_refsByKey_none (hkeys key hkey)

theorem faithful_of_nodup {record : ObservationRecord} (h : (elements.map (·.key)).Nodup)
    (hrecord : record.elements = recordElements uuids issued elements) :
    Faithful record (publishedElements uuids issued elements) elements := by
  -- the element at a position is published there under the reference drawn for it
  have hshown : ∀ i shown element, (publishedElements uuids issued elements)[i]? = some shown →
      elements[i]? = some element →
      shown = projectElement (refsByKey uuids issued elements) element
        (drawnRef uuids (issued + i)) := by
    intro i shown element hi helement
    rw [getElem?_publishedElements, helement] at hi
    exact (Option.some.inj hi).symm
  constructor
  case length => rw [publishedElements, List.length_map, List.length_zipIdx]
  case distinct => exact nodup_elementRef_publishedElements uuids issued elements
  case data =>
    intro i shown element hi helement
    rw [hshown i shown element hi helement]
    exact sameData_projectElement _ _ _
  case resolves =>
    intro i shown element action hi helement haction
    refine resolveAction_of_lookup ?_ haction
    rw [hshown i shown element hi helement, hrecord]
    exact lookup_recordElements helement
  case rejects =>
    intro action elementRef haction hother
    refine resolveAction_of_lookup_none ?_ haction
    rw [hrecord]
    exact lookup_recordElements_none hother
  case parent =>
    intro i shown element hi helement j shown' parent hj hparent hkey
    rw [hshown i shown element hi helement, hshown j shown' parent hj hparent]
    simp only [projectElement, hkey, Option.bind_some]
    exact lookup_refsByKey h hparent
  case parent_none =>
    intro i shown element hi helement
    rw [hshown i shown element hi helement]
    exact parentRef_eq_none_iff h element _

/-- The projection of an observation with distinct element keys is faithful to the
elements within the bound, and reported complete only when they are all elements of a
complete observation. -/
theorem projection_faithful (uuids : UuidSource) (issued : Nat) (observation : DriverObservation)
    (windowRef : WindowRef) (screenshotMapping : Option ScreenshotMapping) (maxElements : Nat)
    (applicationScene : Bool) (createdAt : Nat)
    (hkeys : (observation.elements.map (·.key)).Nodup) :
    let projected := projectObservation uuids issued observation windowRef screenshotMapping
      maxElements applicationScene createdAt
    Faithful projected.1 projected.2.1 (observation.elements.take maxElements) ∧
      ∀ runtime : RuntimeService, runtime.config.maxElementsPerObservation = maxElements →
        runtime.elementsComplete observation = true →
        observation.elementsComplete = true ∧
          projected.2.1.length = observation.elements.length := by
  intro projected
  obtain ⟨hrecord, hpublished⟩ := projectObservation_eq uuids issued observation windowRef
    screenshotMapping maxElements applicationScene createdAt hkeys
  have hselected : ((observation.elements.take maxElements).map (·.key)).Nodup := by
    rw [List.map_take]
    exact hkeys.sublist (List.take_sublist _ _)
  have hfaithful : Faithful projected.1 projected.2.1 (observation.elements.take maxElements) := by
    rw [show projected.2.1 = _ from hpublished]
    exact faithful_of_nodup hselected hrecord
  refine ⟨hfaithful, ?_⟩
  intro runtime hmax hcomplete
  simp only [RuntimeService.elementsComplete, Bool.and_eq_true, decide_eq_true_eq, hmax]
    at hcomplete
  exact ⟨hcomplete.1, by rw [hfaithful.length, List.take_of_length_le hcomplete.2]⟩

def groupedObservation : DriverObservation where
  windowKey := "window"
  windowScreenBounds := ⟨0, 0, 1, 1⟩
  screenshot := none
  screenshotScreenBounds := none
  elements :=
    [⟨"0", none, "group", "", none, none, none, true, false, none, none, none, []⟩,
      ⟨"1", some "0", "button", "OK", none, none, none, true, false, none, none, none, []⟩]
  elementsComplete := true
  elementsTruncation := none
  fingerprint := ""

theorem projection_faithful_grouped :
    let projected := projectObservation .tally 0 groupedObservation ⟨"window_0"⟩ none 10 false 0
    Faithful projected.1 projected.2.1 groupedObservation.elements :=
  (projection_faithful .tally 0 groupedObservation ⟨"window_0"⟩ none 10 false 0 (by decide)).1

end NexusCua.Runtime
