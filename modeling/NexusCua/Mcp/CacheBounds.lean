import NexusCua.Foundation.Roster
import NexusCua.Mcp.Cache

/-!
# The bounds of the image cache

The queues beside the two maps list their keys exactly once, the byte counter is the
sum of the cached images, a window has at most one image, and neither map nor the
counter exceeds its limit.  An image that is larger than the limit of the counter on
its own is cached all the same, alone.
-/

namespace NexusCua.Mcp

open NexusCua.Foundation NexusCua.Protocol

namespace ImageMappingCache

inductive Operation where
  | insert (observationId : ObservationId) (windowRef : WindowRef) (mapping : ScreenshotMapping)
      (bytes : List UInt8)
  | insertView (viewRef : String) (view : RegionView)
  | invalidateWindow (windowRef : WindowRef)
  | clear

def perform (cache : ImageMappingCache) : Operation → ImageMappingCache
  | .insert observationId windowRef mapping bytes =>
      cache.insert observationId windowRef mapping bytes
  | .insertView viewRef view => cache.insertView viewRef view
  | .invalidateWindow windowRef => cache.invalidateWindow windowRef
  | .clear => cache.clear

def performAll (operations : List Operation) : ImageMappingCache :=
  operations.foldl perform empty

/-! ## One operation -/

def imageBytes (image : CachedImage) : Nat := image.bytes.length

structure Counted (cache : ImageMappingCache) : Prop where
  order : cache.entries.Listed cache.order
  bytes : cache.cachedBytes = cache.entries.total imageBytes

variable {cache : ImageMappingCache} {windowRef : WindowRef} {observationId : ObservationId}
  {viewRef : String} {byteLength : Nat}

theorem Counted.invalidateWindow (h : cache.Counted) (windowRef : WindowRef) :
    (cache.invalidateWindow windowRef).Counted where
  order := h.order.retain _
  bytes := by
    have hsplit := cache.entries.total_retain imageBytes fun _ image => image.windowRef != windowRef
    have hbytes := h.bytes
    simp only [ImageMappingCache.invalidateWindow, bne, Bool.not_not] at hsplit ⊢
    simp only [imageBytes] at hsplit hbytes ⊢
    omega

variable {order : List ObservationId}

theorem Counted.removeHead
    (h : ({ cache with order := observationId :: order } : ImageMappingCache).Counted) :
    ({ cache.removeEntry observationId with order := order } : ImageMappingCache).Counted := by
  obtain ⟨horder, hbytes⟩ := h
  have hmem : (cache.entries.lookup observationId).isSome = true :=
    (horder.mem_iff observationId).mp List.mem_cons_self
  obtain ⟨image, himage⟩ := Option.isSome_iff_exists.mp hmem
  have herase := Table.total_erase_of_lookup imageBytes himage
  simp only [removeEntry, himage]
  refine ⟨horder.erase_head, ?_⟩
  simp only [imageBytes] at herase hbytes ⊢
  omega

theorem Counted.evict
    (h : ({ cache with order := order } : ImageMappingCache).Counted) :
    (evict byteLength cache order).Counted ∧
      ((evict byteLength cache order).full byteLength = false ∨
        (evict byteLength cache order).order = []) := by
  induction order generalizing cache with
  | nil => exact ⟨h, .inr rfl⟩
  | cons stale order ih =>
    rw [ImageMappingCache.evict]
    split
    · exact ih h.removeHead
    · rename_i hroom
      exact ⟨h, .inl (Bool.eq_false_iff.mpr hroom)⟩

theorem Counted.makeRoom (h : cache.Counted) (windowRef : WindowRef) (byteLength : Nat) :
    (cache.makeRoom windowRef byteLength).Counted ∧
      ((cache.makeRoom windowRef byteLength).full byteLength = false ∨
        (cache.makeRoom windowRef byteLength).order = []) :=
  (h.invalidateWindow windowRef).evict

def OnePerWindow (cache : ImageMappingCache) : Prop :=
  ∀ first second image image', cache.entries.lookup first = some image →
    cache.entries.lookup second = some image' → image.windowRef = image'.windowRef →
    first = second

structure Sound (cache : ImageMappingCache) : Prop where
  counted : cache.Counted
  viewOrder : cache.views.Listed cache.viewOrder
  onePerWindow : cache.OnePerWindow
  entries_le : cache.entries.size ≤ maxCachedImageMappings
  views_le : cache.views.size ≤ maxCachedRegionViews

theorem sound_empty : empty.Sound where
  counted := ⟨.empty, rfl⟩
  viewOrder := .empty
  onePerWindow first second image image' h := by simp [empty] at h
  entries_le := Nat.zero_le _
  views_le := Nat.zero_le _

theorem size_makeRoom_lt (h : cache.Counted) (windowRef : WindowRef) (byteLength : Nat) :
    (cache.makeRoom windowRef byteLength).entries.size < maxCachedImageMappings := by
  obtain ⟨hcounted, hroom | hnone⟩ := h.makeRoom windowRef byteLength
  · simp only [full, Bool.or_eq_false_iff, decide_eq_false_iff_not] at hroom
    exact Nat.lt_of_not_le hroom.1
  · have hzero := hcounted.order
    rw [hnone] at hzero
    rw [hzero.size_eq_zero]
    decide

@[simp] theorem viewOrder_removeEntry :
    (cache.removeEntry observationId).viewOrder = cache.viewOrder := by
  rw [removeEntry]
  split <;> rfl

@[simp] theorem viewOrder_evict :
    (evict byteLength cache order).viewOrder = cache.viewOrder := by
  induction order generalizing cache with
  | nil => rfl
  | cons stale order ih =>
    rw [evict]
    split
    · rw [ih, viewOrder_removeEntry]
    · rfl

theorem Sound.invalidateWindow (h : cache.Sound) (windowRef : WindowRef) :
    (cache.invalidateWindow windowRef).Sound where
  counted := h.counted.invalidateWindow windowRef
  viewOrder := h.viewOrder.retain _
  onePerWindow first second image image' hfirst hsecond := by
    rw [lookup_invalidateWindow, Option.filter_eq_some_iff] at hfirst hsecond
    exact h.onePerWindow first second image image' hfirst.1 hsecond.1
  entries_le := (Table.size_retain_le _ _).trans h.entries_le
  views_le := (Table.size_retain_le _ _).trans h.views_le

theorem lookup_makeRoom_none
    (hsame : ∀ image, cache.entries.lookup observationId = some image →
      image.windowRef = windowRef) (byteLength : Nat) :
    (cache.makeRoom windowRef byteLength).entries.lookup observationId = none := by
  cases hlookup : (cache.makeRoom windowRef byteLength).entries.lookup observationId with
  | none => rfl
  | some image =>
    obtain ⟨himage, hne⟩ := lookup_makeRoom hlookup
    exact absurd (hsame image himage) hne

theorem Sound.insert (h : cache.Sound) (mapping : ScreenshotMapping) (bytes : List UInt8)
    (hsame : ∀ image, cache.entries.lookup observationId = some image →
      image.windowRef = windowRef) :
    (cache.insert observationId windowRef mapping bytes).Sound where
  counted := by
    obtain ⟨hcounted, -⟩ := h.counted.makeRoom windowRef bytes.length
    have hfree := lookup_makeRoom_none hsame bytes.length
    refine ⟨hcounted.order.insert hfree _, ?_⟩
    simp only [ImageMappingCache.insert]
    rw [Table.total_insert_of_lookup_none imageBytes hfree, hcounted.bytes, imageBytes]
  viewOrder := by
    have hviews := h.viewOrder.retain fun _ view => view.windowRef != windowRef
    simp only [ImageMappingCache.insert, ImageMappingCache.makeRoom, views_evict, viewOrder_evict]
    exact hviews
  onePerWindow first second image image' hfirst hsecond hwindow := by
    obtain ⟨rfl, rfl⟩ | ⟨hfirst, hne⟩ := lookup_insert hfirst
    · obtain ⟨rfl, rfl⟩ | ⟨-, hne'⟩ := lookup_insert hsecond
      · rfl
      · exact absurd hwindow.symm hne'
    · obtain ⟨rfl, rfl⟩ | ⟨hsecond, -⟩ := lookup_insert hsecond
      · exact absurd hwindow hne
      · exact h.onePerWindow first second image image' hfirst hsecond hwindow
  entries_le := by
    have hroom := size_makeRoom_lt h.counted windowRef bytes.length
    exact (Table.size_insert_le _ _ _).trans hroom
  views_le := by
    rw [views_insert]
    exact (Table.size_retain_le _ _).trans h.views_le

theorem views_evictViews {order : List String} (h : cache.views.Listed order) :
    (cache.evictViews order).views.Listed (cache.evictViews order).viewOrder ∧
      (cache.evictViews order).views.size < maxCachedRegionViews := by
  induction order generalizing cache with
  | nil => exact ⟨h, h.size_eq_zero ▸ by decide⟩
  | cons stale order ih =>
    rw [evictViews]
    split
    · exact ih h.erase_head
    · rename_i hroom
      exact ⟨h, Nat.lt_of_not_le hroom⟩

theorem counted_evictViews (h : cache.Counted) (order : List String) :
    (cache.evictViews order).Counted := by
  induction order generalizing cache with
  | nil => exact ⟨h.order, h.bytes⟩
  | cons stale order ih =>
    rw [evictViews]
    split
    · exact ih ⟨h.order, h.bytes⟩
    · exact ⟨h.order, h.bytes⟩

theorem Sound.insertView (h : cache.Sound) (view : RegionView)
    (hfree : cache.views.lookup viewRef = none) : (cache.insertView viewRef view).Sound where
  counted := by
    obtain ⟨horder, hbytes⟩ := counted_evictViews h.counted cache.viewOrder
    exact ⟨horder, hbytes⟩
  viewOrder := by
    obtain ⟨hlisted, -⟩ := views_evictViews h.viewOrder
    refine hlisted.insert ?_ view
    cases hlookup : (cache.evictViews cache.viewOrder).views.lookup viewRef with
    | none => rfl
    | some found => exact absurd (view_evictViews hlookup) (by simp [hfree])
  onePerWindow first second image image' := by
    rw [entries_insertView]
    exact h.onePerWindow first second image image'
  entries_le := by
    rw [entries_insertView]
    exact h.entries_le
  views_le := by
    obtain ⟨-, hroom⟩ := views_evictViews h.viewOrder
    exact (Table.size_insert_le _ _ _).trans hroom

/-! ## The bytes -/

theorem cachedBytes_invalidateWindow_le :
    (cache.invalidateWindow windowRef).cachedBytes ≤ cache.cachedBytes :=
  Nat.sub_le _ _

theorem cachedBytes_evictViews {order : List String} :
    (cache.evictViews order).cachedBytes = cache.cachedBytes := by
  induction order generalizing cache with
  | nil => rfl
  | cons stale order ih =>
    rw [evictViews]
    split
    · rw [ih]
    · rfl

theorem cachedBytes_insert_le (h : cache.Counted) (mapping : ScreenshotMapping)
    {bytes : List UInt8} (hfits : bytes.length ≤ maxCachedImageBytes) :
    (cache.insert observationId windowRef mapping bytes).cachedBytes ≤ maxCachedImageBytes := by
  obtain ⟨hcounted, hroom | hnone⟩ := h.makeRoom windowRef bytes.length
  · simp only [full, Bool.or_eq_false_iff, decide_eq_false_iff_not] at hroom
    exact Nat.le_of_not_lt hroom.2
  · have hempty := hcounted.order
    rw [hnone] at hempty
    have hentries : (cache.makeRoom windowRef bytes.length).entries.entries = [] :=
      List.length_eq_zero_iff.mp hempty.size_eq_zero
    have hzero : (cache.makeRoom windowRef bytes.length).cachedBytes = 0 := by
      rw [hcounted.bytes, Table.total, Table.toList, hentries]
      rfl
    simp only [ImageMappingCache.insert, hzero]
    omega

/-! ## Runs -/

def SameWindow (operations : List Operation) : Prop :=
  ∀ observationId windowRef windowRef' mapping mapping' bytes bytes',
    .insert observationId windowRef mapping bytes ∈ operations →
    .insert observationId windowRef' mapping' bytes' ∈ operations → windowRef = windowRef'

def Operation.viewRef? : Operation → Option String
  | .insertView viewRef _ => some viewRef
  | _ => none

def viewRefs (operations : List Operation) : List String :=
  operations.filterMap Operation.viewRef?

def EachFits (operations : List Operation) : Prop :=
  ∀ observationId windowRef mapping bytes,
    .insert observationId windowRef mapping bytes ∈ operations →
    bytes.length ≤ maxCachedImageBytes

structure Inserted (operations : List Operation) (cache : ImageMappingCache) : Prop where
  image : ∀ observationId image, cache.entries.lookup observationId = some image →
    ∃ mapping bytes, .insert observationId image.windowRef mapping bytes ∈ operations
  view : ∀ viewRef view, cache.views.lookup viewRef = some view →
    viewRef ∈ viewRefs operations

variable {operations : List Operation}

theorem Inserted.perform (h : Inserted operations cache)
    (operation : Operation) :
    Inserted (operations ++ [operation]) (cache.perform operation) := by
  have hold : ∀ observationId image, cache.entries.lookup observationId = some image →
      ∃ mapping bytes, .insert observationId image.windowRef mapping bytes ∈
        operations ++ [operation] := by
    intro observationId image himage
    obtain ⟨mapping, bytes, hmem⟩ := h.image observationId image himage
    exact ⟨mapping, bytes, List.mem_append_left _ hmem⟩
  have holdView : ∀ viewRef view, cache.views.lookup viewRef = some view →
      viewRef ∈ viewRefs (operations ++ [operation]) := by
    intro viewRef view hview
    rw [viewRefs, List.filterMap_append]
    exact List.mem_append_left _ (h.view viewRef view hview)
  cases operation with
  | insert observationId windowRef mapping bytes =>
    refine ⟨fun other image himage => ?_, fun viewRef view hview => ?_⟩
    · obtain ⟨rfl, rfl⟩ | ⟨himage, -⟩ := lookup_insert himage
      · exact ⟨mapping, bytes, by simp⟩
      · exact hold other image himage
    · have hkept : ((cache.views.lookup viewRef).filter fun view =>
          view.windowRef != windowRef) = some view := by
        rw [← view_invalidateWindow, ← views_insert]
        exact hview
      exact holdView viewRef view (Option.filter_eq_some_iff.mp hkept).1
  | insertView viewRef view =>
    refine ⟨fun other image himage => ?_, fun other found hview => ?_⟩
    · exact hold other image (by simpa [ImageMappingCache.perform] using himage)
    · obtain ⟨rfl, rfl⟩ | hview := view_insertView hview
      · simp [viewRefs, Operation.viewRef?]
      · exact holdView other found hview
  | invalidateWindow windowRef =>
    refine ⟨fun other image himage => ?_, fun viewRef view hview => ?_⟩
    · simp only [ImageMappingCache.perform, lookup_invalidateWindow,
        Option.filter_eq_some_iff] at himage
      exact hold other image himage.1
    · simp only [ImageMappingCache.perform, view_invalidateWindow,
        Option.filter_eq_some_iff] at hview
      exact holdView viewRef view hview.1
  | clear =>
    refine ⟨fun other image himage => ?_, fun viewRef view hview => ?_⟩
    · simp [ImageMappingCache.perform, ImageMappingCache.clear, empty] at himage
    · simp [ImageMappingCache.perform, ImageMappingCache.clear, empty] at hview

theorem inserted_performAll (operations : List Operation) :
    Inserted operations (performAll operations) := by
  induction operations using List.reverseRecOn with
  | nil => exact ⟨fun _ _ h => by simp [performAll, empty] at h,
      fun _ _ h => by simp [performAll, empty] at h⟩
  | append_singleton operations operation ih =>
    rw [performAll, List.foldl_append]
    exact ih.perform operation

theorem SameWindow.init {operation : Operation}
    (h : SameWindow (operations ++ [operation])) : SameWindow operations :=
  fun observationId windowRef windowRef' mapping mapping' bytes bytes' hmem hmem' =>
    h observationId windowRef windowRef' mapping mapping' bytes bytes'
      (List.mem_append_left _ hmem) (List.mem_append_left _ hmem')

theorem sound_performAll (hsame : SameWindow operations)
    (hviews : (viewRefs operations).Nodup) : (performAll operations).Sound := by
  induction operations using List.reverseRecOn with
  | nil => exact sound_empty
  | append_singleton operations operation ih =>
    rw [viewRefs, List.filterMap_append] at hviews
    have hsound := ih hsame.init (List.Nodup.of_append_left hviews)
    have hinserted := inserted_performAll operations
    rw [performAll, List.foldl_append]
    cases operation with
    | insert observationId windowRef mapping bytes =>
      refine hsound.insert mapping bytes fun image himage => ?_
      obtain ⟨mapping', bytes', hmem⟩ := hinserted.image observationId image himage
      exact hsame observationId image.windowRef windowRef mapping' mapping bytes' bytes
        (List.mem_append_left _ hmem) (by simp)
    | insertView viewRef view =>
      refine hsound.insertView view ?_
      cases hlookup : (performAll operations).views.lookup viewRef with
      | none => rfl
      | some found =>
        have hmem := hinserted.view viewRef found hlookup
        exact (List.disjoint_of_nodup_append hviews hmem (by simp [Operation.viewRef?])).elim
    | invalidateWindow windowRef => exact hsound.invalidateWindow windowRef
    | clear => exact sound_empty

theorem cachedBytes_performAll_le (hsame : SameWindow operations)
    (hviews : (viewRefs operations).Nodup) (hfits : EachFits operations) :
    (performAll operations).cachedBytes ≤ maxCachedImageBytes := by
  induction operations using List.reverseRecOn with
  | nil => exact Nat.zero_le _
  | append_singleton operations operation ih =>
    rw [viewRefs, List.filterMap_append] at hviews
    have hviews := List.Nodup.of_append_left hviews
    have hsound := sound_performAll hsame.init hviews
    have hle := ih hsame.init hviews fun observationId windowRef mapping bytes hmem =>
      hfits observationId windowRef mapping bytes (List.mem_append_left _ hmem)
    rw [performAll, List.foldl_append]
    cases operation with
    | insert observationId windowRef mapping bytes =>
      exact cachedBytes_insert_le hsound.counted mapping
        (hfits observationId windowRef mapping bytes (by simp))
    | insertView viewRef view => exact cachedBytes_evictViews.trans_le hle
    | invalidateWindow windowRef => exact cachedBytes_invalidateWindow_le.trans hle
    | clear => exact Nat.zero_le _

/-- In every run that keeps the window of an observation and never repeats the
reference of a view, the cache is sound, and it stays within the bound of its bytes
when each image alone does. -/
theorem sound_and_bounded (operations : List Operation) (hsame : SameWindow operations)
    (hviews : (viewRefs operations).Nodup) :
    (performAll operations).Sound ∧
      (EachFits operations → (performAll operations).cachedBytes ≤ maxCachedImageBytes) :=
  ⟨sound_performAll hsame hviews, cachedBytes_performAll_le hsame hviews⟩

/-- One image more than the cache holds, each of its own window, a view, and then one
window is invalidated. -/
def shortRun : List Operation :=
  let name (n : Nat) := String.ofList (List.replicate n 'w')
  (List.range 33).map (fun n =>
      .insert ⟨name n⟩ ⟨name n⟩ ⟨⟨0, 0, 1, 1⟩, ⟨1, 1⟩⟩ [1, 2]) ++
    [.insertView "view_1" ⟨⟨"ww"⟩, ⟨"ww"⟩, ⟨0, 0, 1, 1⟩, ⟨1, 1⟩⟩, .invalidateWindow ⟨"www"⟩]

theorem insert_shortRun {mapping : ScreenshotMapping} {bytes : List UInt8}
    (h : .insert observationId windowRef mapping bytes ∈ shortRun) :
    windowRef = ⟨observationId.value⟩ ∧ bytes = [1, 2] := by
  simp only [shortRun, List.mem_append, List.mem_map, List.mem_cons, Operation.insert.injEq,
    reduceCtorEq, List.not_mem_nil, or_false] at h
  obtain ⟨n, -, rfl, rfl, -, rfl⟩ := h
  exact ⟨rfl, rfl⟩

theorem sound_shortRun :
    (performAll shortRun).entries.lookup ⟨""⟩ = none ∧ (performAll shortRun).entries.size = 31 ∧
      (performAll shortRun).Sound ∧ (performAll shortRun).cachedBytes ≤ maxCachedImageBytes := by
  have hsame : SameWindow shortRun := fun _ _ _ _ _ _ _ h h' =>
    (insert_shortRun h).1.trans (insert_shortRun h').1.symm
  obtain ⟨hsound, hbounded⟩ := sound_and_bounded shortRun hsame (by decide)
  refine ⟨by decide +kernel, by decide +kernel, hsound, hbounded fun _ _ _ _ h => ?_⟩
  rw [(insert_shortRun h).2]
  decide

end ImageMappingCache

end NexusCua.Mcp
