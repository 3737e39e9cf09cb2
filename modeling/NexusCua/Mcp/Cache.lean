import NexusCua.Foundation.Table
import NexusCua.Mcp.Zoom

/-!
# The image cache of the adapter

`ImageMappingCache` keeps the screenshots of the windows that were observed and
the regions of them that were zoomed into.  Both are bounded, and the oldest
entries make room for a new one.
-/

namespace NexusCua.Mcp

open NexusCua.Foundation NexusCua.Protocol

def maxCachedImageMappings : Nat := 32

def maxCachedImageBytes : Nat := 32 * 1024 * 1024

def maxCachedRegionViews : Nat := 32

structure CachedImage where
  windowRef : WindowRef
  mapping : ScreenshotMapping
  bytes : List UInt8
  deriving DecidableEq, Repr

structure RegionView where
  observationId : ObservationId
  windowRef : WindowRef
  sourceRect : PixelRect
  sourceSize : PixelSize
  deriving DecidableEq, Repr

structure ImageMappingCache where
  entries : Table ObservationId CachedImage
  order : List ObservationId
  cachedBytes : Nat
  views : Table String RegionView
  viewOrder : List String

namespace ImageMappingCache

def empty : ImageMappingCache := ⟨∅, [], 0, ∅, []⟩

/-- `ImageMappingCache::clear` -/
def clear (_ : ImageMappingCache) : ImageMappingCache := empty

def invalidateWindow (cache : ImageMappingCache) (windowRef : WindowRef) : ImageMappingCache :=
  let removedBytes := ((cache.entries.toList.filter fun entry =>
    entry.2.windowRef == windowRef).map fun entry => entry.2.bytes.length).sum
  let entries := cache.entries.retain fun _ image => image.windowRef != windowRef
  let views := cache.views.retain fun _ view => view.windowRef != windowRef
  { entries := entries
    order := cache.order.filter fun observationId => (entries.lookup observationId).isSome
    cachedBytes := cache.cachedBytes - removedBytes
    views := views
    viewOrder := cache.viewOrder.filter fun viewRef => (views.lookup viewRef).isSome }

def full (cache : ImageMappingCache) (byteLength : Nat) : Bool :=
  decide (maxCachedImageMappings ≤ cache.entries.size) ||
    decide (maxCachedImageBytes < cache.cachedBytes + byteLength)

def removeEntry (cache : ImageMappingCache) (observationId : ObservationId) : ImageMappingCache :=
  match cache.entries.lookup observationId with
  | none => cache
  | some removed =>
      { cache with
        entries := cache.entries.erase observationId
        cachedBytes := cache.cachedBytes - removed.bytes.length }

/-- The loop of `insert`, on the entries in their order; it stops when none is left. -/
def evict (byteLength : Nat) (cache : ImageMappingCache) :
    List ObservationId → ImageMappingCache
  | [] => { cache with order := [] }
  | stale :: order =>
      if cache.full byteLength then evict byteLength (cache.removeEntry stale) order
      else { cache with order := stale :: order }

def makeRoom (cache : ImageMappingCache) (windowRef : WindowRef) (byteLength : Nat) :
    ImageMappingCache :=
  let cache := cache.invalidateWindow windowRef
  evict byteLength cache cache.order

def insert (cache : ImageMappingCache) (observationId : ObservationId) (windowRef : WindowRef)
    (mapping : ScreenshotMapping) (bytes : List UInt8) : ImageMappingCache :=
  let cache := cache.makeRoom windowRef bytes.length
  { cache with
    order := cache.order ++ [observationId]
    cachedBytes := cache.cachedBytes + bytes.length
    entries := cache.entries.insert observationId ⟨windowRef, mapping, bytes⟩ }

def get (cache : ImageMappingCache) (observationId : ObservationId) (windowRef : WindowRef) :
    Option CachedImage :=
  (cache.entries.lookup observationId).filter fun image => image.windowRef == windowRef

/-- The loop of `insert_view`. -/
def evictViews (cache : ImageMappingCache) : List String → ImageMappingCache
  | [] => { cache with viewOrder := [] }
  | stale :: order =>
      if maxCachedRegionViews ≤ cache.views.size then
        evictViews { cache with views := cache.views.erase stale } order
      else { cache with viewOrder := stale :: order }

def insertView (cache : ImageMappingCache) (viewRef : String) (view : RegionView) :
    ImageMappingCache :=
  let cache := cache.evictViews cache.viewOrder
  { cache with
    viewOrder := cache.viewOrder ++ [viewRef]
    views := cache.views.insert viewRef view }

def getView (cache : ImageMappingCache) (viewRef : String) : Option RegionView :=
  cache.views.lookup viewRef

/-! ## What the operations leave -/

variable {cache : ImageMappingCache} {windowRef : WindowRef} {observationId : ObservationId}
  {viewRef : String}

@[simp] theorem lookup_invalidateWindow :
    (cache.invalidateWindow windowRef).entries.lookup observationId =
      (cache.entries.lookup observationId).filter fun image => image.windowRef != windowRef :=
  Table.lookup_retain ..

@[simp] theorem view_invalidateWindow :
    (cache.invalidateWindow windowRef).views.lookup viewRef =
      (cache.views.lookup viewRef).filter fun view => view.windowRef != windowRef :=
  Table.lookup_retain ..

@[simp] theorem views_removeEntry : (cache.removeEntry observationId).views = cache.views := by
  rw [removeEntry]
  split <;> rfl

variable {image : CachedImage}

theorem lookup_removeEntry {other : ObservationId}
    (himage : (cache.removeEntry observationId).entries.lookup other = some image) :
    cache.entries.lookup other = some image := by
  rw [removeEntry] at himage
  split at himage
  · exact himage
  · rw [Table.lookup_erase_eq] at himage
    split at himage
    · contradiction
    · exact himage

variable {byteLength : Nat}

theorem lookup_evict {order : List ObservationId}
    (himage : (evict byteLength cache order).entries.lookup observationId = some image) :
    cache.entries.lookup observationId = some image := by
  induction order generalizing cache with
  | nil => exact himage
  | cons stale order ih =>
      rw [evict] at himage
      split at himage
      · exact lookup_removeEntry (ih himage)
      · exact himage

@[simp] theorem views_evict {order : List ObservationId} :
    (evict byteLength cache order).views = cache.views := by
  induction order generalizing cache with
  | nil => rfl
  | cons stale order ih =>
      rw [evict]
      split
      · rw [ih, views_removeEntry]
      · rfl

@[simp] theorem views_makeRoom :
    (cache.makeRoom windowRef byteLength).views = (cache.invalidateWindow windowRef).views :=
  views_evict

theorem lookup_makeRoom
    (himage : (cache.makeRoom windowRef byteLength).entries.lookup observationId = some image) :
    cache.entries.lookup observationId = some image ∧ image.windowRef ≠ windowRef := by
  have hkept := lookup_evict himage
  rw [lookup_invalidateWindow, Option.filter_eq_some_iff] at hkept
  exact ⟨hkept.1, by simpa using hkept.2⟩

theorem lookup_insert {mapping : ScreenshotMapping} {bytes : List UInt8} {other : ObservationId}
    (himage : (cache.insert observationId windowRef mapping bytes).entries.lookup other =
      some image) :
    (other = observationId ∧ image = ⟨windowRef, mapping, bytes⟩) ∨
      (cache.entries.lookup other = some image ∧ image.windowRef ≠ windowRef) := by
  rw [insert, Table.lookup_insert_eq] at himage
  split at himage
  · exact .inl ⟨‹_›, (Option.some.inj himage).symm⟩
  · exact .inr (lookup_makeRoom himage)

@[simp] theorem views_insert {mapping : ScreenshotMapping} {bytes : List UInt8} :
    (cache.insert observationId windowRef mapping bytes).views =
      (cache.invalidateWindow windowRef).views :=
  views_makeRoom

@[simp] theorem entries_evictViews {order : List String} :
    (cache.evictViews order).entries = cache.entries := by
  induction order generalizing cache with
  | nil => rfl
  | cons stale order ih =>
      rw [evictViews]
      split
      · rw [ih]
      · rfl

theorem view_evictViews {order : List String} {view : RegionView}
    (hview : (cache.evictViews order).views.lookup viewRef = some view) :
    cache.views.lookup viewRef = some view := by
  induction order generalizing cache with
  | nil => exact hview
  | cons stale order ih =>
      rw [evictViews] at hview
      split at hview
      · have hkept := ih hview
        rw [Table.lookup_erase_eq] at hkept
        split at hkept
        · contradiction
        · exact hkept
      · exact hview

@[simp] theorem entries_insertView {view : RegionView} :
    (cache.insertView viewRef view).entries = cache.entries :=
  entries_evictViews

theorem view_insertView {other : String} {view found : RegionView}
    (hview : (cache.insertView viewRef view).views.lookup other = some found) :
    (other = viewRef ∧ found = view) ∨ cache.views.lookup other = some found := by
  rw [insertView, Table.lookup_insert_eq] at hview
  split at hview
  · exact .inl ⟨‹_›, (Option.some.inj hview).symm⟩
  · exact .inr (view_evictViews hview)

end ImageMappingCache

end NexusCua.Mcp
