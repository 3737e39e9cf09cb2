import NexusCua.Mcp.Zoom
import NexusCua.Protocol.ExactGeometry

/-!
# Clicks in a zoomed view

A region is cut out with its edges rounded outwards.  A click in the view is rounded
to a pixel of the region, and that pixel survives the way through the normalized
coordinates of the whole image.
-/

namespace NexusCua.Mcp

open NexusCua.Protocol Adapter

/-! ## The region -/

theorem regionAxis {first last length : Nat} (hlength : 0 < length) (hlt : first < last)
    (hle : last ≤ 1000) :
    first * length / 1000 < min ((last * length + 999) / 1000) length ∧
      first * length / 1000 * 1000 ≤ first * length ∧
      last * length ≤ min ((last * length + 999) / 1000) length * 1000 := by
  have hgap : first * length + length ≤ last * length := by
    calc first * length + length = (first + 1) * length := by rw [Nat.succ_mul]
      _ ≤ last * length := Nat.mul_le_mul_right length hlt
  have hall : last * length ≤ 1000 * length := Nat.mul_le_mul_right length hle
  omega

def regionRect (left top right bottom : Nat) (size : PixelSize) : PixelRect where
  x := left * size.width / 1000
  y := top * size.height / 1000
  width := min ((right * size.width + 999) / 1000) size.width - left * size.width / 1000
  height := min ((bottom * size.height + 999) / 1000) size.height - top * size.height / 1000

def ValidRegion (left top right bottom : Nat) : Prop :=
  left < right ∧ right ≤ normalizedCoordinateMax ∧ top < bottom ∧
    bottom ≤ normalizedCoordinateMax

section Region

variable {left top right bottom : Nat} {size : PixelSize}

theorem normalizedRegion_of_valid (hwidth : 0 < size.width) (hheight : 0 < size.height)
    (h : ValidRegion left top right bottom) :
    normalizedRegion left top right bottom size = some (regionRect left top right bottom size) := by
  obtain ⟨hx, hright, hy, hbottom⟩ := h
  obtain ⟨hxlt, -, -⟩ := regionAxis hwidth hx hright
  obtain ⟨hylt, -, -⟩ := regionAxis hheight hy hbottom
  simp only [normalizedCoordinateMax] at hright hbottom
  simp only [normalizedRegion, normalizedCoordinateMax]
  rw [if_neg (by omega), if_neg (by omega), if_pos ⟨by omega, by omega⟩]
  rfl

theorem normalizedRegion_eq_none (h : ¬ ValidRegion left top right bottom) :
    normalizedRegion left top right bottom size = none := by
  simp only [ValidRegion, normalizedCoordinateMax] at h
  rw [normalizedRegion, normalizedCoordinateMax, if_pos (by omega)]

structure Covers (left top right bottom : Nat) (size : PixelSize) (rect : PixelRect) : Prop where
  width_pos : 0 < rect.width
  height_pos : 0 < rect.height
  right_le : rect.x + rect.width ≤ size.width
  bottom_le : rect.y + rect.height ≤ size.height
  left_covered : rect.x * 1000 ≤ left * size.width
  top_covered : rect.y * 1000 ≤ top * size.height
  right_covered : right * size.width ≤ (rect.x + rect.width) * 1000
  bottom_covered : bottom * size.height ≤ (rect.y + rect.height) * 1000

theorem covers_regionRect (hwidth : 0 < size.width) (hheight : 0 < size.height)
    (h : ValidRegion left top right bottom) :
    Covers left top right bottom size (regionRect left top right bottom size) := by
  obtain ⟨hx, hright, hy, hbottom⟩ := h
  obtain ⟨hxlt, hxle, hxcovered⟩ := regionAxis hwidth hx hright
  obtain ⟨hylt, hyle, hycovered⟩ := regionAxis hheight hy hbottom
  exact
    { width_pos := Nat.sub_pos_of_lt hxlt
      height_pos := Nat.sub_pos_of_lt hylt
      right_le := by
        rw [regionRect, Nat.add_sub_cancel' hxlt.le]
        exact Nat.min_le_right _ _
      bottom_le := by
        rw [regionRect, Nat.add_sub_cancel' hylt.le]
        exact Nat.min_le_right _ _
      left_covered := hxle
      top_covered := hyle
      right_covered := by
        rw [regionRect, Nat.add_sub_cancel' hxlt.le]
        exact hxcovered
      bottom_covered := by
        rw [regionRect, Nat.add_sub_cancel' hylt.le]
        exact hycovered }

end Region

/-! ## The points of the view -/

theorem normalizedAxis_eq {value length : Nat} (hvalue : value ≤ 1000) (hlength : length < 2 ^ 32) :
    normalizedAxis value length = (value * (length - 1) + 500) / 1000 := by
  have hle : value * (length - 1) ≤ 1000 * (length - 1) := Nat.mul_le_mul_right _ hvalue
  rw [normalizedAxis, if_pos (by omega)]

theorem normalizedAxis_lt {value length : Nat} (hvalue : value ≤ 1000) (hpos : 0 < length)
    (hlength : length < 2 ^ 32) : normalizedAxis value length < length := by
  have hle : value * (length - 1) ≤ 1000 * (length - 1) := Nat.mul_le_mul_right _ hvalue
  rw [normalizedAxis_eq hvalue hlength]
  omega

theorem normalizedAxis_mono {value value' length : Nat} (h : value ≤ value') (h' : value' ≤ 1000)
    (hlength : length < 2 ^ 32) : normalizedAxis value length ≤ normalizedAxis value' length := by
  have hle : value * (length - 1) ≤ value' * (length - 1) := Nat.mul_le_mul_right _ h
  rw [normalizedAxis_eq (h.trans h') hlength, normalizedAxis_eq h' hlength]
  omega

theorem normalizedAxis_zero (length : Nat) : normalizedAxis 0 length = 0 := by
  simp [normalizedAxis]

theorem normalizedAxis_last {length : Nat} (hlength : length < 2 ^ 32) :
    normalizedAxis 1000 length = length - 1 := by
  rw [normalizedAxis_eq le_rfl hlength]
  omega

section View

variable {rect : PixelRect} {size : PixelSize} {x y : Nat}

theorem normalizedViewPoint_eq (hright : rect.x + rect.width ≤ size.width)
    (hbottom : rect.y + rect.height ≤ size.height) (hwidth : 0 < rect.width)
    (hheight : 0 < rect.height) (hsize : size.width < 2 ^ 32 ∧ size.height < 2 ^ 32)
    (hx : x ≤ 1000) (hy : y ≤ 1000) :
    normalizedViewPoint x y rect =
      ⟨rect.x + normalizedAxis x rect.width, rect.y + normalizedAxis y rect.height⟩ := by
  have hcolumn := normalizedAxis_lt hx hwidth (by omega : rect.width < 2 ^ 32)
  have hrow := normalizedAxis_lt hy hheight (by omega : rect.height < 2 ^ 32)
  rw [normalizedViewPoint, Nat.min_eq_left (by omega), Nat.min_eq_left (by omega)]

end View

structure LandsInside (rect : PixelRect) (size : PixelSize) : Prop where
  inside : ∀ x ≤ 1000, ∀ y ≤ 1000,
    rect.x ≤ (normalizedViewPoint x y rect).x ∧
      (normalizedViewPoint x y rect).x < rect.x + rect.width ∧
      rect.y ≤ (normalizedViewPoint x y rect).y ∧
      (normalizedViewPoint x y rect).y < rect.y + rect.height
  monotone : ∀ x x' y y', x ≤ x' → x' ≤ 1000 → y ≤ y' → y' ≤ 1000 →
    (normalizedViewPoint x y rect).x ≤ (normalizedViewPoint x' y' rect).x ∧
      (normalizedViewPoint x y rect).y ≤ (normalizedViewPoint x' y' rect).y
  first : ∀ value ≤ 1000, (normalizedViewPoint 0 value rect).x = rect.x ∧
    (normalizedViewPoint value 0 rect).y = rect.y
  last : ∀ value ≤ 1000, (normalizedViewPoint 1000 value rect).x = rect.x + rect.width - 1 ∧
    (normalizedViewPoint value 1000 rect).y = rect.y + rect.height - 1
  roundTrip : ∀ x ≤ 1000, ∀ y ≤ 1000, ∃ normalized,
    Exact.NormalizedPoint.fromPixel (normalizedViewPoint x y rect) size = some normalized ∧
      normalized.toPixel size = some (normalizedViewPoint x y rect)
  onScreen : ∀ x ≤ 1000, ∀ y ≤ 1000, ∀ bounds : Exact.ScreenRect, 0 < bounds.width →
    0 < bounds.height → ∃ shown,
      (Exact.ScreenshotMapping.mk bounds size).toScreen (normalizedViewPoint x y rect) =
          some shown ∧ bounds.contains shown

theorem landsInside {rect : PixelRect} {size : PixelSize}
    (hright : rect.x + rect.width ≤ size.width) (hbottom : rect.y + rect.height ≤ size.height)
    (hwidth : 0 < rect.width) (hheight : 0 < rect.height)
    (hsize : size.width < 2 ^ 32 ∧ size.height < 2 ^ 32) : LandsInside rect size := by
  have hcolumns : rect.width < 2 ^ 32 := by omega
  have hrows : rect.height < 2 ^ 32 := by omega
  have heq : ∀ x ≤ 1000, ∀ y ≤ 1000, normalizedViewPoint x y rect =
      ⟨rect.x + normalizedAxis x rect.width, rect.y + normalizedAxis y rect.height⟩ :=
    fun x hx y hy => normalizedViewPoint_eq hright hbottom hwidth hheight hsize hx hy
  have hcontains : ∀ x ≤ 1000, ∀ y ≤ 1000,
      size.contains (normalizedViewPoint x y rect) = true := by
    intro x hx y hy
    have hcolumn := normalizedAxis_lt hx hwidth hcolumns
    have hrow := normalizedAxis_lt hy hheight hrows
    simp only [heq x hx y hy, PixelSize.contains, Bool.and_eq_true, decide_eq_true_eq]
    omega
  constructor
  case inside =>
    intro x hx y hy
    have hcolumn := normalizedAxis_lt hx hwidth hcolumns
    have hrow := normalizedAxis_lt hy hheight hrows
    rw [heq x hx y hy]
    dsimp only
    omega
  case monotone =>
    intro x x' y y' hx hx' hy hy'
    have hcolumn := normalizedAxis_mono hx hx' hcolumns
    have hrow := normalizedAxis_mono hy hy' hrows
    rw [heq x (hx.trans hx') y (hy.trans hy'), heq x' hx' y' hy']
    dsimp only
    omega
  case first =>
    intro value hvalue
    rw [heq 0 (Nat.zero_le _) value hvalue, heq value hvalue 0 (Nat.zero_le _),
      normalizedAxis_zero, normalizedAxis_zero]
    exact ⟨rfl, rfl⟩
  case last =>
    intro value hvalue
    rw [heq 1000 le_rfl value hvalue, heq value hvalue 1000 le_rfl, normalizedAxis_last hcolumns,
      normalizedAxis_last hrows, Nat.add_sub_assoc hwidth, Nat.add_sub_assoc hheight]
    exact ⟨rfl, rfl⟩
  case roundTrip =>
    intro x hx y hy
    exact Exact.NormalizedPoint.toPixel_fromPixel (hcontains x hx y hy)
  case onScreen =>
    intro x hx y hy bounds hboundsWidth hboundsHeight
    exact Exact.toScreen_contains (hcontains x hx y hy) hboundsWidth hboundsHeight

/-- For every image that is not empty, the regions that are cut out are those with
their edges in order, and a click in the view of one lands on the pixel that is seen. -/
theorem zoomed_click_lands (size : PixelSize) (left top right bottom : Nat)
    (hwidth : 0 < size.width) (hheight : 0 < size.height)
    (hsize : size.width < 2 ^ 32 ∧ size.height < 2 ^ 32) :
    ((normalizedRegion left top right bottom size).isSome = true ↔
        ValidRegion left top right bottom) ∧
      ∀ rect, normalizedRegion left top right bottom size = some rect →
        Covers left top right bottom size rect ∧ LandsInside rect size := by
  by_cases hvalid : ValidRegion left top right bottom
  · have hcovers := covers_regionRect hwidth hheight hvalid
    rw [normalizedRegion_of_valid hwidth hheight hvalid]
    refine ⟨by simp [hvalid], ?_⟩
    rintro rect ⟨⟩
    exact ⟨hcovers, landsInside hcovers.right_le hcovers.bottom_le hcovers.width_pos
      hcovers.height_pos hsize⟩
  · rw [normalizedRegion_eq_none hvalid]
    exact ⟨by simp [hvalid], fun rect h => by cases h⟩

theorem zoomed_click_lands_quarter :
    normalizedRegion 0 0 500 500 ⟨7, 5⟩ = some ⟨0, 0, 4, 3⟩ ∧
      LandsInside ⟨0, 0, 4, 3⟩ ⟨7, 5⟩ := by
  have hlands := zoomed_click_lands ⟨7, 5⟩ 0 0 500 500 (by decide) (by decide) (by decide)
  exact ⟨by decide, (hlands.2 ⟨0, 0, 4, 3⟩ (by decide)).2⟩

end NexusCua.Mcp
