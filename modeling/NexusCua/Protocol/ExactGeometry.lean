import NexusCua.Protocol.Geometry

/-!
# Coordinate spaces over the rationals

The conversions of `Geometry` with exact rationals in place of `f64`.  They say which
pixel and which screen point are meant; rounding is left only where the source rounds
to a pixel.
-/

namespace NexusCua.Protocol.Exact

structure ScreenPoint where
  x : ℚ
  y : ℚ
  deriving DecidableEq

structure ScreenRect where
  x : ℚ
  y : ℚ
  width : ℚ
  height : ℚ
  deriving DecidableEq

structure NormalizedPoint where
  x : ℚ
  y : ℚ
  deriving DecidableEq

structure ScreenshotMapping where
  screenBounds : ScreenRect
  pixelSize : PixelSize
  deriving DecidableEq

def ScreenRect.contains (rect : ScreenRect) (point : ScreenPoint) : Prop :=
  rect.x ≤ point.x ∧ rect.y ≤ point.y ∧ point.x ≤ rect.x + rect.width ∧
    point.y ≤ rect.y + rect.height

/-- `value.round() as u32` for a value that is not negative. -/
def roundToPixel (value : ℚ) : Nat := ⌊value + 1 / 2⌋₊

namespace NormalizedPoint

def pixelAxis (value : ℚ) (length : Nat) : Nat :=
  roundToPixel (value * ((length - 1 : Nat) : ℚ) / 1000)

def toPixel (point : NormalizedPoint) (size : PixelSize) : Option ScreenshotPoint :=
  if 0 ≤ point.x ∧ point.x ≤ 1000 ∧ 0 ≤ point.y ∧ point.y ≤ 1000 ∧ size.width ≠ 0 ∧
      size.height ≠ 0 then
    some ⟨pixelAxis point.x size.width, pixelAxis point.y size.height⟩
  else none

def unitAxis (value length : Nat) : ℚ := (value : ℚ) * 1000 / ((max (length - 1) 1 : Nat) : ℚ)

def fromPixel (point : ScreenshotPoint) (size : PixelSize) : Option NormalizedPoint :=
  if size.contains point then some ⟨unitAxis point.x size.width, unitAxis point.y size.height⟩
  else none

end NormalizedPoint

def screenAxis (start length : ℚ) (value pixels : Nat) : ℚ :=
  start + (value : ℚ) * length / (pixels : ℚ)

def ScreenshotMapping.toScreen (mapping : ScreenshotMapping) (point : ScreenshotPoint) :
    Option ScreenPoint :=
  let bounds := mapping.screenBounds
  if mapping.pixelSize.contains point ∧ 0 < bounds.width ∧ 0 < bounds.height then
    some ⟨screenAxis bounds.x bounds.width point.x mapping.pixelSize.width,
      screenAxis bounds.y bounds.height point.y mapping.pixelSize.height⟩
  else none

/-! ## Pixels are kept -/

theorem roundToPixel_natCast (n : Nat) : roundToPixel n = n := by
  rw [roundToPixel, Nat.floor_eq_iff (by positivity)]
  constructor <;> linarith

namespace NormalizedPoint

theorem unitAxis_nonneg (value length : Nat) : 0 ≤ unitAxis value length := by
  rw [unitAxis]
  positivity

theorem unitAxis_le {value length : Nat} (h : value < length) : unitAxis value length ≤ 1000 := by
  have hvalue : (value : ℚ) ≤ ((max (length - 1) 1 : Nat) : ℚ) := by
    exact_mod_cast (by omega : value ≤ max (length - 1) 1)
  have hpos : (0 : ℚ) < ((max (length - 1) 1 : Nat) : ℚ) := by
    exact_mod_cast (by omega : 0 < max (length - 1) 1)
  rw [unitAxis, div_le_iff₀ hpos]
  linarith

theorem pixelAxis_unitAxis {value length : Nat} (h : value < length) :
    pixelAxis (unitAxis value length) length = value := by
  by_cases hone : length = 1
  · -- a single pixel: the axis is the point zero
    subst hone
    obtain rfl : value = 0 := by omega
    simpa [pixelAxis, unitAxis] using roundToPixel_natCast 0
  · have hmax : max (length - 1) 1 = length - 1 := by omega
    have hne : ((length - 1 : Nat) : ℚ) ≠ 0 := by
      exact_mod_cast (by omega : length - 1 ≠ 0)
    have hexact : unitAxis value length * ((length - 1 : Nat) : ℚ) / 1000 = value := by
      rw [unitAxis, hmax]
      field_simp
    rw [pixelAxis, hexact, roundToPixel_natCast]

theorem toPixel_fromPixel {point : ScreenshotPoint} {size : PixelSize}
    (h : size.contains point = true) :
    ∃ normalized, fromPixel point size = some normalized ∧
      toPixel normalized size = some point := by
  refine ⟨⟨unitAxis point.x size.width, unitAxis point.y size.height⟩, if_pos h, ?_⟩
  simp only [PixelSize.contains, Bool.and_eq_true, decide_eq_true_eq] at h
  rw [toPixel, if_pos ⟨unitAxis_nonneg _ _, unitAxis_le h.1, unitAxis_nonneg _ _,
    unitAxis_le h.2, by omega, by omega⟩, pixelAxis_unitAxis h.1, pixelAxis_unitAxis h.2]

end NormalizedPoint

theorem screenAxis_mem (start : ℚ) {length : ℚ} {value pixels : Nat} (hlength : 0 < length)
    (h : value < pixels) :
    start ≤ screenAxis start length value pixels ∧
      screenAxis start length value pixels ≤ start + length := by
  have hpos : (0 : ℚ) < pixels := by exact_mod_cast Nat.zero_lt_of_lt h
  have hvalue : (value : ℚ) ≤ pixels := by exact_mod_cast h.le
  have hscaled : (value : ℚ) * length / pixels ≤ length := by
    rw [div_le_iff₀ hpos, mul_comm length]
    exact mul_le_mul_of_nonneg_right hvalue hlength.le
  have hnonneg : 0 ≤ (value : ℚ) * length / pixels := by positivity
  constructor
  · rw [screenAxis]
    linarith
  · rw [screenAxis]
    linarith

theorem toScreen_contains {bounds : ScreenRect} {size : PixelSize} {point : ScreenshotPoint}
    (h : size.contains point = true) (hwidth : 0 < bounds.width) (hheight : 0 < bounds.height) :
    ∃ shown, (ScreenshotMapping.mk bounds size).toScreen point = some shown ∧
      bounds.contains shown := by
  refine ⟨_, if_pos ⟨h, hwidth, hheight⟩, ?_⟩
  simp only [PixelSize.contains, Bool.and_eq_true, decide_eq_true_eq] at h
  obtain ⟨hx, hx'⟩ := screenAxis_mem bounds.x hwidth h.1
  obtain ⟨hy, hy'⟩ := screenAxis_mem bounds.y hheight h.2
  exact ⟨hx, hy, hx', hy'⟩

end NexusCua.Protocol.Exact
