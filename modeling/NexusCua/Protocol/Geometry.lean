import Mathlib

/-!
# Coordinate spaces

Logical screen coordinates, screenshot pixels and normalized points.  The
`f64` of the source is Lean's `Float`, whose logical model is IEEE binary64;
pixel coordinates and image sides are natural numbers.
-/

namespace NexusCua.Protocol

structure ScreenPoint where
  x : Float
  y : Float
  deriving DecidableEq, Repr

structure ScreenRect where
  x : Float
  y : Float
  width : Float
  height : Float
  deriving DecidableEq, Repr

structure ScreenshotPoint where
  x : Nat
  y : Nat
  deriving DecidableEq, Repr

structure NormalizedPoint where
  x : Float
  y : Float
  deriving DecidableEq, Repr

structure PixelSize where
  width : Nat
  height : Nat
  deriving DecidableEq, Repr

structure ScreenshotMapping where
  screenBounds : ScreenRect
  pixelSize : PixelSize
  deriving DecidableEq, Repr

/-! ## Pixel sizes -/

namespace PixelSize

def fitLongEdge (size : PixelSize) (edge : Nat) : Option PixelSize :=
  if size.width = 0 ∨ size.height = 0 ∨ edge = 0 then none
  else
    let longest := max size.width size.height
    if longest ≤ edge then some size
    else
      let scale (value : Nat) : Nat := (value * edge + longest - 1) / longest
      some ⟨max (scale size.width) 1, max (scale size.height) 1⟩

def contains (size : PixelSize) (point : ScreenshotPoint) : Bool :=
  point.x < size.width && point.y < size.height

end PixelSize

/-! ## Normalized points -/

/-- `value.round() as u32` for a value between zero and `u32::MAX`. -/
def roundToU32 (value : Float) : Nat :=
  let truncated := value.toUInt32
  if 0.5 ≤ value - truncated.toFloat then truncated.toNat + 1 else truncated.toNat

def unitRange (value : Float) : Bool :=
  decide (0.0 ≤ value) && decide (value ≤ 1000.0)

namespace NormalizedPoint

def toPixel (point : NormalizedPoint) (size : PixelSize) : Option ScreenshotPoint :=
  if !point.x.isFinite || !point.y.isFinite || !unitRange point.x || !unitRange point.y ||
      size.width == 0 || size.height == 0 then none
  else
    let axis (value : Float) (length : Nat) : Nat :=
      roundToU32 (value * Float.ofNat (length - 1) / 1000.0)
    some ⟨axis point.x size.width, axis point.y size.height⟩

def fromPixel (point : ScreenshotPoint) (size : PixelSize) : Option NormalizedPoint :=
  if !size.contains point then none
  else
    let axis (value length : Nat) : Float :=
      Float.ofNat value * 1000.0 / Float.ofNat (max (length - 1) 1)
    some ⟨axis point.x size.width, axis point.y size.height⟩

end NormalizedPoint

/-! ## Screenshot mappings -/

def ScreenshotMapping.toScreen (mapping : ScreenshotMapping) (point : ScreenshotPoint) :
    Option ScreenPoint :=
  let bounds := mapping.screenBounds
  if !mapping.pixelSize.contains point || decide (bounds.width ≤ 0.0) ||
      decide (bounds.height ≤ 0.0) then none
  else
    some
      ⟨bounds.x + Float.ofNat point.x * bounds.width / Float.ofNat mapping.pixelSize.width,
        bounds.y + Float.ofNat point.y * bounds.height / Float.ofNat mapping.pixelSize.height⟩

end NexusCua.Protocol
