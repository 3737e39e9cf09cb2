import NexusCua.Foundation.Png
import NexusCua.Protocol.Geometry
import NexusCua.Runtime.Error

/-!
# Screenshot encoding

The checks, the scaling and the PNG encoding that `ArtifactStore::write_image`
applies to a raw driver image.
-/

namespace NexusCua.Runtime

open NexusCua.Foundation NexusCua.Protocol

structure RgbaImage where
  width : Nat
  height : Nat
  pixels : List UInt8
  deriving DecidableEq, Repr

structure ImageLimits where
  maxImagePixels : Nat
  maxImageEdge : Nat
  deriving DecidableEq, Repr

def invalidImage (message : String) : CuaError :=
  publicError .driverFailure message false none

/-- The first byte of the source pixel that output pixel `(x, y)` is sampled from. -/
def sourceOffset (image : RgbaImage) (size : PixelSize) (x y : Nat) : Nat :=
  (y * image.height / size.height * image.width + x * image.width / size.width) * 4

def blendChannel (channel alpha : UInt8) : UInt8 :=
  UInt8.ofNat ((channel.toNat * alpha.toNat + 255 * (255 - alpha.toNat) + 127) / 255)

def rgbPixels (image : RgbaImage) (size : PixelSize) : List UInt8 :=
  (List.range size.height).flatMap fun y =>
    (List.range size.width).flatMap fun x =>
      let offset := sourceOffset image size x y
      let alpha := image.pixels.getD (offset + 3) 0
      [0, 1, 2].map fun i => blendChannel (image.pixels.getD (offset + i) 0) alpha

theorem length_rgbPixels (image : RgbaImage) (size : PixelSize) :
    (rgbPixels image size).length = frameBytes size.width size.height .rgb .eight := by
  rw [frameBytes_eight]
  simp [rgbPixels, List.length_flatMap, ColorType.samples]

/-- The checks `write_image` makes before it touches the file system. -/
def validateImage (limits : ImageLimits) (image : RgbaImage) : Except CuaError Unit :=
  let pixelCount := image.width * image.height
  if 2 ^ 64 ≤ pixelCount then .error (invalidImage "image dimensions overflow")
  else if image.width = 0 ∨ image.height = 0 ∨ limits.maxImagePixels < pixelCount then
    .error (invalidImage "image dimensions are outside the supported range")
  else if 2 ^ 64 ≤ pixelCount * 4 then
    .error (invalidImage "image buffer length overflows this platform")
  else if image.pixels.length ≠ pixelCount * 4 then
    .error (invalidImage "image buffer length does not match RGBA dimensions")
  else .ok ()

def rgbImage (image : RgbaImage) (size : PixelSize) : PngImage where
  width := size.width
  height := size.height
  color := .rgb
  depth := .eight
  data := rgbPixels image size
  length_data := length_rgbPixels image size

def encodeImage (codec : PngCodec) (limits : ImageLimits) (image : RgbaImage) :
    Except CuaError (PixelSize × List UInt8) :=
  match PixelSize.fitLongEdge ⟨image.width, image.height⟩ limits.maxImageEdge with
  | none => .error (invalidImage "invalid image budget")
  | some size => .ok (size, codec.encode (rgbImage image size))

theorem fitLongEdge_pos {size fitted : PixelSize} {edge : Nat}
    (h : size.fitLongEdge edge = some fitted) : 0 < fitted.width ∧ 0 < fitted.height := by
  simp only [PixelSize.fitLongEdge] at h
  split at h
  · contradiction
  · split at h
    · cases h
      omega
    · cases h
      constructor <;> exact Nat.lt_of_lt_of_le Nat.zero_lt_one (Nat.le_max_right _ _)

theorem decode_encodeImage {codec : PngCodec} {limits : ImageLimits} {image : RgbaImage}
    {size : PixelSize} {bytes : List UInt8}
    (h : encodeImage codec limits image = .ok (size, bytes)) :
    codec.decode bytes = some (rgbImage image size) ∧ 0 < size.width ∧ 0 < size.height := by
  simp only [encodeImage] at h
  split at h
  · contradiction
  · rename_i fitted hfit
    cases h
    exact ⟨codec.decode_encode _, fitLongEdge_pos hfit⟩

end NexusCua.Runtime
