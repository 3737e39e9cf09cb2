import NexusCua.Runtime.Image

/-!
# The zoom pipeline

The MCP adapter crops a region out of a stored screenshot.  The runtime stores
screenshots as RGB8, three bytes a pixel; the cropping function only accepts
RGBA8, four bytes a pixel, so no stored screenshot can be cropped.
-/

namespace NexusCua.Mcp

open NexusCua.Foundation NexusCua.Protocol NexusCua.Runtime

def maxDecodedImageBytes : Nat := 128 * 1024 * 1024

def normalizedCoordinateMax : Nat := 1000

structure PixelRect where
  x : Nat
  y : Nat
  width : Nat
  height : Nat
  deriving DecidableEq, Repr

inductive ImageError where
  | tooLarge (actual maximum : Nat)
  | decodedImageTooLarge
  | unexpectedFormat
  | decode
  | encode
  deriving DecidableEq, Repr

def normalizedRegion (left top right bottom : Nat) (size : PixelSize) : Option PixelRect :=
  if normalizedCoordinateMax < right ∨ normalizedCoordinateMax < bottom ∨ right ≤ left ∨
      bottom ≤ top ∨ size.width = 0 ∨ size.height = 0 then none
  else
    let first (value length : Nat) : Nat := value * length / 1000
    let last (value length : Nat) : Nat := min ((value * length + 999) / 1000) length
    let x := first left size.width
    let y := first top size.height
    let right := last right size.width
    let bottom := last bottom size.height
    if right < x ∨ bottom < y then none
    else
      let rect : PixelRect := ⟨x, y, right - x, bottom - y⟩
      if 0 < rect.width ∧ 0 < rect.height then some rect else none

/-- The rows of a rectangle, out of RGBA8 pixels with `width` pixels a row. -/
def cropRows (pixels : List UInt8) (width : Nat) (rect : PixelRect) :
    Except ImageError (List UInt8) :=
  (List.range rect.height).foldlM (fun cropped row =>
    let start := (rect.y + row) * (width * 4) + rect.x * 4
    let finish := start + rect.width * 4
    if pixels.length < finish then .error .unexpectedFormat
    else .ok (cropped ++ (pixels.drop start).take (rect.width * 4))) []

def cropPng (codec : PngCodec) (input : List UInt8) (expected : PixelSize) (rect : PixelRect)
    (maxEncodedBytes : Nat) : Except ImageError (List UInt8) :=
  let expectedDecoded := expected.width * expected.height * 4
  if maxDecodedImageBytes < expectedDecoded then .error .decodedImageTooLarge
  else
    match codec.decode input with
    | none => .error .decode
    | some image =>
        if image.outputBufferSize ≠ expectedDecoded then .error .unexpectedFormat
        else if image.width ≠ expected.width ∨ image.height ≠ expected.height ∨
            image.color ≠ .rgba ∨ image.depth ≠ .eight then .error .unexpectedFormat
        else
          match cropRows image.data expected.width rect with
          | .error error => .error error
          | .ok cropped =>
              if hcropped : cropped.length = frameBytes rect.width rect.height .rgba .eight then
                let output := codec.encode
                  ⟨rect.width, rect.height, .rgba, .eight, cropped, hcropped⟩
                -- the header of an empty image is refused
                if rect.width = 0 ∨ rect.height = 0 then .error .encode
                else if maxEncodedBytes < output.length then
                  .error (.tooLarge output.length maxEncodedBytes)
                else .ok output
              else .error .unexpectedFormat

/-! ## Stored screenshots cannot be cropped -/

def pixelColor (image : PngImage) (x y : Nat) : List UInt8 :=
  (image.data.drop ((y * image.width + x) * image.color.samples)).take 3

/-- The crop succeeds and its pixels are those of the rectangle in the stored image. -/
def CropAgrees (codec : PngCodec) (stored : PngImage) (size : PixelSize) (rect : PixelRect)
    (maxEncodedBytes : Nat) : Prop :=
  ∃ output cropped,
    cropPng codec (codec.encode stored) size rect maxEncodedBytes = .ok output ∧
      codec.decode output = some cropped ∧ cropped.width = rect.width ∧
      cropped.height = rect.height ∧
      ∀ x < rect.width, ∀ y < rect.height,
        pixelColor cropped x y = pixelColor stored (rect.x + x) (rect.y + y)

theorem outputBufferSize_rgbImage (image : RgbaImage) (size : PixelSize) :
    (rgbImage image size).outputBufferSize = size.height * (size.width * 3) :=
  frameBytes_eight size.width size.height .rgb

theorem rgb_ne_rgba_bytes {width height : Nat} (hw : 0 < width) (hh : 0 < height) :
    height * (width * 3) ≠ width * height * 4 := by
  have hpos : 0 < width * height := Nat.mul_pos hw hh
  have hcomm : height * (width * 3) = width * height * 3 := by
    rw [← Nat.mul_assoc, Nat.mul_comm height width]
  omega

theorem cropPng_rgbImage (codec : PngCodec) (image : RgbaImage) {size : PixelSize}
    (hw : 0 < size.width) (hh : 0 < size.height) (rect : PixelRect) (maxEncodedBytes : Nat)
    (hd : size.width * size.height * 4 ≤ maxDecodedImageBytes) :
    cropPng codec (codec.encode (rgbImage image size)) size rect maxEncodedBytes =
      .error .unexpectedFormat := by
  have hsize : (rgbImage image size).outputBufferSize ≠ size.width * size.height * 4 := by
    rw [outputBufferSize_rgbImage]
    exact rgb_ne_rgba_bytes hw hh
  simp only [cropPng, codec.decode_encode]
  rw [if_neg (by omega), if_pos hsize]

/--
For every image that `write_image` accepts, every rectangle of it and every bound
on the encoded crop, cropping the stored bytes fails as soon as their decoded
size is within the decoding bound.
-/
theorem not_cropAgrees_stored (codec : PngCodec) (limits : ImageLimits) (image : RgbaImage)
    (size : PixelSize) (bytes : List UInt8) (rect : PixelRect) (maxEncodedBytes : Nat)
    (hstored : encodeImage codec limits image = .ok (size, bytes))
    (hdecoded : size.width * size.height * 4 ≤ maxDecodedImageBytes) :
    cropPng codec bytes size rect maxEncodedBytes = .error .unexpectedFormat ∧
      ¬ CropAgrees codec (rgbImage image size) size rect maxEncodedBytes := by
  obtain ⟨hw, hh⟩ := (decode_encodeImage hstored).2
  have hbytes : bytes = codec.encode (rgbImage image size) := by
    simp only [encodeImage] at hstored
    split at hstored
    · contradiction
    · cases hstored
      rfl
  have hcrop := cropPng_rgbImage codec image hw hh rect maxEncodedBytes hdecoded
  refine ⟨hbytes ▸ hcrop, ?_⟩
  rintro ⟨output, cropped, hok, -⟩
  rw [hcrop] at hok
  contradiction

def smallScreenshot : RgbaImage := ⟨2, 1, [10, 20, 30, 255, 40, 50, 60, 255]⟩

def smallLimits : ImageLimits := ⟨16, 1568⟩

theorem cropPng_smallScreenshot :
    validateImage smallLimits smallScreenshot = .ok () ∧
      encodeImage .plain smallLimits smallScreenshot =
        .ok (⟨2, 1⟩, PngCodec.plain.encode (rgbImage smallScreenshot ⟨2, 1⟩)) ∧
      normalizedRegion 0 0 500 1000 ⟨2, 1⟩ = some ⟨0, 0, 1, 1⟩ ∧
      cropPng .plain (PngCodec.plain.encode (rgbImage smallScreenshot ⟨2, 1⟩)) ⟨2, 1⟩
        ⟨0, 0, 1, 1⟩ 65536 = .error .unexpectedFormat := by
  decide

theorem not_cropAgrees_smallScreenshot :
    encodeImage .plain smallLimits smallScreenshot =
        .ok (⟨2, 1⟩, PngCodec.plain.encode (rgbImage smallScreenshot ⟨2, 1⟩)) ∧
      ¬ CropAgrees .plain (rgbImage smallScreenshot ⟨2, 1⟩) ⟨2, 1⟩ ⟨0, 0, 1, 1⟩ 65536 :=
  ⟨rfl, (not_cropAgrees_stored .plain smallLimits smallScreenshot ⟨2, 1⟩ _ ⟨0, 0, 1, 1⟩ 65536
    rfl (by decide)).2⟩

/-! ## Clicks -/

def Adapter.normalizedAxis (value length : Nat) : Nat :=
  let mapped := (value * (length - 1) + 500) / 1000
  if mapped < 2 ^ 32 then mapped else 2 ^ 32 - 1

def Adapter.normalizedViewPoint (x y : Nat) (rect : PixelRect) : ScreenshotPoint :=
  ⟨min (rect.x + Adapter.normalizedAxis x rect.width) (2 ^ 32 - 1),
    min (rect.y + Adapter.normalizedAxis y rect.height) (2 ^ 32 - 1)⟩

end NexusCua.Mcp
