import Mathlib

/-!
# Images and a lossless codec

An image with its colour type and bit depth, whose data has exactly the length
these demand, and codecs that give back what they were given.
-/

namespace NexusCua.Foundation

inductive ColorType where
  | grayscale
  | rgb
  | indexed
  | grayscaleAlpha
  | rgba
  deriving DecidableEq, Repr

inductive BitDepth where
  | one
  | two
  | four
  | eight
  | sixteen
  deriving DecidableEq, Repr

def ColorType.samples : ColorType → Nat
  | .grayscale => 1
  | .rgb => 3
  | .indexed => 1
  | .grayscaleAlpha => 2
  | .rgba => 4

def BitDepth.bits : BitDepth → Nat
  | .one => 1
  | .two => 2
  | .four => 4
  | .eight => 8
  | .sixteen => 16

/-- The bytes of `height` rows, each padded to whole bytes. -/
def frameBytes (width height : Nat) (color : ColorType) (depth : BitDepth) : Nat :=
  height * ((width * color.samples * depth.bits + 7) / 8)

theorem frameBytes_eight (width height : Nat) (color : ColorType) :
    frameBytes width height color .eight = height * (width * color.samples) := by
  have hrow : (width * color.samples * 8 + 7) / 8 = width * color.samples := by omega
  rw [frameBytes, BitDepth.bits, hrow]

structure PngImage where
  width : Nat
  height : Nat
  color : ColorType
  depth : BitDepth
  data : List UInt8
  length_data : data.length = frameBytes width height color depth
  deriving DecidableEq, Repr

namespace PngImage

def outputBufferSize (image : PngImage) : Nat :=
  frameBytes image.width image.height image.color image.depth

end PngImage

structure PngCodec where
  encode : PngImage → List UInt8
  decode : List UInt8 → Option PngImage
  decode_encode : ∀ image, decode (encode image) = some image

/-! ## A plain codec -/

namespace PngCodec

def encodeNat (n : Nat) : List UInt8 := List.replicate n 1 ++ [0]

def decodeNat : List UInt8 → Option (Nat × List UInt8)
  | [] => none
  | byte :: rest =>
      if byte = 0 then some (0, rest)
      else (decodeNat rest).map fun found => (found.1 + 1, found.2)

theorem decodeNat_encodeNat (n : Nat) (rest : List UInt8) :
    decodeNat (encodeNat n ++ rest) = some (n, rest) := by
  induction n with
  | zero => rfl
  | succ n ih =>
      have hcons : encodeNat (n + 1) ++ rest = 1 :: (encodeNat n ++ rest) := rfl
      rw [hcons, decodeNat, ih]
      rfl

def colorCode : ColorType → Nat
  | .grayscale => 0
  | .rgb => 2
  | .indexed => 3
  | .grayscaleAlpha => 4
  | .rgba => 6

def colorOfCode : Nat → Option ColorType
  | 0 => some .grayscale
  | 2 => some .rgb
  | 3 => some .indexed
  | 4 => some .grayscaleAlpha
  | 6 => some .rgba
  | _ => none

def depthOfBits : Nat → Option BitDepth
  | 1 => some .one
  | 2 => some .two
  | 4 => some .four
  | 8 => some .eight
  | 16 => some .sixteen
  | _ => none

theorem colorOfCode_colorCode (color : ColorType) :
    colorOfCode (colorCode color) = some color := by
  cases color <;> rfl

theorem depthOfBits_bits (depth : BitDepth) : depthOfBits depth.bits = some depth := by
  cases depth <;> rfl

def plainEncode (image : PngImage) : List UInt8 :=
  encodeNat image.width ++ (encodeNat image.height ++ (encodeNat (colorCode image.color) ++
    (encodeNat image.depth.bits ++ image.data)))

def plainDecode (bytes : List UInt8) : Option PngImage := do
  let (width, rest) ← decodeNat bytes
  let (height, rest) ← decodeNat rest
  let (code, rest) ← decodeNat rest
  let (bits, data) ← decodeNat rest
  let color ← colorOfCode code
  let depth ← depthOfBits bits
  if h : data.length = frameBytes width height color depth then
    some ⟨width, height, color, depth, data, h⟩
  else none

def plain : PngCodec where
  encode := plainEncode
  decode := plainDecode
  decode_encode image := by
    simp [plainEncode, plainDecode, decodeNat_encodeNat, colorOfCode_colorCode,
      depthOfBits_bits, image.length_data]

end PngCodec

end NexusCua.Foundation
