import NexusCua.Runtime.Image

/-!
# Downscaling

The sides of a scaled image are the proportional ones rounded up, with the longer one
exactly at the budget.  Every output pixel is sampled from inside the buffer that
`write_image` has checked, and is blended over white with the nearest byte.
-/

namespace NexusCua.Protocol.PixelSize

def scaled (value edge longest : Nat) : Nat := (value * edge + longest - 1) / longest

section Scaled

variable {value edge longest : Nat}

theorem scaled_bounds (value edge : Nat) {longest : Nat} (hlongest : 0 < longest) :
    value * edge ≤ scaled value edge longest * longest ∧
      scaled value edge longest * longest < value * edge + longest := by
  have hdiv := Nat.div_add_mod (value * edge + longest - 1) longest
  have hmod := Nat.mod_lt (value * edge + longest - 1) hlongest
  rw [Nat.mul_comm] at hdiv
  rw [scaled]
  omega

theorem scaled_pos (hvalue : 0 < value) (hedge : 0 < edge) (hlongest : 0 < longest) :
    0 < scaled value edge longest := by
  have hbounds := (scaled_bounds value edge hlongest).1
  have hprod : 0 < value * edge := Nat.mul_pos hvalue hedge
  exact Nat.pos_of_mul_pos_right (Nat.lt_of_lt_of_le hprod hbounds)

theorem scaled_le (hlongest : 0 < longest) (hedge : edge ≤ longest) :
    scaled value edge longest ≤ value := by
  have hbounds := (scaled_bounds value edge hlongest).2
  have hle : value * edge ≤ value * longest := Nat.mul_le_mul_left value hedge
  have hlt : scaled value edge longest * longest < (value + 1) * longest := by
    rw [Nat.succ_mul]
    omega
  exact Nat.le_of_lt_succ (Nat.lt_of_mul_lt_mul_right hlt)

theorem scaled_mono {value' : Nat} (h : value ≤ value') :
    scaled value edge longest ≤ scaled value' edge longest := by
  have hle : value * edge ≤ value' * edge := Nat.mul_le_mul_right edge h
  exact Nat.div_le_div_right (by omega)

theorem scaled_self (hlongest : 0 < longest) : scaled longest edge longest = edge := by
  obtain ⟨hlower, hupper⟩ := scaled_bounds longest edge hlongest
  rw [Nat.mul_comm longest edge] at hlower hupper
  apply Nat.le_antisymm
  · have hlt : scaled longest edge longest * longest < (edge + 1) * longest := by
      rw [Nat.succ_mul]
      exact hupper
    exact Nat.le_of_lt_succ (Nat.lt_of_mul_lt_mul_right hlt)
  · exact Nat.le_of_mul_le_mul_right hlower hlongest

end Scaled

variable {size fitted : PixelSize} {edge : Nat}

theorem fitLongEdge_of_le (hwidth : 0 < size.width) (hheight : 0 < size.height) (hedge : 0 < edge)
    (h : max size.width size.height ≤ edge) : size.fitLongEdge edge = some size := by
  rw [fitLongEdge, if_neg (by omega)]
  exact if_pos h

theorem fitLongEdge_of_lt (hwidth : 0 < size.width) (hheight : 0 < size.height) (hedge : 0 < edge)
    (h : edge < max size.width size.height) :
    size.fitLongEdge edge = some ⟨scaled size.width edge (max size.width size.height),
      scaled size.height edge (max size.width size.height)⟩ := by
  have hlongest : 0 < max size.width size.height := Nat.lt_trans hedge h
  have hw : 1 ≤ scaled size.width edge (max size.width size.height) :=
    scaled_pos hwidth hedge hlongest
  have hh : 1 ≤ scaled size.height edge (max size.width size.height) :=
    scaled_pos hheight hedge hlongest
  rw [fitLongEdge, if_neg (by omega)]
  simp only [if_neg (Nat.not_le_of_lt h)]
  rw [scaled] at hw hh
  rw [Nat.max_eq_left hw, Nat.max_eq_left hh, scaled, scaled]

/-- A scaled side and the exact proportional value differ by less than one pixel; both
are multiplied by the longer original side. -/
structure Close (value longest edge side : Nat) : Prop where
  above : value * min longest edge ≤ side * longest
  below : side * longest < value * min longest edge + longest

structure Fits (size : PixelSize) (edge : Nat) (fitted : PixelSize) : Prop where
  width_pos : 1 ≤ fitted.width
  height_pos : 1 ≤ fitted.height
  width_le : fitted.width ≤ size.width
  height_le : fitted.height ≤ size.height
  longest : max fitted.width fitted.height = min (max size.width size.height) edge
  width_close : Close size.width (max size.width size.height) edge fitted.width
  height_close : Close size.height (max size.width size.height) edge fitted.height
  again : fitted.fitLongEdge edge = some fitted

theorem close_scaled {value longest : Nat} (hlongest : 0 < longest) (h : edge < longest) :
    Close value longest edge (scaled value edge longest) := by
  obtain ⟨hlower, hupper⟩ := scaled_bounds value edge hlongest
  constructor
  · rwa [Nat.min_eq_right (Nat.le_of_lt h)]
  · rwa [Nat.min_eq_right (Nat.le_of_lt h)]

theorem close_self {value longest : Nat} (hlongest : 0 < longest) (h : longest ≤ edge) :
    Close value longest edge value := by
  constructor
  · exact Nat.le_of_eq (by rw [Nat.min_eq_left h])
  · rw [Nat.min_eq_left h]
    exact Nat.lt_add_of_pos_right hlongest

theorem fits_of_le (hwidth : 0 < size.width) (hheight : 0 < size.height) (hedge : 0 < edge)
    (h : max size.width size.height ≤ edge) : size.Fits edge size where
  width_pos := hwidth
  height_pos := hheight
  width_le := Nat.le_refl _
  height_le := Nat.le_refl _
  longest := (Nat.min_eq_left h).symm
  width_close := close_self (by omega) h
  height_close := close_self (by omega) h
  again := fitLongEdge_of_le hwidth hheight hedge h

theorem fits_of_lt (hwidth : 0 < size.width) (hheight : 0 < size.height) (hedge : 0 < edge)
    (h : edge < max size.width size.height) :
    size.Fits edge ⟨scaled size.width edge (max size.width size.height),
      scaled size.height edge (max size.width size.height)⟩ := by
  have hlongest : 0 < max size.width size.height := Nat.lt_trans hedge h
  -- the longer side is scaled to the budget, the other one to less
  have hlonger : max (scaled size.width edge (max size.width size.height))
      (scaled size.height edge (max size.width size.height)) = edge := by
    obtain hmax | hmax := Nat.le_total size.width size.height
    · rw [Nat.max_eq_right (scaled_mono hmax), Nat.max_eq_right hmax]
      exact scaled_self hheight
    · rw [Nat.max_eq_left (scaled_mono hmax), Nat.max_eq_left hmax]
      exact scaled_self hwidth
  exact
    { width_pos := scaled_pos hwidth hedge hlongest
      height_pos := scaled_pos hheight hedge hlongest
      width_le := scaled_le hlongest (Nat.le_of_lt h)
      height_le := scaled_le hlongest (Nat.le_of_lt h)
      longest := by rw [hlonger, Nat.min_eq_right (Nat.le_of_lt h)]
      width_close := close_scaled hlongest h
      height_close := close_scaled hlongest h
      again := fitLongEdge_of_le (scaled_pos hwidth hedge hlongest)
        (scaled_pos hheight hedge hlongest) hedge (Nat.le_of_eq hlonger) }

theorem fitLongEdge_fits (size : PixelSize) (hwidth : 0 < size.width) (hheight : 0 < size.height)
    (hedge : 0 < edge) :
    ∃ fitted, size.fitLongEdge edge = some fitted ∧ size.Fits edge fitted := by
  by_cases h : max size.width size.height ≤ edge
  · exact ⟨size, fitLongEdge_of_le hwidth hheight hedge h, fits_of_le hwidth hheight hedge h⟩
  · exact ⟨_, fitLongEdge_of_lt hwidth hheight hedge (Nat.lt_of_not_le h),
      fits_of_lt hwidth hheight hedge (Nat.lt_of_not_le h)⟩

end NexusCua.Protocol.PixelSize

namespace NexusCua.Runtime

open NexusCua.Foundation NexusCua.Protocol

/-! ## The pixels -/

theorem sample_lt {position side length : Nat} (h : position < side) (hlength : 0 < length) :
    position * length / side < length := by
  rw [Nat.div_lt_iff_lt_mul (Nat.zero_lt_of_lt h), Nat.mul_comm length]
  exact Nat.mul_lt_mul_of_pos_right h hlength

theorem sourceOffset_le {image : RgbaImage} {size : PixelSize} {x y : Nat}
    (hpixels : image.pixels.length = image.width * image.height * 4) (hwidth : 0 < image.width)
    (hheight : 0 < image.height) (hx : x < size.width) (hy : y < size.height) :
    sourceOffset image size x y + 4 ≤ image.pixels.length := by
  have hrow : y * image.height / size.height < image.height := sample_lt hy hheight
  have hcolumn : x * image.width / size.width < image.width := sample_lt hx hwidth
  have hrows : y * image.height / size.height * image.width + image.width ≤
      image.width * image.height := by
    rw [← Nat.succ_mul, Nat.mul_comm image.width]
    exact Nat.mul_le_mul_right _ hrow
  rw [sourceOffset, hpixels]
  omega

def blended (channel alpha : UInt8) : Nat :=
  (channel.toNat * alpha.toNat + 255 * (255 - alpha.toNat) + 127) / 255

theorem blended_le (channel alpha : UInt8) : blended channel alpha ≤ 255 := by
  have hchannel : channel.toNat ≤ 255 := Nat.le_of_lt_succ channel.toNat_lt
  have halpha : alpha.toNat ≤ 255 := Nat.le_of_lt_succ alpha.toNat_lt
  have hprod : channel.toNat * alpha.toNat ≤ 255 * alpha.toNat :=
    Nat.mul_le_mul_right _ hchannel
  rw [blended]
  omega

theorem toNat_blendChannel (channel alpha : UInt8) :
    (blendChannel channel alpha).toNat = blended channel alpha := by
  have hle := blended_le channel alpha
  rw [blendChannel, UInt8.toNat_ofNat']
  exact Nat.mod_eq_of_lt (by rw [blended] at hle; omega)

/-- The byte is the nearest one to the exact blend: 255 times both differ by at most
127. -/
theorem blendChannel_nearest (channel alpha : UInt8) :
    255 * (blendChannel channel alpha).toNat ≤
        channel.toNat * alpha.toNat + 255 * (255 - alpha.toNat) + 127 ∧
      channel.toNat * alpha.toNat + 255 * (255 - alpha.toNat) ≤
        255 * (blendChannel channel alpha).toNat + 127 := by
  rw [toNat_blendChannel, blended]
  omega

theorem getElem?_flatMap_blocks {α β : Type} {f : α → List β} {block : Nat}
    (hblock : ∀ a, (f a).length = block) {l : List α} {i j : Nat} {a : α} (ha : l[i]? = some a)
    (hj : j < block) : (l.flatMap f)[i * block + j]? = (f a)[j]? := by
  induction l generalizing i with
  | nil => cases ha
  | cons head l ih =>
    rw [List.flatMap_cons]
    cases i with
    | zero =>
      cases ha
      rw [Nat.zero_mul, Nat.zero_add, List.getElem?_append_left (by rw [hblock]; exact hj)]
    | succ i =>
      have hindex : (i + 1) * block + j - (f head).length = i * block + j := by
        rw [hblock, Nat.succ_mul]
        omega
      rw [List.getElem?_append_right (by rw [hblock, Nat.succ_mul]; omega), hindex]
      exact ih ha

def blendedPixel (image : RgbaImage) (size : PixelSize) (y x : Nat) : List UInt8 :=
  [0, 1, 2].map fun i => blendChannel (image.pixels.getD (sourceOffset image size x y + i) 0)
    (image.pixels.getD (sourceOffset image size x y + 3) 0)

theorem getElem?_rgbPixels {image : RgbaImage} {size : PixelSize} {x y i : Nat}
    (hx : x < size.width) (hy : y < size.height) (hi : i < 3) :
    (rgbPixels image size)[(y * size.width + x) * 3 + i]? =
      some (blendChannel (image.pixels.getD (sourceOffset image size x y + i) 0)
        (image.pixels.getD (sourceOffset image size x y + 3) 0)) := by
  have hpixel : ∀ x, (blendedPixel image size y x).length = 3 := fun _ => rfl
  have hrow : ∀ y, ((List.range size.width).flatMap (blendedPixel image size y)).length =
      size.width * 3 := by
    intro y
    simp [List.length_flatMap, blendedPixel]
  have hindex : (y * size.width + x) * 3 + i = y * (size.width * 3) + (x * 3 + i) := by
    rw [Nat.add_mul, Nat.mul_assoc, Nat.add_assoc]
  calc (rgbPixels image size)[(y * size.width + x) * 3 + i]?
      = ((List.range size.width).flatMap (blendedPixel image size y))[x * 3 + i]? := by
        rw [hindex]
        exact getElem?_flatMap_blocks hrow (List.getElem?_range hy) (by omega)
    _ = (blendedPixel image size y x)[i]? :=
        getElem?_flatMap_blocks hpixel (List.getElem?_range hx) hi
    _ = _ := by
        match i, hi with
        | 0, _ => rfl
        | 1, _ => rfl
        | 2, _ => rfl

/-! ## Scaling is sound -/

structure Samples (image : RgbaImage) (size : PixelSize) : Prop where
  inside : ∀ x < size.width, ∀ y < size.height,
    sourceOffset image size x y + 4 ≤ image.pixels.length
  length : (rgbPixels image size).length = 3 * size.width * size.height
  blend : ∀ x < size.width, ∀ y < size.height, ∀ i < 3,
    (rgbPixels image size)[(y * size.width + x) * 3 + i]? =
      some (blendChannel (image.pixels.getD (sourceOffset image size x y + i) 0)
        (image.pixels.getD (sourceOffset image size x y + 3) 0))
  rounded : ∀ channel alpha : UInt8,
    (blendChannel channel alpha).toNat = blended channel alpha ∧ blended channel alpha ≤ 255 ∧
      255 * blended channel alpha ≤
        channel.toNat * alpha.toNat + 255 * (255 - alpha.toNat) + 127 ∧
      channel.toNat * alpha.toNat + 255 * (255 - alpha.toNat) ≤ 255 * blended channel alpha + 127

theorem validateImage_eq_ok {limits : ImageLimits} {image : RgbaImage}
    (h : validateImage limits image = .ok ()) :
    0 < image.width ∧ 0 < image.height ∧
      image.pixels.length = image.width * image.height * 4 := by
  simp only [validateImage] at h
  split at h
  · cases h
  split at h
  · cases h
  split at h
  · cases h
  split at h
  · cases h
  · rename_i hsides _ hpixels
    omega

/-- Every image that passes the checks is scaled soundly to every budget. -/
theorem downscaling_sound (limits : ImageLimits) (image : RgbaImage)
    (hvalid : validateImage limits image = .ok ()) (hedge : 1 ≤ limits.maxImageEdge) :
    ∃ size, PixelSize.fitLongEdge ⟨image.width, image.height⟩ limits.maxImageEdge = some size ∧
      PixelSize.Fits ⟨image.width, image.height⟩ limits.maxImageEdge size ∧ Samples image size := by
  obtain ⟨hwidth, hheight, hpixels⟩ := validateImage_eq_ok hvalid
  obtain ⟨size, hfit, hfits⟩ := PixelSize.fitLongEdge_fits ⟨image.width, image.height⟩
    hwidth hheight hedge
  refine ⟨size, hfit, hfits, ?_⟩
  constructor
  case inside =>
    intro x hx y hy
    exact sourceOffset_le hpixels hwidth hheight hx hy
  case length =>
    rw [length_rgbPixels, frameBytes_eight, ColorType.samples, Nat.mul_comm size.height,
      Nat.mul_comm size.width]
  case blend =>
    intro x hx y hy i hi
    exact getElem?_rgbPixels hx hy hi
  case rounded =>
    intro channel alpha
    have hnearest := blendChannel_nearest channel alpha
    rw [toNat_blendChannel] at hnearest ⊢
    exact ⟨rfl, blended_le channel alpha, hnearest⟩

def wideImage : RgbaImage := ⟨3, 1, [10, 20, 30, 255, 40, 50, 60, 128, 70, 80, 90, 0]⟩

theorem downscaling_wideImage :
    validateImage ⟨16, 2⟩ wideImage = .ok () ∧
      PixelSize.fitLongEdge ⟨3, 1⟩ 2 = some ⟨2, 1⟩ ∧ Samples wideImage ⟨2, 1⟩ := by
  obtain ⟨size, hfit, -, hsamples⟩ :=
    downscaling_sound ⟨16, 2⟩ wideImage (by decide) (by decide)
  obtain rfl : size = ⟨2, 1⟩ := Option.some.inj (hfit.symm.trans (by decide))
  exact ⟨by decide, by decide, hsamples⟩

end NexusCua.Runtime
