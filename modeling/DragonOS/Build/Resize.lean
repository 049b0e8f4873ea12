import DragonOS.Build.Bitmap
import DragonOS.Lib.Rounding

/-!
# Resizing an image

`ResizeNearest` shows in every place of the result the pixel of the source that is found
there by rounding down. An image of the right size is returned as it is, which is what the
loops come to: `resizeNearest_eq_resizeLoop`.
-/

namespace DragonOS.Build

open Lib

namespace ImageTools

def resizePixel (source : BmpImage) (targetWidth targetHeight : Int) (y x : Nat) :
    Except Failure Pixel := do
  let sourceY := (int32 (y * source.height)).tdiv targetHeight
  let sourceX := (int32 (x * source.width)).tdiv targetWidth
  let sourceIndex := int32 (int32 (sourceY * source.width) + sourceX)
  let pixel ← element source.pixels sourceIndex
  match source.alpha with
  | none => .ok (pixel, none)
  | some alpha => do
    let value ← element alpha sourceIndex
    .ok (pixel, some value)

def resizeLoop (source : BmpImage) (targetWidth targetHeight : Int) :
    Except Failure BmpImage := do
  let arrays ← newArrays source.alpha.isSome (int32 (targetWidth * targetHeight))
  let (pixels, alpha) ← forEachPixel targetWidth targetHeight
    (resizePixel source targetWidth targetHeight) arrays
  .ok { width := targetWidth, height := targetHeight, pixels, alpha }

def resizeNearest (source : BmpImage) (targetWidth targetHeight : Int) :
    Except Failure BmpImage :=
  if source.width = targetWidth ∧ source.height = targetHeight then .ok source
  else resizeLoop source targetWidth targetHeight

end ImageTools

-- ---------------------------------------------------------------------------
-- Complete images
-- ---------------------------------------------------------------------------

structure BmpImage.Complete (image : BmpImage) : Prop where
  width_pos : 0 < image.width
  height_pos : 0 < image.height
  pixels : (image.pixels.length : Int) = image.height * image.width
  alpha : ∀ alpha ∈ image.alpha, alpha.length = image.pixels.length

def BmpImage.pixelAt (image : BmpImage) (index : Nat) : Pixel :=
  (image.pixels.getD index 0, image.alpha.map (·.getD index 0))

theorem BmpImage.Complete.length_pixels {image : BmpImage} (h : image.Complete) {width height : Nat}
    (hwidth : image.width = width) (hheight : image.height = height) :
    image.pixels.length = height * width := by
  have hlength := h.pixels
  rw [hwidth, hheight] at hlength
  exact_mod_cast hlength

/-- The image whose pixels come from places of another one. -/
def BmpImage.rearranged (source : BmpImage) (width height : Nat) (origin : Nat → Nat) :
    BmpImage where
  width
  height
  pixels := (List.range (height * width)).map fun i => source.pixels.getD (origin i) 0
  alpha := source.alpha.map fun alpha =>
    (List.range (height * width)).map fun i => alpha.getD (origin i) 0

theorem BmpImage.rearranged_self {source : BmpImage} {width height : Nat} {origin : Nat → Nat}
    (hsource : source.Complete) (hwidth : source.width = width) (hheight : source.height = height)
    (horigin : ∀ i < height * width, origin i = i) : source.rearranged width height origin = source := by
  have hpixels := hsource.length_pixels hwidth hheight
  have halpha := hsource.alpha
  obtain ⟨sourceWidth, sourceHeight, pixels, alpha⟩ := source
  obtain rfl : sourceWidth = width := hwidth
  obtain rfl : sourceHeight = height := hheight
  simp only [rearranged, map_getD_range hpixels horigin]
  cases alpha with
  | none => rfl
  | some alpha =>
    rw [Option.map_some, map_getD_range ((halpha alpha rfl).trans hpixels) horigin]

theorem BmpImage.complete_rearranged (source : BmpImage) {width height : Nat} (hwidth : 0 < width)
    (hheight : 0 < height) (origin : Nat → Nat) :
    (source.rearranged width height origin).Complete where
  width_pos := Int.natCast_pos.mpr hwidth
  height_pos := Int.natCast_pos.mpr hheight
  pixels := by simp [rearranged]
  alpha alpha halpha := by
    obtain ⟨stored, -, rfl⟩ := Option.map_eq_some_iff.mp halpha
    simp [rearranged]

theorem BmpImage.pixelAt_rearranged (source : BmpImage) {width height : Nat} (origin : Nat → Nat)
    (h : i < height * width) :
    (source.rearranged width height origin).pixelAt i = source.pixelAt (origin i) := by
  have hget : ∀ {α : Type} (part : Nat → α) (filler : α),
      ((List.range (height * width)).map part).getD i filler = part i := fun part filler => by
    rw [List.getD_eq_getElem?_getD, List.getElem?_map, List.getElem?_range h]
    rfl
  cases halpha : source.alpha with
  | none => simp only [pixelAt, rearranged, hget, halpha, Option.map_none]
  | some alpha => simp only [pixelAt, rearranged, hget, halpha, Option.map_some]

namespace ImageTools

variable {source : BmpImage} {width height targetWidth targetHeight : Nat}

def sourceIndex (width height targetWidth targetHeight i : Nat) : Nat :=
  sample height targetHeight (i / targetWidth) * width + sample width targetWidth (i % targetWidth)

theorem resizePixel_eq (hsource : source.Complete) (hwidth : source.width = width)
    (hheight : source.height = height) (hsize : height * width < 2 ^ 31)
    (hrows : targetHeight * height < 2 ^ 31) (hcolumns : targetWidth * width < 2 ^ 31)
    (hy : y < targetHeight) (hx : x < targetWidth) :
    resizePixel source targetWidth targetHeight y x = .ok (source.pixelAt
      (sample height targetHeight y * width + sample width targetWidth x)) := by
  have hpixels := hsource.length_pixels hwidth hheight
  have hpositive : 0 < width ∧ 0 < height := by
    have hwidthpos := hsource.width_pos
    have hheightpos := hsource.height_pos
    omega
  have hrow := sample_lt hpositive.2 hy
  have hcolumn := sample_lt hpositive.1 hx
  have hinside : sample height targetHeight y * width + sample width targetWidth x <
      height * width := place_lt hrow hcolumn
  have hrowbound : y * height ≤ targetHeight * height := Nat.mul_le_mul_right height hy.le
  have hcolumnbound : x * width ≤ targetWidth * width := Nat.mul_le_mul_right width hx.le
  have hsourceY : (int32 ((y : Int) * height)).tdiv targetHeight = sample height targetHeight y := by
    rw [← Int.natCast_mul, int32_natCast (hrowbound.trans_lt hrows), sample, Int.ofNat_tdiv]
  have hsourceX : (int32 ((x : Int) * width)).tdiv targetWidth = sample width targetWidth x := by
    rw [← Int.natCast_mul, int32_natCast (hcolumnbound.trans_lt hcolumns), sample, Int.ofNat_tdiv]
  have hstart : int32 ((sample height targetHeight y : Int) * width) =
      (sample height targetHeight y * width : Nat) := by
    rw [← Int.natCast_mul, int32_natCast ((Nat.le_add_right _ _).trans_lt (hinside.trans hsize))]
  simp only [resizePixel, hwidth, hheight, hsourceY, hsourceX, hstart]
  rw [← Int.natCast_add, int32_natCast (hinside.trans hsize),
    liftM_eq (element_getD 0 (hpixels ▸ hinside)), ok_bind, BmpImage.pixelAt]
  cases halpha : source.alpha with
  | none => rfl
  | some alpha =>
    have hlength := hsource.alpha alpha halpha
    dsimp only
    rw [liftM_eq (element_getD 0 (hlength ▸ hpixels ▸ hinside))]
    rfl

theorem resizePixel_alpha {targetWidth targetHeight : Int} {pixel : Pixel}
    (h : resizePixel source targetWidth targetHeight y x = .ok pixel) :
    pixel.2.isSome = source.alpha.isSome := by
  simp only [resizePixel, bind_ok, liftM_ok] at h
  obtain ⟨color, -, h⟩ := h
  cases halpha : source.alpha with
  | none =>
    rw [halpha] at h
    obtain rfl := Except.ok.inj h
    rfl
  | some alpha =>
    simp only [halpha, bind_ok, liftM_ok] at h
    obtain ⟨value, -, h⟩ := h
    obtain rfl := Except.ok.inj h
    rfl

theorem resizeLoop_eq (hsource : source.Complete) (hwidth : source.width = width)
    (hheight : source.height = height) (hsize : height * width < 2 ^ 31)
    (hrows : targetHeight * height < 2 ^ 31) (hcolumns : targetWidth * width < 2 ^ 31)
    (htarget : targetHeight * targetWidth < 2 ^ 31) :
    resizeLoop source targetWidth targetHeight = .ok (source.rearranged targetWidth targetHeight
      (sourceIndex width height targetWidth targetHeight)) := by
  have hread : (List.range (targetHeight * targetWidth)).mapM (fun i =>
      resizePixel source targetWidth targetHeight (i / targetWidth) (i % targetWidth)) =
        .ok ((List.range (targetHeight * targetWidth)).map fun i =>
          source.pixelAt (sourceIndex width height targetWidth targetHeight i)) := by
    refine mapM_range_eq fun i hi => ?_
    have htargetWidth : 0 < targetWidth := Nat.pos_of_mul_pos_left (Nat.zero_lt_of_lt hi)
    exact resizePixel_eq hsource hwidth hheight hsize hrows hcolumns
      ((Nat.div_lt_iff_lt_mul htargetWidth).mpr hi) (Nat.mod_lt _ htargetWidth)
  rw [resizeLoop, ← Int.natCast_mul, Nat.mul_comm targetWidth, int32_natCast htarget,
    liftM_eq (newArrays_eq _ _), ok_bind, forEachPixel_eq htarget, hread, ok_bind, ok_bind,
    filled_full _ (by simp)]
  · simp only [BmpImage.rearranged, List.map_map]
    cases halpha : source.alpha with
    | none => rfl
    | some alpha =>
      simp only [Function.comp_def, BmpImage.pixelAt, halpha]
      rfl
  · exact fun y x pixel hpixel => resizePixel_alpha hpixel

-- ---------------------------------------------------------------------------
-- The samples
-- ---------------------------------------------------------------------------

abbrev columns (image : BmpImage) : Nat := image.width.toNat

abbrev rows (image : BmpImage) : Nat := image.height.toNat

abbrev sourceRow (source result : BmpImage) : Nat → Nat := sample (rows source) (rows result)

abbrev sourceColumn (source result : BmpImage) : Nat → Nat :=
  sample (columns source) (columns result)

structure Samples (source result : BmpImage) : Prop where
  complete : result.Complete
  inside : ∀ y < rows result, ∀ x < columns result,
    sourceRow source result y * columns source + sourceColumn source result x <
      source.pixels.length
  pixel : ∀ y < rows result, ∀ x < columns result,
    result.pixelAt (y * columns result + x) =
      source.pixelAt (sourceRow source result y * columns source + sourceColumn source result x)
  rows_ordered : Monotone (sourceRow source result)
  columns_ordered : Monotone (sourceColumn source result)
  rows_covered : source.height ≤ result.height →
    ∀ row < rows source, ∃ y < rows result, sourceRow source result y = row
  columns_covered : source.width ≤ result.width →
    ∀ column < columns source, ∃ x < columns result, sourceColumn source result x = column

theorem samples_rearranged {source : BmpImage} {width height targetWidth targetHeight : Nat}
    (hsource : source.Complete) (hwidth : source.width = width) (hheight : source.height = height)
    (htargetWidth : 0 < targetWidth) (htargetHeight : 0 < targetHeight) :
    Samples source (source.rearranged targetWidth targetHeight
      (sourceIndex width height targetWidth targetHeight)) := by
  have hpixels := hsource.length_pixels hwidth hheight
  obtain ⟨hcolumns, hrows⟩ : columns source = width ∧ rows source = height := by
    rw [columns, rows, hwidth, hheight]
    exact ⟨Int.toNat_natCast _, Int.toNat_natCast _⟩
  have hpositive : 0 < width ∧ 0 < height := by
    have hwidthpos := hsource.width_pos
    have hheightpos := hsource.height_pos
    omega
  refine ⟨source.complete_rearranged htargetWidth htargetHeight _, fun y hy x hx => ?_,
    fun y hy x hx => ?_, sample_mono _ _, sample_mono _ _, fun hle row hrow => ?_,
    fun hle column hcolumn => ?_⟩
  · rw [hpixels, hcolumns]
    exact place_lt (hrows ▸ sample_lt (hrows ▸ hpositive.2) hy)
      (hcolumns ▸ sample_lt (hcolumns ▸ hpositive.1) hx)
  · have hx : x < targetWidth := hx
    have hy : y < targetHeight := hy
    change BmpImage.pixelAt _ (y * targetWidth + x) = source.pixelAt
      (sample (rows source) targetHeight y * columns source + sample (columns source) targetWidth x)
    rw [BmpImage.pixelAt_rearranged source _ (place_lt hy hx), sourceIndex, place_div hx,
      place_mod hx, hcolumns, hrows]
  · exact exists_sample (Int.toNat_le_toNat hle) hrow
  · exact exists_sample (Int.toNat_le_toNat hle) hcolumn

/-- The result of the loops, and so of the whole function. -/
theorem resizeNearest_samples {source : BmpImage} {targetWidth targetHeight : Int}
    (hsource : source.Complete) (htargetWidth : 0 < targetWidth) (htargetHeight : 0 < targetHeight)
    (hsize : source.height * source.width < 2 ^ 31) (htarget : targetHeight * targetWidth < 2 ^ 31)
    (hrows : targetHeight * source.height < 2 ^ 31)
    (hcolumns : targetWidth * source.width < 2 ^ 31) :
    resizeNearest source targetWidth targetHeight = resizeLoop source targetWidth targetHeight ∧
      ∃ result, resizeNearest source targetWidth targetHeight = .ok result ∧
        result.width = targetWidth ∧ result.height = targetHeight ∧ Samples source result := by
  obtain ⟨width, hwidth⟩ := Int.eq_ofNat_of_zero_le hsource.width_pos.le
  obtain ⟨height, hheight⟩ := Int.eq_ofNat_of_zero_le hsource.height_pos.le
  lift targetWidth to Nat using htargetWidth.le
  lift targetHeight to Nat using htargetHeight.le
  rw [hwidth] at hsize hcolumns
  rw [hheight] at hsize hrows
  rw [← Int.natCast_mul] at hsize htarget hrows hcolumns
  rw [Int.natCast_pos] at htargetWidth htargetHeight
  have hloop := resizeLoop_eq hsource hwidth hheight (Int.ofNat_lt.mp hsize)
    (Int.ofNat_lt.mp hrows) (Int.ofNat_lt.mp hcolumns) (Int.ofNat_lt.mp htarget)
  have hsame : resizeNearest source targetWidth targetHeight =
      resizeLoop source targetWidth targetHeight := by
    rw [resizeNearest]
    split
    next hequal =>
      obtain rfl : width = targetWidth := Int.natCast_inj.mp (hwidth.symm.trans hequal.1)
      obtain rfl : height = targetHeight := Int.natCast_inj.mp (hheight.symm.trans hequal.2)
      rw [hloop, BmpImage.rearranged_self hsource hwidth hheight]
      intro i hi
      rw [sourceIndex, sample_self htargetHeight, sample_self htargetWidth, Nat.mul_comm]
      exact Nat.div_add_mod i width
    next => rfl
  exact ⟨hsame, _, hsame.trans hloop, rfl, rfl,
    samples_rearranged hsource hwidth hheight htargetWidth htargetHeight⟩

def pairImage : BmpImage := ⟨2, 1, [⟨1, 2, 3⟩, ⟨4, 5, 6⟩], some [7, 8]⟩

theorem pairImage_complete : pairImage.Complete where
  width_pos := by decide
  height_pos := by decide
  pixels := by decide
  alpha alpha halpha := by
    obtain rfl := Option.some.inj halpha
    rfl

theorem resizeNearest_samples_pair : resizeNearest pairImage 5 2 = resizeLoop pairImage 5 2 ∧
    ∃ result, resizeNearest pairImage 5 2 = .ok result ∧ result.width = 5 ∧ result.height = 2 ∧
      Samples pairImage result :=
  resizeNearest_samples pairImage_complete (by decide) (by decide) (by decide) (by decide)
    (by decide) (by decide)

end ImageTools

end DragonOS.Build
