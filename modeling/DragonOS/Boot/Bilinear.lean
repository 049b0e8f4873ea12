import DragonOS.Boot.Surface
import DragonOS.Lib.Averages

/-!
# Scaling an image

`drawImageNearestAlpha` finds a position in the source for each pixel it draws,
in 256ths, and averages the four pixels around it. While the products fit into a
word the positions never step back and end on the first and the last pixel
(`Sampled`). The weights of the four pixels add up to 65536, so each rounded
channel is an average of four bytes, and with these averages the pixels of the image
on the screen are blended (`applyAll_drawImageNearestAlpha`).
-/

namespace DragonOS.Boot

open Lib

-- ---------------------------------------------------------------------------
-- Positions along an axis
-- ---------------------------------------------------------------------------

/-- The position in 256ths. -/
def Sample.position (sample : Sample) : Nat := sample.first.toNat * 256 + sample.blend.toNat

theorem toNat_and_255 (word : UInt32) : (word &&& 0xFF).toNat = word.toNat % 256 := by
  rw [UInt32.toNat_and]
  exact Nat.and_two_pow_sub_one_eq_mod _ 8

theorem toNat_shiftRight_8 (word : UInt32) : (word >>> 8).toNat = word.toNat / 256 := by
  rw [UInt32.toNat_shiftRight]
  exact Nat.shiftRight_eq_div_pow _ 8

section
variable {position drawSize sourceSize : UInt32}

theorem samplePosition_blend_lt (position drawSize sourceSize : UInt32) :
    (samplePosition position drawSize sourceSize).blend.toNat < 256 := by
  simp only [samplePosition, toNat_and_255]
  exact Nat.mod_lt _ (by decide)

/-- The neighbour is the next pixel, or the last one once more. -/
theorem toNat_samplePosition_next (hsource : sourceSize ≠ 0)
    (hposition : position < drawSize) :
    (samplePosition position drawSize sourceSize).next.toNat =
      min ((samplePosition position drawSize sourceSize).first.toNat + 1)
        (sourceSize.toNat - 1) := by
  have hfirst := (samplePosition_lt hposition hsource).1
  have hnext : (samplePosition position drawSize sourceSize).next =
      if (samplePosition position drawSize sourceSize).first + 1 < sourceSize then
        (samplePosition position drawSize sourceSize).first + 1
      else (samplePosition position drawSize sourceSize).first := rfl
  have hlt := sourceSize.toNat_lt
  rw [UInt32.lt_iff_toNat_lt] at hfirst
  have hsum := toNat_add_of_lt (a := (samplePosition position drawSize sourceSize).first) (b := 1)
    (by rw [UInt32.toNat_one]; omega)
  rw [UInt32.toNat_one] at hsum
  rw [hnext]
  split <;> simp only [UInt32.lt_iff_toNat_lt] at * <;> omega

variable (hfit : drawSize.toNat * sourceSize.toNat * 256 < 2 ^ 32)
include hfit

/-- Without wrap-around the position is the exact quotient. -/
theorem samplePosition_position (hsource : sourceSize ≠ 0) (hdraw : 1 < drawSize)
    (hposition : position < drawSize) :
    (samplePosition position drawSize sourceSize).position =
      position.toNat * (sourceSize.toNat - 1) * 256 / (drawSize.toNat - 1) := by
  have hpos : 0 < sourceSize.toNat := by
    rw [Nat.pos_iff_ne_zero, ne_eq, ← UInt32.toNat_zero, UInt32.toNat_inj]
    exact hsource
  have hone : (1 : UInt32).toNat = 1 := rfl
  have hpositionLt := UInt32.lt_iff_toNat_lt.mp hposition
  have hdrawLt := UInt32.lt_iff_toNat_lt.mp hdraw
  have hsize : (sourceSize - 1).toNat = sourceSize.toNat - 1 :=
    toNat_sub_of_ge hpos
  have hlast : (drawSize - 1).toNat = drawSize.toNat - 1 :=
    toNat_sub_of_ge (Nat.le_of_lt hdrawLt)
  have hproduct : position.toNat * (sourceSize.toNat - 1) ≤ drawSize.toNat * sourceSize.toNat :=
    Nat.mul_le_mul (Nat.le_of_lt hpositionLt) (Nat.sub_le _ _)
  have hexact : (position * (sourceSize - 1) * 256).toNat =
      position.toNat * (sourceSize.toNat - 1) * 256 := by
    have hleft : (position * (sourceSize - 1)).toNat =
        position.toNat * (sourceSize.toNat - 1) := by
      rw [toNat_mul_of_lt] <;> rw [hsize]
      omega
    have hscale : (256 : UInt32).toNat = 256 := rfl
    have hbound : (position * (sourceSize - 1)).toNat * (256 : UInt32).toNat < 2 ^ 32 := by
      rw [hleft, hscale]
      exact Nat.lt_of_le_of_lt (Nat.mul_le_mul_right 256 hproduct) hfit
    rw [toNat_mul_of_lt hbound, hleft, hscale]
  simp only [Sample.position, samplePosition, gt_iff_lt, hdraw, if_true, toNat_and_255,
    toNat_shiftRight_8, UInt32.toNat_div, hexact, hlast]
  omega

theorem samplePosition_mono (hsource : sourceSize ≠ 0) {position' : UInt32}
    (hle : position ≤ position') (hposition : position' < drawSize) :
    (samplePosition position drawSize sourceSize).position ≤
      (samplePosition position' drawSize sourceSize).position := by
  have hbefore : position < drawSize := UInt32.lt_of_le_of_lt hle hposition
  by_cases hdraw : 1 < drawSize
  · rw [samplePosition_position hfit hsource hdraw hbefore,
      samplePosition_position hfit hsource hdraw hposition]
    exact Nat.div_le_div_right (Nat.mul_le_mul_right _ (Nat.mul_le_mul_right _
      (UInt32.le_iff_toNat_le.mp hle)))
  · simp only [samplePosition, gt_iff_lt, hdraw, if_false, Nat.le_refl]

theorem samplePosition_last (hsource : sourceSize ≠ 0) (hdraw : 1 < drawSize) :
    (samplePosition (drawSize - 1) drawSize sourceSize).position =
      (sourceSize.toNat - 1) * 256 := by
  have hone : (1 : UInt32).toNat = 1 := rfl
  have hdrawLt := UInt32.lt_iff_toNat_lt.mp hdraw
  have hlast : (drawSize - 1).toNat = drawSize.toNat - 1 :=
    toNat_sub_of_ge (Nat.le_of_lt hdrawLt)
  have hin : drawSize - 1 < drawSize := by
    rw [UInt32.lt_iff_toNat_lt]
    omega
  rw [samplePosition_position hfit hsource hdraw hin, hlast, Nat.mul_assoc,
    Nat.mul_div_cancel_left _ (by omega)]

end

section
variable {drawSize sourceSize : UInt32}

theorem samplePosition_first_blend (position drawSize sourceSize : UInt32) :
    (samplePosition position drawSize sourceSize).first.toNat =
        (samplePosition position drawSize sourceSize).position / 256 ∧
      (samplePosition position drawSize sourceSize).blend.toNat =
        (samplePosition position drawSize sourceSize).position % 256 := by
  have hblend := samplePosition_blend_lt position drawSize sourceSize
  rw [Sample.position]
  omega

structure Sampled (drawSize sourceSize : UInt32) : Prop where
  inside : ∀ position < drawSize,
    (samplePosition position drawSize sourceSize).first < sourceSize ∧
      (samplePosition position drawSize sourceSize).next < sourceSize
  mono : ∀ position position', position ≤ position' → position' < drawSize →
    (samplePosition position drawSize sourceSize).position ≤
        (samplePosition position' drawSize sourceSize).position ∧
      (samplePosition position drawSize sourceSize).first ≤
        (samplePosition position' drawSize sourceSize).first ∧
      (samplePosition position drawSize sourceSize).next ≤
        (samplePosition position' drawSize sourceSize).next
  start : (samplePosition 0 drawSize sourceSize).first = 0 ∧
    (samplePosition 0 drawSize sourceSize).blend = 0
  stop : 1 < drawSize →
    (samplePosition (drawSize - 1) drawSize sourceSize).first = sourceSize - 1 ∧
      (samplePosition (drawSize - 1) drawSize sourceSize).blend = 0

theorem sampled (hsource : sourceSize ≠ 0)
    (hfit : drawSize.toNat * sourceSize.toNat * 256 < 2 ^ 32) : Sampled drawSize sourceSize where
  inside position hposition := samplePosition_lt hposition hsource
  mono position position' hle hposition := by
    have hbefore : position < drawSize := UInt32.lt_of_le_of_lt hle hposition
    have hmono := samplePosition_mono hfit hsource hle hposition
    have hfirst := (samplePosition_first_blend position drawSize sourceSize).1
    have hfirst' := (samplePosition_first_blend position' drawSize sourceSize).1
    have hnext := toNat_samplePosition_next hsource hbefore
    have hnext' := toNat_samplePosition_next hsource hposition
    refine ⟨hmono, ?_, ?_⟩ <;> rw [UInt32.le_iff_toNat_le] <;> omega
  start := by simp [samplePosition]
  stop hdraw := by
    have hlast := samplePosition_last hfit hsource hdraw
    have hpos : 0 < sourceSize.toNat := by
      rw [Nat.pos_iff_ne_zero, ne_eq, ← UInt32.toNat_zero, UInt32.toNat_inj]
      exact hsource
    have hsize : (sourceSize - 1).toNat = sourceSize.toNat - 1 :=
      toNat_sub_of_ge hpos
    obtain ⟨hfirst, hblend⟩ := samplePosition_first_blend (drawSize - 1) drawSize sourceSize
    rw [hlast] at hfirst hblend
    refine ⟨UInt32.toNat_inj.mp ?_, UInt32.toNat_inj.mp ?_⟩
    · rw [hfirst, hsize, Nat.mul_div_cancel _ (by decide)]
    · rw [hblend, Nat.mul_mod_left, UInt32.toNat_zero]

end

-- ---------------------------------------------------------------------------
-- The average of four pixels
-- ---------------------------------------------------------------------------

/-- The four weights, in the order of the source. -/
def sampleWeights (column row : Sample) : List UInt32 :=
  [(256 - column.blend) * (256 - row.blend), column.blend * (256 - row.blend),
    (256 - column.blend) * row.blend, column.blend * row.blend]

def sampleBytes (table : List UInt8) (sourceWidth scale channel : UInt32) (column row : Sample) :
    List UInt8 :=
  [(row.first, column.first), (row.first, column.next), (row.next, column.first),
    (row.next, column.next)].map fun (y, x) =>
      entry table ((y * sourceWidth + x) * scale + channel)

section
variable {column row : Sample} (hcolumn : column.blend.toNat < 256) (hrow : row.blend.toNat < 256)
include hcolumn hrow

theorem toNat_sampleWeights :
    (sampleWeights column row).map UInt32.toNat =
      [(256 - column.blend.toNat) * (256 - row.blend.toNat),
        column.blend.toNat * (256 - row.blend.toNat),
        (256 - column.blend.toNat) * row.blend.toNat, column.blend.toNat * row.blend.toNat] := by
  have hrest : ∀ {blend : UInt32}, blend.toNat < 256 → (256 - blend).toNat = 256 - blend.toNat :=
    fun hblend => toNat_sub_of_ge (Nat.le_of_lt hblend)
  have hproduct : ∀ {a b : UInt32}, a.toNat ≤ 256 → b.toNat ≤ 256 →
      (a * b).toNat = a.toNat * b.toNat := fun ha hb =>
    toNat_mul_of_lt (Nat.lt_of_le_of_lt (Nat.mul_le_mul ha hb) (by decide))
  have hx := hrest hcolumn
  have hy := hrest hrow
  simp only [sampleWeights, List.map_cons, List.map_nil]
  rw [hproduct, hproduct, hproduct, hproduct, hx, hy] <;> omega

theorem sum_sampleWeights : ((sampleWeights column row).map UInt32.toNat).sum = 65536 := by
  rw [toNat_sampleWeights hcolumn hrow]
  have hsum := Terms.sum_product_weights (Nat.le_of_lt hcolumn) (Nat.le_of_lt hrow)
  simp only [List.sum_cons, List.sum_nil]
  omega

def sampleTerms (table : List UInt8) (sourceWidth scale channel : UInt32) (column row : Sample) :
    Terms :=
  ((sampleWeights column row).map UInt32.toNat).zip
    ((sampleBytes table sourceWidth scale channel column row).map UInt8.toNat)

variable (table : List UInt8) (sourceWidth scale channel : UInt32)

theorem total_sampleTerms :
    (sampleTerms table sourceWidth scale channel column row).total = 65536 :=
  sum_sampleWeights hcolumn hrow

theorem toNat_weightedSum :
    (weightedSum table sourceWidth scale channel column row).toNat =
      (sampleTerms table sourceWidth scale channel column row).weighted := by
  have htotal := sum_sampleWeights hcolumn hrow
  simp only [sampleWeights, List.map_cons, List.map_nil, List.sum_cons, List.sum_nil] at htotal
  have hterm : ∀ (byte : UInt8) (weight : UInt32), weight.toNat ≤ 65536 →
      (byte.toUInt32 * weight).toNat = weight.toNat * byte.toNat ∧
        weight.toNat * byte.toNat ≤ 65536 * 255 := by
    intro byte weight hweight
    have hle := Nat.mul_le_mul hweight (Nat.le_of_lt_succ byte.toNat_lt)
    refine ⟨?_, hle⟩
    rw [Nat.mul_comm, ← UInt8.toNat_toUInt32]
    refine toNat_mul_of_lt ?_
    rw [UInt8.toNat_toUInt32, Nat.mul_comm]
    exact Nat.lt_of_le_of_lt hle (by decide)
  simp only [weightedSum, sampleTerms, sampleWeights, sampleBytes, List.map_cons, List.map_nil,
    List.zip_cons_cons, List.zip_nil_left, Terms.weighted, List.sum_cons, List.sum_nil]
  generalize (256 - column.blend) * (256 - row.blend) = weight00 at htotal ⊢
  generalize column.blend * (256 - row.blend) = weight10 at htotal ⊢
  generalize (256 - column.blend) * row.blend = weight01 at htotal ⊢
  generalize column.blend * row.blend = weight11 at htotal ⊢
  generalize entry table ((row.first * sourceWidth + column.first) * scale + channel) = byte00
  generalize entry table ((row.first * sourceWidth + column.next) * scale + channel) = byte10
  generalize entry table ((row.next * sourceWidth + column.first) * scale + channel) = byte01
  generalize entry table ((row.next * sourceWidth + column.next) * scale + channel) = byte11
  obtain ⟨h00, hle00⟩ := hterm byte00 weight00 (by omega)
  obtain ⟨h10, hle10⟩ := hterm byte10 weight10 (by omega)
  obtain ⟨h01, hle01⟩ := hterm byte01 weight01 (by omega)
  obtain ⟨h11, hle11⟩ := hterm byte11 weight11 (by omega)
  have htwo := toNat_add_of_lt (a := byte00.toUInt32 * weight00) (b := byte10.toUInt32 * weight10)
    (by omega)
  have hthree := toNat_add_of_lt
    (a := byte00.toUInt32 * weight00 + byte10.toUInt32 * weight10)
    (b := byte01.toUInt32 * weight01) (by omega)
  rw [toNat_add_of_lt (by omega)]
  omega

/-- A rounded channel is the average of its bytes; the cast to a byte loses nothing. -/
theorem toNat_roundedByte_weightedSum :
    (roundedByte (weightedSum table sourceWidth scale channel column row)).toNat =
        (sampleTerms table sourceWidth scale channel column row).average 32768 ∧
      ((weightedSum table sourceWidth scale channel column row + 32768) >>> 16).toNat ≤ 255 := by
  have hsum := toNat_weightedSum hcolumn hrow table sourceWidth scale channel
  have htotal := total_sampleTerms hcolumn hrow table sourceWidth scale channel
  have hbytes : ∀ term ∈ sampleTerms table sourceWidth scale channel column row,
      term.2 ≤ 255 := by
    intro term hterm
    obtain ⟨byte, -, hbyte⟩ := List.mem_map.mp (List.of_mem_zip hterm).2
    rw [← hbyte]
    exact Nat.le_of_lt_succ byte.toNat_lt
  have hweighted := Terms.weighted_le hbytes
  have haverage := Terms.average_le (show 32768 < _ by rw [htotal]; decide) hbytes
  have hhalf : (32768 : UInt32).toNat = 32768 := rfl
  rw [htotal] at hweighted
  have hshifted : ((weightedSum table sourceWidth scale channel column row + 32768) >>> 16).toNat =
      (sampleTerms table sourceWidth scale channel column row).average 32768 := by
    rw [UInt32.toNat_shiftRight, toNat_add_of_lt (by rw [hsum, hhalf]; omega), hsum, hhalf,
      Terms.average, htotal]
    exact Nat.shiftRight_eq_div_pow _ 16
  refine ⟨?_, by rw [hshifted]; exact haverage⟩
  rw [roundedByte, UInt32.toNat_toUInt8, hshifted]
  exact Nat.mod_eq_of_lt (Nat.lt_succ_of_le haverage)

theorem roundedByte_between {low high : UInt8}
    (hlow : ∀ byte ∈ sampleBytes table sourceWidth scale channel column row, low ≤ byte)
    (hhigh : ∀ byte ∈ sampleBytes table sourceWidth scale channel column row, byte ≤ high) :
    low ≤ roundedByte (weightedSum table sourceWidth scale channel column row) ∧
      roundedByte (weightedSum table sourceWidth scale channel column row) ≤ high := by
  have htotal := total_sampleTerms hcolumn hrow table sourceWidth scale channel
  have hterm : ∀ term ∈ sampleTerms table sourceWidth scale channel column row,
      low.toNat ≤ term.2 ∧ term.2 ≤ high.toNat := by
    intro term hterm
    obtain ⟨byte, hmem, hbyte⟩ := List.mem_map.mp (List.of_mem_zip hterm).2
    rw [← hbyte]
    exact ⟨UInt8.le_iff_toNat_le.mp (hlow byte hmem), UInt8.le_iff_toNat_le.mp (hhigh byte hmem)⟩
  rw [UInt8.le_iff_toNat_le, UInt8.le_iff_toNat_le,
    (toNat_roundedByte_weightedSum hcolumn hrow table sourceWidth scale channel).1]
  exact ⟨Terms.le_average (by rw [htotal]; decide) fun term ht => (hterm term ht).1,
    Terms.average_le (by rw [htotal]; decide) fun term ht => (hterm term ht).2⟩

end

-- ---------------------------------------------------------------------------
-- The image
-- ---------------------------------------------------------------------------

section
variable {drawWidth drawHeight sourceWidth sourceHeight : UInt32} {pixels alpha : List UInt8}

theorem fetch_lt_of_weightedFetches {column row : Sample} {table : List UInt8}
    (hlength : table.length = sourceWidth.toNat * sourceHeight.toNat * scale.toNat)
    (hcolumn : column.first < sourceWidth ∧ column.next < sourceWidth)
    (hrow : row.first < sourceHeight ∧ row.next < sourceHeight) (hchannel : channel < scale)
    (h : .note (.fetch index length) ∈
      weightedFetches table sourceWidth scale channel column row) : index < length := by
  have hconfined : Confined (fun _ => True) (fun _ => True) Remark.InOrder
      (weightedFetches table sourceWidth scale channel column row) :=
    confined_weightedFetches hlength hcolumn hrow hchannel
  exact (hconfined _ h).2.2 _ rfl

theorem fetch_lt_of_drawImageNearestAlpha
    (hpixels : pixels.length = sourceWidth.toNat * sourceHeight.toNat * 3)
    (halpha : alpha.length = sourceWidth.toNat * sourceHeight.toNat)
    (h : .note (.fetch index length) ∈ drawImageNearestAlpha framebufferInfo x y drawWidth
      drawHeight sourceWidth sourceHeight pixels alpha) : index < length := by
  unfold drawImageNearestAlpha at h
  split at h
  · cases h
  next hsize =>
  simp only [not_or] at hsize
  simp only [List.mem_flatMap, mem_upTo] at h
  obtain ⟨row, hrow, h⟩ := h
  split at h
  · cases h
  simp only [List.mem_flatMap, mem_upTo] at h
  obtain ⟨column, hcolumn, h⟩ := h
  have hsampleX := samplePosition_lt hcolumn hsize.2.2.1
  have hsampleY := samplePosition_lt hrow hsize.2.2.2
  split at h
  · cases h
  rw [List.mem_append] at h
  rcases h with h | h
  · exact fetch_lt_of_weightedFetches (by simpa using halpha) hsampleX hsampleY (by decide) h
  split at h
  · cases h
  rw [List.mem_append] at h
  rcases h with h | h
  · obtain ⟨k, hk, h⟩ := List.mem_flatMap.mp h
    have hchannel : ∀ k ∈ [0, 1, 2], k < (3 : UInt32) := by simp
    exact fetch_lt_of_weightedFetches hpixels hsampleX hsampleY (hchannel k hk) h
  · simp [FramebufferInfo.blendPixel, FramebufferInfo.offset] at h

theorem toNat_tableIndex {scale channel x y : UInt32} (hx : x < sourceWidth)
    (hy : y < sourceHeight) (hchannel : channel < scale)
    (htable : sourceWidth.toNat * sourceHeight.toNat * scale.toNat ≤ 2 ^ 32) :
    ((y * sourceWidth + x) * scale + channel).toNat =
      (y.toNat * sourceWidth.toNat + x.toNat) * scale.toNat + channel.toNat := by
  rw [UInt32.lt_iff_toNat_lt] at hx hy hchannel
  have hrow := Nat.mul_le_mul_right sourceWidth.toNat hy
  rw [Nat.succ_mul, Nat.mul_comm sourceHeight.toNat] at hrow
  have hcell : (y.toNat * sourceWidth.toNat + x.toNat + 1) * scale.toNat ≤ 2 ^ 32 :=
    Nat.le_trans (Nat.mul_le_mul_right _ (by omega)) htable
  have hsmall := Nat.le_mul_of_pos_right (y.toNat * sourceWidth.toNat + x.toNat)
    (show 0 < scale.toNat by omega)
  rw [Nat.add_one_mul] at hcell
  have hrowExact := toNat_mul_of_lt (a := y) (b := sourceWidth) (by omega)
  have hcellExact := toNat_add_of_lt (a := y * sourceWidth) (b := x) (by omega)
  rw [hrowExact] at hcellExact
  have hscaled := toNat_mul_of_lt (a := y * sourceWidth + x) (b := scale) (by
    rw [hcellExact]; omega)
  rw [toNat_add_of_lt (by rw [hscaled, hcellExact]; omega), hscaled, hcellExact]

end

-- ---------------------------------------------------------------------------
-- What is drawn
-- ---------------------------------------------------------------------------

/-- A step from `start` that stays on an axis of the screen. -/
def OnAxis (start : Int32) (step size : UInt32) : Prop :=
  ¬ (start + step.toInt32 < 0 ∨ start + step.toInt32 ≥ size.toInt32)

instance (start : Int32) (step size : UInt32) : Decidable (OnAxis start step size) :=
  inferInstanceAs (Decidable (¬ _))

section
variable (framebufferInfo : FramebufferInfo) (x y : Int32)
  (drawWidth drawHeight sourceWidth sourceHeight : UInt32) (pixels alpha : List UInt8)

/-- The average of the four bytes around a position. -/
def scaledByte (table : List UInt8) (scale channel column row : UInt32) : UInt8 :=
  UInt8.ofNat ((sampleTerms table sourceWidth scale channel
    (samplePosition column drawWidth sourceWidth)
    (samplePosition row drawHeight sourceHeight)).average 32768)

def scaledColor (column row : UInt32) : Rgb :=
  let channel := scaledByte drawWidth drawHeight sourceWidth sourceHeight pixels 3
  ⟨channel 0 column row, channel 1 column row, channel 2 column row⟩

def scaledAlpha (column row : UInt32) : UInt8 :=
  scaledByte drawWidth drawHeight sourceWidth sourceHeight alpha 1 0 column row

def scaledAddress (column row : UInt32) : Nat :=
  framebufferInfo.pixelAddress (y + row.toInt32).toUInt32 (x + column.toInt32).toUInt32

/-- A pixel that has changed to its blend with the average colour. -/
def scaledBlend (column row pixel : UInt32) : UInt32 :=
  (alphaBlendPixel framebufferInfo pixel
    (scaledColor drawWidth drawHeight sourceWidth sourceHeight pixels column row)
    (scaledAlpha drawWidth drawHeight sourceWidth sourceHeight alpha column row)).getD pixel

def scaledPixel (row column : UInt32) : Draw :=
  if OnAxis x column framebufferInfo.screenWidth ∧ OnAxis y row framebufferInfo.screenHeight ∧
      scaledAlpha drawWidth drawHeight sourceWidth sourceHeight alpha column row ≠ 0 then
    [.modify (scaledAddress framebufferInfo x y column row) fun pixel =>
      alphaBlendPixel framebufferInfo pixel
        (scaledColor drawWidth drawHeight sourceWidth sourceHeight pixels column row)
        (scaledAlpha drawWidth drawHeight sourceWidth sourceHeight alpha column row)]
  else []

theorem roundedByte_eq_scaledByte (table : List UInt8) (scale channel column row : UInt32) :
    roundedByte (weightedSum table sourceWidth scale channel
        (samplePosition column drawWidth sourceWidth)
        (samplePosition row drawHeight sourceHeight)) =
      scaledByte drawWidth drawHeight sourceWidth sourceHeight table scale channel column row := by
  have haverage := (toNat_roundedByte_weightedSum (samplePosition_blend_lt column drawWidth
    sourceWidth) (samplePosition_blend_lt row drawHeight sourceHeight) table sourceWidth scale
    channel).1
  rw [scaledByte, ← haverage, UInt8.ofNat_toNat]

theorem silent_weightedFetches (table : List UInt8) (scale channel : UInt32) (column row : Sample) :
    silent (weightedFetches table sourceWidth scale channel column row) = [] := rfl

/-- Apart from its reads of the tables the drawing is its pixels. -/
theorem silent_drawImageNearestAlpha (hsource : sourceWidth ≠ 0 ∧ sourceHeight ≠ 0) :
    silent (drawImageNearestAlpha framebufferInfo x y drawWidth drawHeight sourceWidth sourceHeight
        pixels alpha) =
      (upTo drawHeight).flatMap fun row => (upTo drawWidth).flatMap fun column =>
        scaledPixel framebufferInfo x y drawWidth drawHeight sourceWidth sourceHeight pixels alpha
          row column := by
  unfold drawImageNearestAlpha
  split
  next hnone =>
    rw [silent_nil, eq_comm, List.flatMap_eq_nil_iff]
    intro row hrow
    rw [List.flatMap_eq_nil_iff]
    intro column hcolumn
    rw [mem_upTo] at hrow hcolumn
    rcases hnone with rfl | rfl | hnone
    · exact absurd hcolumn UInt32.not_lt_zero
    · exact absurd hrow UInt32.not_lt_zero
    · exact absurd hnone (not_or.mpr hsource)
  rw [silent_flatMap]
  refine List.flatMap_congr fun row _ => ?_
  dsimp only
  split
  next hy =>
    rw [silent_nil, eq_comm, List.flatMap_eq_nil_iff]
    exact fun column _ => if_neg fun h => h.2.1 hy
  next hy =>
  rw [silent_flatMap]
  refine List.flatMap_congr fun column _ => ?_
  rw [scaledPixel]
  split
  next hx => rw [silent_nil, if_neg fun h => h.1 hx]
  next hx =>
  rw [silent_append, silent_weightedFetches, List.nil_append, roundedByte_eq_scaledByte,
    ← scaledAlpha]
  split
  next halpha => rw [silent_nil, if_neg fun h => h.2.2 halpha]
  next halpha =>
  rw [if_pos ⟨hx, hy, halpha⟩, silent_append, silent_flatMap]
  simp only [silent_weightedFetches, roundedByte_eq_scaledByte]
  rfl

variable {framebufferInfo x y drawWidth drawHeight sourceWidth sourceHeight pixels alpha}
  {column row : UInt32}

theorem mem_written_scaledPixel (h : a ∈ written (scaledPixel framebufferInfo x y drawWidth
    drawHeight sourceWidth sourceHeight pixels alpha row column)) :
    (OnAxis x column framebufferInfo.screenWidth ∧ OnAxis y row framebufferInfo.screenHeight) ∧
      a = scaledAddress framebufferInfo x y column row := by
  rw [scaledPixel] at h
  split at h
  next hshown => exact ⟨⟨hshown.1, hshown.2.1⟩, List.mem_singleton.mp h⟩
  next => cases h

theorem applyAll_scaledPixel
    (hshown : OnAxis x column framebufferInfo.screenWidth ∧
      OnAxis y row framebufferInfo.screenHeight) (memory : Memory UInt32) :
    applyAll (scaledPixel framebufferInfo x y drawWidth drawHeight sourceWidth sourceHeight pixels
        alpha row column) memory (scaledAddress framebufferInfo x y column row) =
      scaledBlend framebufferInfo drawWidth drawHeight sourceWidth sourceHeight pixels alpha column
        row (memory (scaledAddress framebufferInfo x y column row)) := by
  rw [scaledPixel]
  split
  next => exact Function.update_self ..
  next halpha =>
    have hzero : scaledAlpha drawWidth drawHeight sourceWidth sourceHeight alpha column row = 0 :=
      by_contra fun h => halpha ⟨hshown.1, hshown.2, h⟩
    rw [scaledBlend, hzero]
    rfl

theorem scaledAddress_inj (hsized : framebufferInfo.Sized) {column' row' : UInt32}
    (hshown : OnAxis x column framebufferInfo.screenWidth ∧
      OnAxis y row framebufferInfo.screenHeight)
    (hshown' : OnAxis x column' framebufferInfo.screenWidth ∧
      OnAxis y row' framebufferInfo.screenHeight)
    (h : scaledAddress framebufferInfo x y column row =
      scaledAddress framebufferInfo x y column' row') : column = column' ∧ row = row' := by
  have hx := lt_of_shown hshown.1
  have hx' := lt_of_shown hshown'.1
  rw [scaledAddress, scaledAddress, hsized.pixelAddress (UInt32.le_of_lt hx) (lt_of_shown hshown.2),
    hsized.pixelAddress (UInt32.le_of_lt hx') (lt_of_shown hshown'.2),
    hsized.pixelAt_inj (UInt32.lt_iff_toNat_lt.mp hx) (UInt32.lt_iff_toNat_lt.mp hx'),
    UInt32.toNat_inj, UInt32.toNat_inj] at h
  have hstep {start : Int32} {step step' : UInt32}
      (h : (start + step.toInt32).toUInt32 = (start + step'.toInt32).toUInt32) : step = step' := by
    simpa using h
  exact ⟨hstep h.1, hstep h.2⟩

/-- A pixel of the image on the screen changes to its blend. -/
theorem applyAll_drawImageNearestAlpha (hsource : sourceWidth ≠ 0 ∧ sourceHeight ≠ 0)
    (hsized : framebufferInfo.Sized) (hcolumn : column < drawWidth) (hrow : row < drawHeight)
    (hshown : OnAxis x column framebufferInfo.screenWidth ∧
      OnAxis y row framebufferInfo.screenHeight) (memory : Memory UInt32) :
    applyAll (drawImageNearestAlpha framebufferInfo x y drawWidth drawHeight sourceWidth
        sourceHeight pixels alpha) memory (scaledAddress framebufferInfo x y column row) =
      scaledBlend framebufferInfo drawWidth drawHeight sourceWidth sourceHeight pixels alpha column
        row (memory (scaledAddress framebufferInfo x y column row)) := by
  have hsame {column' row'} (ha : scaledAddress framebufferInfo x y column row ∈
      written (scaledPixel framebufferInfo x y drawWidth drawHeight sourceWidth sourceHeight pixels
        alpha row' column')) : column = column' ∧ row = row' := by
    obtain ⟨hshown', haddress⟩ := mem_written_scaledPixel ha
    exact scaledAddress_inj hsized hshown hshown' haddress
  rw [← applyAll_silent, silent_drawImageNearestAlpha _ _ _ _ _ _ _ _ _ hsource]
  refine applyAll_flatMap_at (nodup_upTo drawHeight) (mem_upTo.mpr hrow)
    (fun row' _ hother ha => ?_) (fun memory => ?_) memory
  · obtain ⟨column', -, ha⟩ := mem_written_flatMap.mp ha
    exact hother (hsame ha).2.symm
  · exact applyAll_flatMap_at (nodup_upTo drawWidth) (mem_upTo.mpr hcolumn)
      (fun column' _ hother ha => hother (hsame ha).1.symm) (applyAll_scaledPixel hshown) memory

theorem applyAll_drawImageNearestAlpha_of_ne (hsource : sourceWidth ≠ 0 ∧ sourceHeight ≠ 0)
    (h : ∀ column row, column < drawWidth → row < drawHeight →
      OnAxis x column framebufferInfo.screenWidth → OnAxis y row framebufferInfo.screenHeight →
      a ≠ scaledAddress framebufferInfo x y column row) (memory : Memory UInt32) :
    applyAll (drawImageNearestAlpha framebufferInfo x y drawWidth drawHeight sourceWidth
      sourceHeight pixels alpha) memory a = memory a := by
  rw [← applyAll_silent, silent_drawImageNearestAlpha _ _ _ _ _ _ _ _ _ hsource]
  refine applyAll_frame (fun ha => ?_) memory
  obtain ⟨row, hrow, ha⟩ := mem_written_flatMap.mp ha
  obtain ⟨column, hcolumn, ha⟩ := mem_written_flatMap.mp ha
  obtain ⟨hshown, haddress⟩ := mem_written_scaledPixel ha
  exact h column row (mem_upTo.mp hcolumn) (mem_upTo.mp hrow) hshown.1 hshown.2 haddress

end

structure Scaling (drawWidth drawHeight sourceWidth sourceHeight : UInt32) : Prop where
  columns : Sampled drawWidth sourceWidth
  rows : Sampled drawHeight sourceHeight
  weights : ∀ column row : UInt32,
    ((sampleWeights (samplePosition column drawWidth sourceWidth)
      (samplePosition row drawHeight sourceHeight)).map UInt32.toNat).sum = 65536
  /-- Each channel is the average of the four bytes with these weights. -/
  average : ∀ (column row : UInt32) (table : List UInt8) (scale channel : UInt32),
    let sampleX := samplePosition column drawWidth sourceWidth
    let sampleY := samplePosition row drawHeight sourceHeight
    let sum := weightedSum table sourceWidth scale channel sampleX sampleY
    sum.toNat = (sampleTerms table sourceWidth scale channel sampleX sampleY).weighted ∧
    ((sum + 32768) >>> 16).toNat ≤ 255 ∧
    roundedByte sum =
      scaledByte drawWidth drawHeight sourceWidth sourceHeight table scale channel column row ∧
    (roundedByte sum).toNat =
      (sampleTerms table sourceWidth scale channel sampleX sampleY).average 32768 ∧
    ∀ low high,
      (∀ byte ∈ sampleBytes table sourceWidth scale channel sampleX sampleY, low ≤ byte) →
      (∀ byte ∈ sampleBytes table sourceWidth scale channel sampleX sampleY, byte ≤ high) →
      low ≤ roundedByte sum ∧ roundedByte sum ≤ high
  index : ∀ scale channel x y : UInt32, x < sourceWidth → y < sourceHeight → channel < scale →
    sourceWidth.toNat * sourceHeight.toNat * scale.toNat ≤ 2 ^ 32 →
    ((y * sourceWidth + x) * scale + channel).toNat =
      (y.toNat * sourceWidth.toNat + x.toNat) * scale.toNat + channel.toNat
  /-- A pixel of the image on the screen is blended with the averages at its position. -/
  drawn : ∀ (framebufferInfo : FramebufferInfo) (x y : Int32) (pixels alpha : List UInt8)
    (memory : Memory UInt32), framebufferInfo.Sized → ∀ column row, column < drawWidth →
    row < drawHeight → OnAxis x column framebufferInfo.screenWidth →
    OnAxis y row framebufferInfo.screenHeight →
    applyAll (drawImageNearestAlpha framebufferInfo x y drawWidth drawHeight sourceWidth
        sourceHeight pixels alpha) memory (scaledAddress framebufferInfo x y column row) =
      scaledBlend framebufferInfo drawWidth drawHeight sourceWidth sourceHeight pixels alpha column
        row (memory (scaledAddress framebufferInfo x y column row))
  kept : ∀ (framebufferInfo : FramebufferInfo) (x y : Int32) (pixels alpha : List UInt8)
    (memory : Memory UInt32) (a : Nat), (∀ column row, column < drawWidth → row < drawHeight →
      OnAxis x column framebufferInfo.screenWidth → OnAxis y row framebufferInfo.screenHeight →
      a ≠ scaledAddress framebufferInfo x y column row) →
    applyAll (drawImageNearestAlpha framebufferInfo x y drawWidth drawHeight sourceWidth
      sourceHeight pixels alpha) memory a = memory a
  /-- The drawing reads the tables of an image inside their bounds. -/
  reads : ∀ (pixels alpha : List UInt8),
    pixels.length = sourceWidth.toNat * sourceHeight.toNat * 3 →
    alpha.length = sourceWidth.toNat * sourceHeight.toNat →
    ∀ (framebufferInfo : FramebufferInfo) (x y : Int32) (index length : Nat),
      .note (.fetch index length) ∈ drawImageNearestAlpha framebufferInfo x y drawWidth
        drawHeight sourceWidth sourceHeight pixels alpha → index < length

/-- Scaling samples inside the image, in order and from edge to edge, and every
channel is an average of the four pixels around its position. -/
theorem drawImageNearestAlpha_scaling {drawWidth drawHeight sourceWidth sourceHeight : UInt32}
    (hsourceWidth : sourceWidth ≠ 0) (hsourceHeight : sourceHeight ≠ 0)
    (hcolumns : drawWidth.toNat * sourceWidth.toNat * 256 < 2 ^ 32)
    (hrows : drawHeight.toNat * sourceHeight.toNat * 256 < 2 ^ 32) :
    Scaling drawWidth drawHeight sourceWidth sourceHeight where
  columns := sampled hsourceWidth hcolumns
  rows := sampled hsourceHeight hrows
  weights column row := sum_sampleWeights (samplePosition_blend_lt _ _ _)
    (samplePosition_blend_lt _ _ _)
  average column row table scale channel := by
    have hx := samplePosition_blend_lt column drawWidth sourceWidth
    have hy := samplePosition_blend_lt row drawHeight sourceHeight
    have haverage := toNat_roundedByte_weightedSum hx hy table sourceWidth scale channel
    exact ⟨toNat_weightedSum hx hy _ _ _ _, haverage.2, roundedByte_eq_scaledByte .., haverage.1,
      fun low high hlow hhigh => roundedByte_between hx hy _ _ _ _ hlow hhigh⟩
  index scale channel x y hx hy hchannel htable := toNat_tableIndex hx hy hchannel htable
  drawn framebufferInfo x y pixels alpha memory hsized column row hcolumn hrow hx hy :=
    applyAll_drawImageNearestAlpha ⟨hsourceWidth, hsourceHeight⟩ hsized hcolumn hrow ⟨hx, hy⟩ memory
  kept framebufferInfo x y pixels alpha memory a h :=
    applyAll_drawImageNearestAlpha_of_ne ⟨hsourceWidth, hsourceHeight⟩ h memory
  reads pixels alpha hpixels halpha framebufferInfo x y index length h :=
    fetch_lt_of_drawImageNearestAlpha hpixels halpha h

/-- An icon of 512 by 512 pixels drawn 420 pixels high. -/
theorem drawImageNearestAlpha_scaling_icon : Scaling 420 420 512 512 :=
  drawImageNearestAlpha_scaling (by decide) (by decide) (by decide) (by decide)

end DragonOS.Boot
