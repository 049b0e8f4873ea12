import DragonOS.Build.Bitmap

/-!
# What the loader reads

The header of a bitmap stands at fixed places: `readHeader_ok` says which files have one.
Past it the loader reads one pixel after another (`load_eq`), each from a place that the
row stride decides.
-/

namespace DragonOS.Build.BmpLoader

open Lib
open IsoReader (littleEndianValue)

-- ---------------------------------------------------------------------------
-- The header
-- ---------------------------------------------------------------------------

def int32At (bytes : Bytes) (offset : Nat) : Int := int32 (littleEndianValue (slice bytes offset 4))

def uint16At (bytes : Bytes) (offset : Nat) : Nat := littleEndianValue (slice bytes offset 2)

def headerOf (bytes : Bytes) : Header where
  dataOffset := int32At bytes 10
  dibSize := int32At bytes 14
  width := int32At bytes 18
  rawHeight := int32At bytes 22
  bitsPerPixel := uint16At bytes 28
  compression := int32At bytes 30

-- By rewriting: `rfl` would unfold the numbers.
@[simp] theorem dataOffset_headerOf (bytes : Bytes) :
    (headerOf bytes).dataOffset = int32At bytes 10 := by rw [headerOf]

@[simp] theorem dibSize_headerOf (bytes : Bytes) :
    (headerOf bytes).dibSize = int32At bytes 14 := by rw [headerOf]

@[simp] theorem width_headerOf (bytes : Bytes) :
    (headerOf bytes).width = int32At bytes 18 := by rw [headerOf]

@[simp] theorem rawHeight_headerOf (bytes : Bytes) :
    (headerOf bytes).rawHeight = int32At bytes 22 := by rw [headerOf]

@[simp] theorem bitsPerPixel_headerOf (bytes : Bytes) :
    (headerOf bytes).bitsPerPixel = uint16At bytes 28 := by rw [headerOf]

@[simp] theorem compression_headerOf (bytes : Bytes) :
    (headerOf bytes).compression = int32At bytes 30 := by rw [headerOf]

structure Accepted (bytes : Bytes) : Prop where
  length : 54 ≤ bytes.length
  magic : slice bytes 0 2 = asciiBytes "BM"
  dibSize : 40 ≤ int32At bytes 14
  width : 0 < int32At bytes 18
  rawHeight : int32At bytes 22 ≠ 0
  planes : uint16At bytes 26 = 1
  compression : int32At bytes 30 = 0 ∨ int32At bytes 30 = 3 ∧ uint16At bytes 28 = 32

section
variable {bytes : Bytes} {header : Header}

theorem readSpan_eq {offset : Int} {length : Nat} (hoffset : 0 ≤ offset) (h : offset + length ≤ bytes.length) :
    readSpan bytes offset length = .ok (slice bytes offset.toNat length) := if_pos ⟨hoffset, h⟩

theorem readInt32_eq {offset : Int} (hoffset : 0 ≤ offset) (h : offset + 4 ≤ bytes.length) :
    readInt32 bytes offset = .ok (int32At bytes offset.toNat) := by
  rw [readInt32, readSpan_eq hoffset h, ok_bind, int32At]

theorem readUInt16_eq {offset : Int} (hoffset : 0 ≤ offset) (h : offset + 2 ≤ bytes.length) :
    readUInt16 bytes offset = .ok (uint16At bytes offset.toNat) := by
  rw [readUInt16, readSpan_eq hoffset h, ok_bind, uint16At]

theorem readHeader_ok : readHeader bytes = .ok header ↔ Accepted bytes ∧ header = headerOf bytes := by
  by_cases hlength : 54 ≤ bytes.length
  · have hread : ∀ offset : Nat, offset ≤ 50 →
        readInt32 bytes offset = .ok (int32At bytes offset) :=
      fun offset hhigh => readInt32_eq (Int.natCast_nonneg _) (by omega)
    have hread16 : ∀ offset : Nat, offset ≤ 50 →
        readUInt16 bytes offset = .ok (uint16At bytes offset) :=
      fun offset hhigh => readUInt16_eq (Int.natCast_nonneg _) (by omega)
    have hdataOffset : readInt32 bytes 10 = _ := hread 10 (by decide)
    have hdibSize : readInt32 bytes 14 = _ := hread 14 (by decide)
    have hwidth : readInt32 bytes 18 = _ := hread 18 (by decide)
    have hrawHeight : readInt32 bytes 22 = _ := hread 22 (by decide)
    have hplanes : readUInt16 bytes 26 = _ := hread16 26 (by decide)
    have hbitsPerPixel : readUInt16 bytes 28 = _ := hread16 28 (by decide)
    have hcompression : readInt32 bytes 30 = _ := hread 30 (by decide)
    simp only [readHeader, hdataOffset, hdibSize, hwidth, hrawHeight, hplanes, hbitsPerPixel,
      hcompression, bind_ok, throwIf_ok, Except.ok.injEq, exists_eq_left']
    constructor
    · rintro ⟨-, hmagic, -, hdib, -, hsize, -, hplanes, -, hcompression, rfl⟩
      rw [not_or] at hmagic hsize
      rw [not_and_not_right] at hcompression
      exact ⟨⟨hlength, not_not.mp hmagic.2, Int.not_lt.mp hdib, Int.not_le.mp hsize.1, hsize.2,
        not_not.mp hplanes, or_iff_not_imp_left.mpr hcompression⟩, rfl⟩
    · rintro ⟨h, rfl⟩
      refine ⟨(), ?_, (), Int.not_lt.mpr h.dibSize, (), ?_, (), not_not.mpr h.planes, (), ?_, rfl⟩
      · exact not_or.mpr ⟨Nat.not_lt.mpr hlength, not_not.mpr h.magic⟩
      · exact not_or.mpr ⟨Int.not_le.mpr h.width, h.rawHeight⟩
      · exact not_and_not_right.mpr (or_iff_not_imp_left.mp h.compression)
  · refine iff_of_false (fun h => ?_) fun h => hlength h.1.length
    rw [readHeader, bind_ok] at h
    obtain ⟨_, hthrow, -⟩ := h
    exact throwIf_ok.mp hthrow (.inl (Nat.not_le.mp hlength))

-- ---------------------------------------------------------------------------
-- The pixels
-- ---------------------------------------------------------------------------

/-- Each part of a pixel comes from its own mask. -/
theorem of_readBitfields {colors : Colors} {pixel : Pixel}
    (h : readBitfields colors packedPixel = .ok pixel) :
    extractBitfieldChannel packedPixel colors.redMask = .ok pixel.1.r ∧
      extractBitfieldChannel packedPixel colors.greenMask = .ok pixel.1.g ∧
      extractBitfieldChannel packedPixel colors.blueMask = .ok pixel.1.b ∧
      ∃ alpha, pixel.2 = some alpha ∧
        (colors.alphaMask ≠ 0 → extractBitfieldChannel packedPixel colors.alphaMask = .ok alpha) := by
  simp only [readBitfields, bind_ok] at h
  obtain ⟨r, hr, g, hg, b, hb, h⟩ := h
  split at h
  next halpha =>
    obtain ⟨alpha, hvalue, h⟩ := bind_ok.mp h
    obtain rfl := Except.ok.inj h
    exact ⟨hr, hg, hb, alpha, rfl, fun _ => hvalue⟩
  next halpha =>
    obtain rfl := Except.ok.inj h
    exact ⟨hr, hg, hb, 255, rfl, fun hmask => absurd hmask halpha⟩

theorem isSome_readBitfields {colors : Colors} {pixel : Pixel}
    (h : readBitfields colors packedPixel = .ok pixel) : pixel.2.isSome = true := by
  obtain ⟨-, -, -, alpha, halpha, -⟩ := of_readBitfields h
  rw [halpha, Option.isSome_some]

theorem readPixel_alpha {colors : Colors} {rowStart x : Int} {pixel : Pixel}
    (h : readPixel bytes header colors rowStart x = .ok pixel) :
    pixel.2.isSome = decide (header.bitsPerPixel = 32) := by
  unfold readPixel at h
  split at h
  next hbits =>
    obtain ⟨color, -, h⟩ := bind_ok.mp h
    obtain rfl := Except.ok.inj h
    rw [hbits]
    rfl
  next hbits =>
    rw [hbits]
    dsimp only at h
    split at h
    · obtain ⟨packedPixel, -, h⟩ := bind_ok.mp h
      exact isSome_readBitfields h
    · obtain ⟨color, -, h⟩ := bind_ok.mp h
      obtain ⟨alpha, -, h⟩ := bind_ok.mp h
      obtain rfl := Except.ok.inj h
      rfl
  next hbits =>
    rw [hbits]
    obtain ⟨paletteIndex, -, h⟩ := bind_ok.mp h
    split at h
    · obtain rfl := Except.ok.inj h
      rfl
    · cases h
  next => cases h

def imageOf (header : Header) (width height : Nat) (pixels : List Pixel) : BmpImage where
  width
  height
  pixels := pixels.map Prod.fst
  alpha := if header.bitsPerPixel = 32 then some (pixels.map fun pixel => pixel.2.getD 0) else none

theorem load_eq {width height : Nat} {colors : Colors} (hheader : readHeader bytes = .ok header)
    (hwidth : header.width = width) (hheight : |header.rawHeight| = height) (hpos : 0 < width)
    (hsize : height * width < 2 ^ 31) (hcolors : readColors bytes header = .ok colors) :
    load bytes = (List.range (height * width)).mapM
        (fun i => readPixel bytes header colors (rowStart header height (i / width)) (i % width : Nat))
        >>= fun pixels => .ok (imageOf header width height pixels) := by
  have hsmall : height < 2 ^ 31 := (Nat.le_mul_of_pos_right _ hpos).trans_lt hsize
  have habsolute : absolute header.rawHeight = .ok (height : Int) := by
    rw [absolute, if_neg, hheight]
    intro hleast
    rw [hleast, abs_neg, abs_of_nonneg (by decide)] at hheight
    omega
  have harrays : newArrays (decide (header.bitsPerPixel = 32)) (int32 (width * height)) =
      .ok (filled (decide (header.bitsPerPixel = 32)) (height * width) []) := by
    rw [← Int.natCast_mul, Nat.mul_comm, int32_natCast hsize]
    exact newArrays_eq _ _
  rw [load, liftM_eq hheader, ok_bind, liftM_eq habsolute, ok_bind, hwidth, liftM_eq harrays,
    ok_bind, liftM_eq hcolors, ok_bind,
    forEachPixel_eq hsize fun y x pixel hpixel => readPixel_alpha hpixel]
  cases hread : (List.range (height * width)).mapM fun i =>
      readPixel bytes header colors (rowStart header height (i / width)) (i % width : Nat) with
  | error failure => rfl
  | ok pixels =>
    simp only [ok_bind, filled_full _ (mapM_range_ok.mp hread).1, decide_eq_true_eq, imageOf]

-- ---------------------------------------------------------------------------
-- Rows
-- ---------------------------------------------------------------------------

def rowSize (width bitsPerPixel : Nat) : Nat := (width * bitsPerPixel + 31) / 32 * 4

theorem rowStride_eq {width : Nat} (hwidth : header.width = width)
    (hfits : width * header.bitsPerPixel + 31 < 2 ^ 31) :
    header.rowStride = rowSize width header.bitsPerPixel := by
  have hsmall : rowSize width header.bitsPerPixel < 2 ^ 31 := by
    rw [rowSize]
    omega
  have hsum : int32 ((width * header.bitsPerPixel : Nat) + 31) =
      (width * header.bitsPerPixel + 31 : Nat) := int32_natCast hfits
  rw [Header.rowStride, hwidth, ← Int.natCast_mul, int32_natCast (by omega), hsum]
  exact int32_natCast hsmall

end

end DragonOS.Build.BmpLoader
