import DragonOS.Build.BitfieldChannel
import DragonOS.Build.BitmapRows
import DragonOS.Build.BitmapWriting

/-!
# Bitmaps upside down

A bitmap with a negative height has its rows in the opposite order. `load_upsideDown_iff` says
when a file loads to the same image after its rows are reversed and its height is negated: the
loader has to find the rows, for which the number of bits in a row must not overflow.
-/

namespace DragonOS.Build.BmpLoader

open Lib
open SampleBitmapWriter (int32Bytes)

-- ---------------------------------------------------------------------------
-- One color
-- ---------------------------------------------------------------------------

/-- All bytes are the same pixel: the palette is full and of one color, or there are no bit
fields. -/
def OneColor (header : Header) (colors : Colors) : Prop :=
  (header.bitsPerPixel = 8 ∧
    ∃ color, ∀ index < 256, colors.palette.bind (·[index]?) = some color) ∨
  (header.bitsPerPixel = 32 ∧ header.compression = 3 ∧ colors.redMask = 0 ∧ colors.greenMask = 0 ∧
    colors.blueMask = 0 ∧ colors.alphaMask = 0)

section
variable {header : Header} {colors : Colors}

theorem OneColor.decode (h : OneColor header colors) :
    ∃ pixel, ∀ raw, decode header colors raw = .ok pixel := by
  rcases h with ⟨hbits, color, hcolor⟩ | ⟨hbits, hcompression, hred, hgreen, hblue, halpha⟩
  · refine ⟨(color, none), fun raw => ?_⟩
    simp only [BmpLoader.decode, hbits, hcolor _ (raw.getD 0 0).toNat_lt]
  · refine ⟨(⟨0, 0, 0⟩, some 255), fun raw => ?_⟩
    simp only [BmpLoader.decode, hbits, if_pos hcompression, readBitfields, hred, hgreen, hblue,
      halpha]
    rfl

def KeepsColor (header : Header) (colors : Colors) (color : Rgb24) (alpha : UInt8) : Prop :=
  ∀ raw : Bytes, raw.length = header.bytesPerPixel → ∃ pixel,
    decode header colors raw = .ok pixel ∧ pixel.1 = color ∧
      (header.bitsPerPixel = 32 → pixel.2.getD 0 = alpha)

theorem KeepsColor.masks (h : KeepsColor header colors color alpha)
    (hbits : header.bitsPerPixel = 32) (hcompression : header.compression = 3) :
    colors.redMask = 0 ∧ colors.greenMask = 0 ∧ colors.blueMask = 0 ∧ colors.alphaMask = 0 := by
  have hpixel : ∀ packedPixel, ∃ pixel, readBitfields colors packedPixel = .ok pixel ∧
      pixel.1 = color ∧ pixel.2.getD 0 = alpha := by
    intro packedPixel
    obtain ⟨pixel, hdecode, hcolor, halpha⟩ := h (littleEndian32 packedPixel) (by
      rw [Header.bytesPerPixel, hbits]
      rfl)
    have hword : wordOf (littleEndian32 packedPixel) = packedPixel := by
      rw [wordOf, IsoReader.littleEndianValue_littleEndian32, UInt32.ofNat_toNat]
    simp only [BmpLoader.decode, hbits, if_pos hcompression, hword] at hdecode
    exact ⟨pixel, hdecode, hcolor, halpha hbits⟩
  refine ⟨mask_eq_zero color.r fun packedPixel => ?_, mask_eq_zero color.g fun packedPixel => ?_,
    mask_eq_zero color.b fun packedPixel => ?_, ?_⟩
  · obtain ⟨pixel, hpixel, hcolor, -⟩ := hpixel packedPixel
    rw [(of_readBitfields hpixel).1, hcolor]
  · obtain ⟨pixel, hpixel, hcolor, -⟩ := hpixel packedPixel
    rw [(of_readBitfields hpixel).2.1, hcolor]
  · obtain ⟨pixel, hpixel, hcolor, -⟩ := hpixel packedPixel
    rw [(of_readBitfields hpixel).2.2.1, hcolor]
  · by_contra hmask
    refine hmask (mask_eq_zero alpha fun packedPixel => ?_)
    obtain ⟨pixel, hpixel, -, hkept⟩ := hpixel packedPixel
    obtain ⟨-, -, -, value, hvalue, hextract⟩ := of_readBitfields hpixel
    rw [hextract hmask, ← hkept, hvalue, Option.getD_some]

theorem KeepsColor.oneColor (h : KeepsColor header colors color alpha)
    (hsupported : header.Supported) : OneColor header colors := by
  have hraw : ∀ raw : Bytes, raw.length * 8 = header.bitsPerPixel →
      raw.length = header.bytesPerPixel := fun raw hbits => by
    rw [Header.bytesPerPixel, ← hbits, Nat.mul_div_cancel _ (by decide)]
  rcases hsupported with hbits | hbits | hbits
  · refine .inl ⟨hbits, color, fun index hindex => ?_⟩
    obtain ⟨pixel, hpixel, hcolor, -⟩ := h [UInt8.ofNat index] (hraw _ hbits.symm)
    have hvalue : ([UInt8.ofNat index].getD 0 0).toNat = index := toNat_byte (by omega)
    simp only [BmpLoader.decode, hbits, hvalue] at hpixel
    split at hpixel
    next found hfound =>
      obtain rfl := Except.ok.inj hpixel
      exact hfound.trans (congrArg some hcolor)
    next => cases hpixel
  · obtain ⟨dark, hdark, rfl, -⟩ := h [0, 0, 0] (hraw _ hbits.symm)
    obtain ⟨light, hlight, hcolor, -⟩ := h [1, 0, 0] (hraw _ hbits.symm)
    simp only [BmpLoader.decode, hbits, Except.ok.injEq] at hdark hlight
    rw [← hdark, ← hlight] at hcolor
    exact absurd hcolor (by decide)
  · by_cases hcompression : header.compression = 3
    · exact .inr ⟨hbits, hcompression, h.masks hbits hcompression⟩
    · obtain ⟨dark, hdark, rfl, -⟩ := h [0, 0, 0, 0] (hraw _ hbits.symm)
      obtain ⟨light, hlight, hcolor, -⟩ := h [1, 0, 0, 0] (hraw _ hbits.symm)
      simp only [BmpLoader.decode, hbits, if_neg hcompression, Except.ok.injEq] at hdark hlight
      rw [← hdark, ← hlight] at hcolor
      exact absurd hcolor (by decide)

end

-- ---------------------------------------------------------------------------
-- Turning a file
-- ---------------------------------------------------------------------------

theorem readColors_of_load {bytes : Bytes} {image : BmpImage} (h : load bytes = .ok image) :
    ∃ colors, readColors bytes (headerOf bytes) = .ok colors := by
  rw [load, bind_ok] at h
  obtain ⟨header, hheader, h⟩ := h
  obtain ⟨height, -, h⟩ := bind_ok.mp h
  obtain ⟨arrays, -, h⟩ := bind_ok.mp h
  obtain ⟨colors, hcolors, -⟩ := bind_ok.mp h
  obtain ⟨-, rfl⟩ := readHeader_ok.mp (liftM_ok.mp hheader)
  exact ⟨colors, liftM_ok.mp hcolors⟩

def rowLength (bytes : Bytes) : Nat := rowSize (int32At bytes 18).toNat (uint16At bytes 28)

def turnedRows (bytes : Bytes) (height : Nat) : Bytes :=
  blocks height fun row =>
    slice bytes (dataStart bytes + (height - 1 - row) * rowLength bytes) (rowLength bytes)

def upsideDown (bytes : Bytes) : Bytes :=
  overwrite (overwrite bytes 22 (int32Bytes (-int32At bytes 22))) (dataStart bytes)
    (turnedRows bytes (int32At bytes 22).toNat)

def paletteCount (bytes : Bytes) : Int := if int32At bytes 46 ≤ 0 then 256 else int32At bytes 46

/-- A file with its rows from the bottom to the top, behind everything else. -/
structure BottomUp (bytes : Bytes) (width height : Nat) : Prop where
  accepted : Accepted bytes
  upward : 0 < int32At bytes 22
  rows : FullRows bytes (headerOf bytes) width height
  header : 14 + int32At bytes 14 ≤ int32At bytes 10
  palette : uint16At bytes 28 = 8 →
    14 + int32At bytes 14 + 4 * paletteCount bytes ≤ int32At bytes 10
  masks : int32At bytes 30 = 3 → 70 ≤ int32At bytes 10

/-- Files that are the same between the height and the rows, where the colors are. -/
structure SameColors (bytes other : Bytes) : Prop where
  length : other.length = bytes.length
  middle : ∀ start part, 26 ≤ start → start + part ≤ dataStart bytes →
    slice other start part = slice bytes start part

def Header.negated (header : Header) : Header := { header with rawHeight := -header.rawHeight }

section
variable {bytes other : Bytes} {header : Header} {width height : Nat}

theorem FullRows.negated (h : FullRows bytes header width height)
    (hlength : other.length = bytes.length) : FullRows other header.negated width height where
  columns := h.columns
  rows := (abs_neg _).trans h.rows
  supported := h.supported
  dataOffset := h.dataOffset
  present := hlength ▸ h.present
  small := hlength ▸ h.small

theorem FullRows.load_negated_ok (h : FullRows bytes header.negated width height)
    (hheader : readHeader bytes = .ok header.negated) {colors : Colors}
    (hcolors : readColors bytes header.negated = .ok colors) {image : BmpImage} :
    load bytes = .ok image ↔ ∃ pixels : List Pixel, pixels.length = height * width ∧
      (∀ i pixel, pixels[i]? = some pixel →
        PixelAt bytes header.negated colors width height i pixel) ∧
      imageOf header width height pixels = image := h.load_ok hheader hcolors

theorem readColors_negated (bytes : Bytes) (header : Header) :
    readColors bytes header.negated = readColors bytes header := rfl

theorem FullRows.pixelPlace_negated_nonneg (h : FullRows bytes header width height)
    (hwidth : 0 < width) (hheight : 0 < height)
    (hplaces : ∀ i < height * width, 0 ≤ pixelPlace header height (i / width) (i % width)) :
    ∀ i < height * width, 0 ≤ pixelPlace header.negated height (i / width) (i % width) :=
  ((h.negated rfl).pixelPlace_nonneg_iff hwidth hheight).mpr
    ((h.pixelPlace_nonneg_iff hwidth hheight).mp hplaces)

@[simp] theorem decode_negated (header : Header) : decode header.negated = decode header := rfl

@[simp] theorem bytesPerPixel_negated (header : Header) :
    header.negated.bytesPerPixel = header.bytesPerPixel := rfl

theorem pixelPlace_upward (hupward : 0 < header.rawHeight) (height : Int) (y x : Nat) :
    pixelPlace header height y x = header.dataOffset + (height - 1 - y) * header.rowStride +
      (x * header.bytesPerPixel : Nat) := by
  rw [pixelPlace, storedRow, if_neg (Int.not_lt.mpr hupward.le)]

theorem pixelPlace_negated (hupward : 0 < header.rawHeight) (height : Int) (y x : Nat) :
    pixelPlace header.negated height y x = header.dataOffset + y * header.rowStride +
      (x * header.bytesPerPixel : Nat) := by
  have hdown : header.negated.rawHeight < 0 := Int.neg_neg_of_pos hupward
  rw [pixelPlace, storedRow, if_pos hdown]
  rfl

end

namespace BottomUp

variable {bytes : Bytes} {width height : Nat}

theorem le_dataStart (h : BottomUp bytes width height) : 54 ≤ dataStart bytes := by
  have hstart := h.rows.dataStart_eq
  have hheader := h.header
  have hdib := h.accepted.dibSize
  omega

theorem height_eq (h : BottomUp bytes width height) : int32At bytes 22 = height := by
  have hrows := h.rows.rows
  rwa [rawHeight_headerOf, abs_of_pos h.upward] at hrows

theorem rowLength_eq (h : BottomUp bytes width height) :
    rowLength bytes = rowSize width (uint16At bytes 28) := by
  have hcolumns := h.rows.columns
  rw [width_headerOf] at hcolumns
  rw [rowLength, hcolumns, Int.toNat_natCast]

theorem present (h : BottomUp bytes width height) :
    dataStart bytes + height * rowLength bytes ≤ bytes.length := by
  have hpresent := h.rows.present
  rw [bitsPerPixel_headerOf, dataOffset_headerOf, ← h.rows.dataStart_eq, ← h.rowLength_eq]
    at hpresent
  omega

theorem row_fits (h : BottomUp bytes width height) {row : Nat} (hrow : row < height) :
    dataStart bytes + row * rowLength bytes + rowLength bytes ≤ bytes.length := by
  have hpresent := h.present
  have hrows : row * rowLength bytes + rowLength bytes ≤ height * rowLength bytes := by
    rw [← Nat.succ_mul]
    exact Nat.mul_le_mul_right _ hrow
  omega

theorem length_turnedRow (h : BottomUp bytes width height) (row : Nat) (hrow : row < height) :
    (slice bytes (dataStart bytes + (height - 1 - row) * rowLength bytes)
      (rowLength bytes)).length = rowLength bytes :=
  length_slice (h.row_fits (by omega))

theorem length_turnedRows (h : BottomUp bytes width height) :
    (turnedRows bytes height).length = height * rowLength bytes :=
  length_blocks h.length_turnedRow

theorem upsideDown_eq (h : BottomUp bytes width height) : upsideDown bytes =
    overwrite (overwrite bytes 22 (int32Bytes (-height))) (dataStart bytes)
      (turnedRows bytes height) := by
  rw [upsideDown, h.height_eq, Int.toNat_natCast]

theorem field_fits (h : BottomUp bytes width height) (value : Int) :
    22 + (int32Bytes value).length ≤ bytes.length := by
  have hlength := h.accepted.length
  rw [SampleBitmapWriter.length_int32Bytes]
  omega

theorem length_negated (h : BottomUp bytes width height) :
    (overwrite bytes 22 (int32Bytes (-height))).length = bytes.length :=
  length_overwrite (h.field_fits _)

theorem rows_fit (h : BottomUp bytes width height) :
    dataStart bytes + (turnedRows bytes height).length ≤
      (overwrite bytes 22 (int32Bytes (-height))).length := by
  rw [h.length_turnedRows, h.length_negated]
  exact h.present

theorem length_upsideDown (h : BottomUp bytes width height) :
    (upsideDown bytes).length = bytes.length := by
  rw [h.upsideDown_eq, length_overwrite h.rows_fit, h.length_negated]

theorem slice_front (h : BottomUp bytes width height) {start part : Nat}
    (hbeside : start + part ≤ 22 ∨ 26 ≤ start) (hinside : start + part ≤ dataStart bytes) :
    slice (upsideDown bytes) start part = slice bytes start part := by
  rw [h.upsideDown_eq, slice_overwrite_of_disjoint h.rows_fit (.inl hinside),
    slice_overwrite_of_disjoint (h.field_fits _) hbeside]

theorem slice_height (h : BottomUp bytes width height) :
    slice (upsideDown bytes) 22 4 = int32Bytes (-height) := by
  have hstart := h.le_dataStart
  rw [h.upsideDown_eq, slice_overwrite_of_disjoint h.rows_fit (.inl (by omega))]
  exact slice_overwrite_self (h.field_fits _)

theorem slice_row (h : BottomUp bytes width height) {y place part : Nat} (hy : y < height)
    (hinside : place + part ≤ rowLength bytes) :
    slice (upsideDown bytes) (dataStart bytes + (y * rowLength bytes + place)) part =
      slice bytes (dataStart bytes + (height - 1 - y) * rowLength bytes + place) part := by
  have hrow : y * rowLength bytes + place + part ≤ (turnedRows bytes height).length := by
    have hrows : y * rowLength bytes + rowLength bytes ≤ height * rowLength bytes := by
      rw [← Nat.succ_mul]
      exact Nat.mul_le_mul_right _ hy
    rw [h.length_turnedRows]
    omega
  rw [h.upsideDown_eq, slice_overwrite_inside h.rows_fit hrow, turnedRows,
    slice_blocks_inside h.length_turnedRow hy hinside, slice_slice _ hinside]

-- ---------------------------------------------------------------------------
-- What is in front of the rows
-- ---------------------------------------------------------------------------

theorem int32At_front (h : BottomUp bytes width height) (start : Nat)
    (hbeside : start + 4 ≤ 22 ∨ 26 ≤ start ∧ start + 4 ≤ 54) :
    int32At (upsideDown bytes) start = int32At bytes start := by
  have hstart := h.le_dataStart
  rw [int32At, h.slice_front (by omega) (by omega), int32At]

theorem uint16At_front (h : BottomUp bytes width height) (start : Nat)
    (hbeside : start + 2 ≤ 22 ∨ 26 ≤ start ∧ start + 2 ≤ 54) :
    uint16At (upsideDown bytes) start = uint16At bytes start := by
  have hstart := h.le_dataStart
  rw [uint16At, h.slice_front (by omega) (by omega), uint16At]

theorem int32At_height (h : BottomUp bytes width height) :
    int32At (upsideDown bytes) 22 = -height := by
  have hmost : (height : Int) < 2 ^ 31 := by
    rw [← h.height_eq, int32At, int32]
    exact Int.bmod_lt (by decide)
  rw [int32At, h.slice_height, int32_littleEndianValue (by omega) (by omega)]

theorem headerOf_upsideDown (h : BottomUp bytes width height) :
    headerOf (upsideDown bytes) = (headerOf bytes).negated := by
  simp only [headerOf, Header.negated, h.height_eq, h.int32At_height, h.int32At_front 10 (by decide),
    h.int32At_front 14 (by decide), h.int32At_front 18 (by decide),
    h.uint16At_front 28 (by decide), h.int32At_front 30 (by decide)]

theorem accepted_upsideDown (h : BottomUp bytes width height) : Accepted (upsideDown bytes) := by
  have hstart := h.le_dataStart
  have hupward := h.upward
  rw [h.height_eq] at hupward
  refine ⟨?_, ?_, ?_, ?_, ?_, ?_, ?_⟩
  · rw [h.length_upsideDown]
    exact h.accepted.length
  · rw [h.slice_front (.inl (by decide)) (by omega)]
    exact h.accepted.magic
  · rw [h.int32At_front 14 (by decide)]
    exact h.accepted.dibSize
  · rw [h.int32At_front 18 (by decide)]
    exact h.accepted.width
  · rw [h.int32At_height]
    omega
  · rw [h.uint16At_front 26 (by decide)]
    exact h.accepted.planes
  · rw [h.int32At_front 30 (by decide), h.uint16At_front 28 (by decide)]
    exact h.accepted.compression

theorem rows_upsideDown (h : BottomUp bytes width height) :
    FullRows (upsideDown bytes) (headerOf (upsideDown bytes)) width height := by
  rw [h.headerOf_upsideDown]
  exact h.rows.negated h.length_upsideDown

-- ---------------------------------------------------------------------------
-- Colors
-- ---------------------------------------------------------------------------

theorem sameColors_upsideDown (h : BottomUp bytes width height) :
    SameColors bytes (upsideDown bytes) where
  length := h.length_upsideDown
  middle _ _ hlow hhigh := h.slice_front (.inr hlow) hhigh

section
variable {other : Bytes}

theorem readColor_eq {place : Nat} (h : BottomUp bytes width height)
    (hother : SameColors bytes other) (hlow : 26 ≤ place) (hhigh : place + 3 ≤ dataStart bytes) :
    readColor other place = readColor bytes place := by
  have hpresent := h.present
  have hsmall := h.rows.small
  have hlength := hother.length
  rw [readColor_slice (Nat.le_refl 3) (by omega) (by omega),
    readColor_slice (Nat.le_refl 3) (by omega) hsmall, hother.middle _ _ hlow hhigh]

theorem palettePlace {dibSize : Int} {i : Nat} (hdib : 0 ≤ dibSize)
    (hsmall : 14 + dibSize + 4 * i < 2 ^ 31) :
    int32 (int32 (14 + dibSize) + int32 ((i : Int) * 4)) = (14 + dibSize.toNat + i * 4 : Nat) := by
  have hoffset : int32 (14 + dibSize) = 14 + dibSize := int32_eq (by omega) (by omega)
  have hcolumn : int32 ((i : Int) * 4) = i * 4 := int32_eq (by omega) (by omega)
  rw [hoffset, hcolumn, int32_eq (by omega) (by omega)]
  omega

theorem readPalette_eq (h : BottomUp bytes width height) (hother : SameColors bytes other)
    (hbits : uint16At bytes 28 = 8) :
    readPalette other (int32At bytes 14) = readPalette bytes (int32At bytes 14) := by
  have hlength := h.accepted.length
  have hstart := h.rows.dataStart_eq
  have hbehind := h.le_dataStart
  have hread : ∀ file : Bytes, file.length = bytes.length →
      readInt32 file (46 : Nat) = .ok (int32At file 46) :=
    fun file hfile => readInt32_eq (Int.natCast_nonneg _) (by omega)
  have hstored : readInt32 bytes 46 = _ := hread bytes rfl
  have hstoredOther : readInt32 other 46 = .ok (int32At bytes 46) := by
    have hsame : int32At other 46 = int32At bytes 46 := by
      rw [int32At, hother.middle 46 4 (by decide) (by omega), int32At]
    rw [← hsame]
    exact hread other hother.length
  have hpalette := h.palette hbits
  have hpresent := h.present
  have hsmall := h.rows.small
  have hleast := h.accepted.dibSize
  have hdib : 0 ≤ int32At bytes 14 := by omega
  rw [readPalette, readPalette, hstored, hstoredOther, ok_bind, ok_bind]
  refine mapM_congr_mem fun i hi => ?_
  have hi : (i : Int) < paletteCount bytes := Int.lt_toNat.mp (List.mem_range.mp hi)
  rw [palettePlace (i := i) hdib (by omega)]
  exact h.readColor_eq hother (by omega) (by omega)

theorem readUInt32_eq (h : BottomUp bytes width height) (hother : SameColors bytes other)
    (start : Nat) (hlow : 26 ≤ start) (hhigh : start + 4 ≤ dataStart bytes) :
    readUInt32 other start = readUInt32 bytes start := by
  have hpresent := h.present
  rw [BmpLoader.readUInt32_eq (by rw [hother.length]; omega), BmpLoader.readUInt32_eq (by omega),
    wordAt, hother.middle _ _ hlow hhigh, wordAt]

theorem readColors_eq (h : BottomUp bytes width height) (hother : SameColors bytes other) :
    readColors other (headerOf bytes) = readColors bytes (headerOf bytes) := by
  have hstart := h.rows.dataStart_eq
  rw [readColors, readColors]
  simp only [dibSize_headerOf, bitsPerPixel_headerOf, compression_headerOf]
  by_cases hbits : uint16At bytes 28 = 8
  · rw [if_pos hbits, if_pos hbits, h.readPalette_eq hother hbits]
  · rw [if_neg hbits, if_neg hbits]
    split
    next hmasks =>
      have hbehind := h.masks hmasks.2
      have hred : readUInt32 other 54 = readUInt32 bytes 54 :=
        h.readUInt32_eq hother 54 (by decide) (by omega)
      have hgreen : readUInt32 other 58 = readUInt32 bytes 58 :=
        h.readUInt32_eq hother 58 (by decide) (by omega)
      have hblue : readUInt32 other 62 = readUInt32 bytes 62 :=
        h.readUInt32_eq hother 62 (by decide) (by omega)
      have halpha : readUInt32 other 66 = readUInt32 bytes 66 :=
        h.readUInt32_eq hother 66 (by decide) (by omega)
      rw [hred, hgreen, hblue, halpha]
    next => rfl

end

-- ---------------------------------------------------------------------------
-- The rows
-- ---------------------------------------------------------------------------

theorem load_upsideDown_ok (h : BottomUp bytes width height) {colors : Colors}
    (hcolors : readColors bytes (headerOf bytes) = .ok colors) {image : BmpImage} :
    load (upsideDown bytes) = .ok image ↔ ∃ pixels : List Pixel, pixels.length = height * width ∧
      (∀ i pixel, pixels[i]? = some pixel →
        PixelAt (upsideDown bytes) (headerOf bytes).negated colors width height i pixel) ∧
      imageOf (headerOf bytes) width height pixels = image := by
  have hturned := h.rows_upsideDown
  have hheader := readHeader_ok.mpr ⟨h.accepted_upsideDown, rfl⟩
  have hread := (readColors_negated _ _).trans
    ((h.readColors_eq h.sameColors_upsideDown).trans hcolors)
  rw [h.headerOf_upsideDown] at hturned hheader
  exact hturned.load_negated_ok hheader hread

theorem load_ok (h : BottomUp bytes width height) {colors : Colors}
    (hcolors : readColors bytes (headerOf bytes) = .ok colors) {image : BmpImage} :
    load bytes = .ok image ↔ ∃ pixels : List Pixel, pixels.length = height * width ∧
      (∀ i pixel, pixels[i]? = some pixel →
        PixelAt bytes (headerOf bytes) colors width height i pixel) ∧
      imageOf (headerOf bytes) width height pixels = image :=
  h.rows.load_ok (readHeader_ok.mpr ⟨h.accepted, rfl⟩) hcolors

theorem column_fits (h : BottomUp bytes width height) {x : Nat} (hx : x < width) :
    x * (headerOf bytes).bytesPerPixel + (headerOf bytes).bytesPerPixel ≤ rowLength bytes := by
  rw [← Nat.succ_mul, h.rowLength_eq, ← bitsPerPixel_headerOf]
  exact (Nat.mul_le_mul_right _ hx).trans (bytesPerPixel_le h.rows.supported width)

theorem mul_rowStride (h : BottomUp bytes width height)
    (hnarrow : height = 1 ∨ width * uint16At bytes 28 + 31 < 2 ^ 31) {row : Nat}
    (hrow : row < height) : row * (headerOf bytes).rowStride = (row * rowLength bytes : Nat) := by
  rcases hnarrow with rfl | hnarrow
  · obtain rfl := Nat.lt_one_iff.mp hrow
    rw [Nat.zero_mul]
    exact Int.zero_mul _
  · rw [rowStride_eq h.rows.columns (by rwa [bitsPerPixel_headerOf]), bitsPerPixel_headerOf,
      ← h.rowLength_eq, Int.natCast_mul]

/-- Both files have the pixel, each in its own row. -/
theorem pixelAt_upsideDown (h : BottomUp bytes width height)
    (hnarrow : height = 1 ∨ width * uint16At bytes 28 + 31 < 2 ^ 31) {colors : Colors} {i : Nat}
    (hi : i < height * width) {pixel : Pixel}
    (hpixel : PixelAt bytes (headerOf bytes) colors width height i pixel) :
    PixelAt (upsideDown bytes) (headerOf bytes).negated colors width height i pixel := by
  have hwidth : 0 < width := Nat.pos_of_lt_mul_left hi
  have hy : i / width < height := Nat.div_lt_of_lt_mul (by rwa [Nat.mul_comm])
  have hbelow : height - 1 - i / width < height :=
    (Nat.sub_le _ _).trans_lt (Nat.sub_one_lt_of_lt hy)
  have hcolumn := h.column_fits (Nat.mod_lt i hwidth)
  have hupward : 0 < (headerOf bytes).rawHeight := by rw [rawHeight_headerOf]; exact h.upward
  have hplace : pixelPlace (headerOf bytes) height (i / width) (i % width) =
      (dataStart bytes + (height - 1 - i / width) * rowLength bytes +
        i % width * (headerOf bytes).bytesPerPixel : Nat) := by
    have hrow : (height : Int) - 1 - (i / width : Nat) = (height - 1 - i / width : Nat) := by omega
    rw [pixelPlace_upward hupward, hrow, h.mul_rowStride hnarrow hbelow, dataOffset_headerOf, ← h.rows.dataStart_eq, ← Int.natCast_add, ← Int.natCast_add]
  have hturned : pixelPlace (headerOf bytes).negated height (i / width) (i % width) =
      (dataStart bytes + (i / width * rowLength bytes +
        i % width * (headerOf bytes).bytesPerPixel) : Nat) := by
    rw [pixelPlace_negated hupward, h.mul_rowStride hnarrow hy, dataOffset_headerOf,
      ← h.rows.dataStart_eq, ← Int.natCast_add, ← Int.natCast_add, Nat.add_assoc]
  rw [PixelAt, hturned, Int.toNat_natCast, decode_negated, bytesPerPixel_negated,
    h.slice_row hy hcolumn]
  rw [PixelAt, hplace, Int.toNat_natCast] at hpixel
  exact ⟨Int.natCast_nonneg _, hpixel.2⟩

/-- The part that holds by design. -/
theorem load_upsideDown (h : BottomUp bytes width height)
    (hnarrow : height = 1 ∨ width * uint16At bytes 28 + 31 < 2 ^ 31) {image : BmpImage}
    (hload : load bytes = .ok image) : load (upsideDown bytes) = .ok image := by
  obtain ⟨colors, hcolors⟩ := readColors_of_load hload
  obtain ⟨pixels, hlength, hpixels, himage⟩ := (h.load_ok hcolors).mp hload
  refine (h.load_upsideDown_ok hcolors).mpr ⟨pixels, hlength, fun i pixel hpixel => ?_, himage⟩
  obtain ⟨hi, -⟩ := List.getElem?_eq_some_iff.mp hpixel
  exact h.pixelAt_upsideDown hnarrow (hlength ▸ hi) (hpixels i pixel hpixel)

-- ---------------------------------------------------------------------------
-- Rows that are too long
-- ---------------------------------------------------------------------------

theorem of_sameFront {other : Bytes} (h : BottomUp bytes width height)
    (hfront : SameFront (dataStart bytes) other bytes) : BottomUp other width height := by
  have hstart := h.le_dataStart
  have hdataOffset := hfront.int32At (show 10 + 4 ≤ dataStart bytes by omega)
  have hdib := hfront.int32At (show 14 + 4 ≤ dataStart bytes by omega)
  have hheight := hfront.int32At (show 22 + 4 ≤ dataStart bytes by omega)
  have hbits := hfront.uint16At (show 28 + 2 ≤ dataStart bytes by omega)
  have hcompression := hfront.int32At (show 30 + 4 ≤ dataStart bytes by omega)
  have hpalette := hfront.int32At (show 46 + 4 ≤ dataStart bytes by omega)
  refine ⟨hfront.accepted hstart h.accepted, ?_, ?_, ?_, ?_, ?_⟩
  · rw [hheight]
    exact h.upward
  · rw [hfront.headerOf hstart]
    exact h.rows.of_length hfront.length
  · rw [hdataOffset, hdib]
    exact h.header
  · rw [hdataOffset, hdib, hbits, paletteCount, hpalette]
    exact h.palette
  · rw [hdataOffset, hcompression]
    exact h.masks

theorem sameColors_of_sameFront {other : Bytes}
    (hfront : SameFront (dataStart bytes) other bytes) : SameColors bytes other where
  length := hfront.length
  middle _ _ _ hhigh := hfront.slice hhigh

def lastPlace (bytes : Bytes) (width height : Nat) : Nat :=
  dataStart bytes + ((height - 1) * rowLength bytes + (width - 1) * (headerOf bytes).bytesPerPixel)

theorem width_pos (h : BottomUp bytes width height) : 0 < width := by
  rw [← Int.natCast_pos, ← h.rows.columns, width_headerOf]
  exact h.accepted.width

theorem height_pos (h : BottomUp bytes width height) : 0 < height := by
  rw [← Int.natCast_pos, ← h.height_eq]
  exact h.upward

theorem lastPlace_fits (h : BottomUp bytes width height) :
    lastPlace bytes width height + (headerOf bytes).bytesPerPixel ≤ bytes.length := by
  have hrow := h.row_fits (Nat.sub_one_lt_of_lt h.height_pos)
  have hcolumn := h.column_fits (Nat.sub_one_lt_of_lt h.width_pos)
  rw [lastPlace]
  omega

/-- The loader stops short of the last place. -/
theorem pixelPlace_lastPlace (h : BottomUp bytes width height) (hrows : 1 < height)
    (hwide : 2 ^ 31 ≤ width * uint16At bytes 28 + 31) {y x : Nat} (hy : y < height)
    (hx : x < width) :
    pixelPlace (headerOf bytes) height y x + (headerOf bytes).bytesPerPixel ≤
      lastPlace bytes width height := by
  have hplace := h.rows.pixelPlace_last hrows (by rwa [bitsPerPixel_headerOf]) hy hx
  rwa [dataOffset_headerOf, ← h.rows.dataStart_eq, bitsPerPixel_headerOf, ← h.rowLength_eq,
    ← Int.natCast_add] at hplace

theorem dataStart_of_sameFront {other : Bytes} (h : BottomUp bytes width height)
    (hfront : SameFront (dataStart bytes) other bytes) : dataStart other = dataStart bytes :=
  congrArg Int.toNat (hfront.int32At ((by decide : 10 + 4 ≤ 54).trans h.le_dataStart))

theorem rowLength_of_sameFront {other : Bytes} (h : BottomUp bytes width height)
    (hfront : SameFront (dataStart bytes) other bytes) : rowLength other = rowLength bytes := by
  rw [(h.of_sameFront hfront).rowLength_eq, h.rowLength_eq,
    hfront.uint16At ((by decide : 28 + 2 ≤ 54).trans h.le_dataStart)]

theorem load_lastPixel (h : BottomUp bytes width height) (hrows : 1 < height)
    (hwide : 2 ^ 31 ≤ width * uint16At bytes 28 + 31) {image : BmpImage}
    (hload : load bytes = .ok image) {raw : Bytes}
    (hraw : raw.length = (headerOf bytes).bytesPerPixel) :
    load (overwrite bytes (lastPlace bytes width height) raw) = .ok image := by
  obtain ⟨colors, hcolors⟩ := readColors_of_load hload
  have hsame : SameFront (lastPlace bytes width height) _ bytes :=
    sameFront_overwrite (hraw ▸ h.lastPlace_fits)
  have hfront := hsame.mono (Nat.le_add_right (dataStart bytes) _)
  have hcolorsOther := (h.readColors_eq (sameColors_of_sameFront hfront)).trans hcolors
  have hheaderOther := readHeader_ok.mpr ⟨(h.of_sameFront hfront).accepted, rfl⟩
  rw [hfront.headerOf h.le_dataStart] at hheaderOther
  exact h.rows.load_sameFront
    (fun y hy x hx => h.pixelPlace_lastPlace hrows hwide hy hx) hsame
    (readHeader_ok.mpr ⟨h.accepted, rfl⟩) hheaderOther hcolors hcolorsOther hload

theorem decode_lastPixel (h : BottomUp bytes width height) {colors : Colors} {image : BmpImage}
    (hcolors : readColors bytes (headerOf bytes) = .ok colors)
    (hload : load (upsideDown bytes) = .ok image) :
    ∃ pixel, decode (headerOf bytes) colors
        (slice bytes (lastPlace bytes width height) (headerOf bytes).bytesPerPixel) = .ok pixel ∧
      pixel.1 = image.pixels.getD (width - 1) 0 ∧
      (uint16At bytes 28 = 32 → pixel.2.getD 0 = (image.alpha.getD []).getD (width - 1) 0) := by
  have hlast : width - 1 < width := Nat.sub_one_lt_of_lt h.width_pos
  have hcolumn := h.column_fits hlast
  have hupward : 0 < (headerOf bytes).rawHeight := by rw [rawHeight_headerOf]; exact h.upward
  obtain ⟨pixels, hlength, hpixels, rfl⟩ := (h.load_upsideDown_ok hcolors).mp hload
  obtain ⟨pixel, hpixel⟩ : ∃ pixel, pixels[width - 1]? = some pixel :=
    ⟨_, List.getElem?_eq_getElem
      (hlength ▸ hlast.trans_le (Nat.le_mul_of_pos_left _ h.height_pos))⟩
  obtain ⟨-, hdecode⟩ := hpixels _ _ hpixel
  have hplace : pixelPlace (headerOf bytes).negated height ((width - 1) / width)
      ((width - 1) % width) =
      (dataStart bytes + (0 * rowLength bytes + (width - 1) * (headerOf bytes).bytesPerPixel) : Nat) := by
    rw [Nat.div_eq_of_lt hlast, Nat.mod_eq_of_lt hlast, pixelPlace_negated hupward, Nat.cast_zero,
      Int.zero_mul, Int.add_zero, Nat.zero_mul, Nat.zero_add, dataOffset_headerOf,
      ← h.rows.dataStart_eq, ← Int.natCast_add]
  rw [hplace, Int.toNat_natCast, decode_negated, bytesPerPixel_negated,
    h.slice_row h.height_pos hcolumn, Nat.sub_zero, Nat.add_assoc] at hdecode
  refine ⟨pixel, hdecode, ?_, fun hbits => ?_⟩
  · rw [imageOf, List.getD_eq_getElem?_getD, List.getElem?_map, hpixel]
    rfl
  · rw [imageOf, if_pos (by rwa [bitsPerPixel_headerOf]), Option.getD_some,
      List.getD_eq_getElem?_getD, List.getElem?_map, hpixel]
    rfl

theorem keepsColor (h : BottomUp bytes width height) (hrows : 1 < height)
    (hwide : 2 ^ 31 ≤ width * uint16At bytes 28 + 31) {image : BmpImage} {colors : Colors}
    (hload : load bytes = .ok image) (hcolors : readColors bytes (headerOf bytes) = .ok colors)
    (hall : ∀ other, SameFront (dataStart bytes) other bytes → ∀ image, load other = .ok image →
      load (upsideDown other) = .ok image) :
    KeepsColor (headerOf bytes) colors (image.pixels.getD (width - 1) 0)
      ((image.alpha.getD []).getD (width - 1) 0) := by
  intro raw hraw
  have hfits : lastPlace bytes width height + raw.length ≤ bytes.length := hraw ▸ h.lastPlace_fits
  have hfront := (sameFront_overwrite hfits).mono (Nat.le_add_right (dataStart bytes) _)
  have hheader := hfront.headerOf h.le_dataStart
  have hcolorsOther := (h.readColors_eq (sameColors_of_sameFront hfront)).trans hcolors
  rw [← hheader] at hcolorsOther
  have hplace : lastPlace (overwrite bytes (lastPlace bytes width height) raw) width height =
      lastPlace bytes width height := by
    rw [lastPlace, h.dataStart_of_sameFront hfront, h.rowLength_of_sameFront hfront, hheader,
      ← lastPlace]
  obtain ⟨pixel, hdecode, hcolor, halpha⟩ := (h.of_sameFront hfront).decode_lastPixel hcolorsOther
    (hall _ hfront image (h.load_lastPixel hrows hwide hload hraw))
  rw [hplace, hheader, ← hraw, slice_overwrite_self hfits] at hdecode
  rw [hfront.uint16At ((by decide : 28 + 2 ≤ 54).trans h.le_dataStart)] at halpha
  exact ⟨pixel, hdecode, hcolor, fun hbits => halpha ((bitsPerPixel_headerOf bytes).symm.trans hbits)⟩

theorem load_upsideDown_of_oneColor (h : BottomUp bytes width height) {image : BmpImage}
    {colors : Colors} (hload : load bytes = .ok image)
    (hcolors : readColors bytes (headerOf bytes) = .ok colors)
    (hone : OneColor (headerOf bytes) colors) : load (upsideDown bytes) = .ok image := by
  obtain ⟨color, hcolor⟩ := hone.decode
  obtain ⟨pixels, hlength, hpixels, himage⟩ := (h.load_ok hcolors).mp hload
  have hplaces : ∀ i < height * width, 0 ≤ pixelPlace (headerOf bytes) height (i / width) (i % width) :=
    fun i hi => (hpixels i _ (List.getElem?_eq_getElem (hlength ▸ hi))).1
  have hplacesTurned := h.rows.pixelPlace_negated_nonneg h.width_pos h.height_pos hplaces
  refine (h.load_upsideDown_ok hcolors).mpr ⟨pixels, hlength, fun i pixel hpixel => ?_, himage⟩
  obtain ⟨hi, -⟩ := List.getElem?_eq_some_iff.mp hpixel
  have hdecode := (hpixels i pixel hpixel).2
  rw [hcolor] at hdecode
  refine ⟨hplacesTurned i (hlength ▸ hi), ?_⟩
  rw [decode_negated, hcolor]
  exact hdecode

/-- A file and those with other pixels load to the same images upside down if and only if the
rows are found, or there is one row only, or one color only. -/
theorem load_upsideDown_iff (h : BottomUp bytes width height) {image : BmpImage}
    {colors : Colors} (hload : load bytes = .ok image)
    (hcolors : readColors bytes (headerOf bytes) = .ok colors) :
    (∀ other, SameFront (dataStart bytes) other bytes → ∀ image, load other = .ok image →
        load (upsideDown other) = .ok image) ↔
      height = 1 ∨ width * uint16At bytes 28 + 31 < 2 ^ 31 ∨ OneColor (headerOf bytes) colors := by
  constructor
  · intro hall
    by_contra hnot
    rw [not_or, not_or] at hnot
    obtain ⟨hheight, hwide, hone⟩ := hnot
    have hrows : 1 < height := Nat.lt_of_le_of_ne h.height_pos (Ne.symm hheight)
    rw [Nat.not_lt] at hwide
    exact hone ((h.keepsColor hrows hwide hload hcolors hall).oneColor h.rows.supported)
  · intro hcases other hfront image hloadOther
    have hother := h.of_sameFront hfront
    have hbits := hfront.uint16At ((by decide : 28 + 2 ≤ 54).trans h.le_dataStart)
    rw [← or_assoc] at hcases
    rcases hcases with hnarrow | hone
    · exact hother.load_upsideDown (by rwa [hbits]) hloadOther
    · have hheader := hfront.headerOf h.le_dataStart
      have hcolorsOther := (h.readColors_eq (sameColors_of_sameFront hfront)).trans hcolors
      rw [← hheader] at hcolorsOther hone
      exact hother.load_upsideDown_of_oneColor hloadOther hcolorsOther hone

end BottomUp

-- ---------------------------------------------------------------------------
-- Written files
-- ---------------------------------------------------------------------------

section
open SampleBitmapWriter (fileBytes dataSize length_fileBytes)

variable {width height : Nat} {pixels : List Rgb24}

theorem headerOf_fileBytes (pixels : List Rgb24) (hwidth : 0 < width) (hheight : 0 < height)
    (hsize : 54 + dataSize width height < 2 ^ 31) :
    Accepted (fileBytes width height pixels) ∧
      headerOf (fileBytes width height pixels) = writtenHeader width height := by
  have hheader : _ ∧ writtenHeader width height = headerOf (fileBytes width height pixels) :=
    readHeader_ok.mp (readHeader_fileBytes hwidth hheight hsize)
  exact ⟨hheader.1, hheader.2.symm⟩

theorem bottomUp_fileBytes (hwidth : 0 < width) (hheight : 0 < height)
    (hsize : 54 + dataSize width height < 2 ^ 31) :
    BottomUp (fileBytes width height pixels) width height := by
  obtain ⟨haccepted, hheader⟩ := headerOf_fileBytes pixels hwidth hheight hsize
  have hrows := fullRows_written pixels hsize
  rw [← hheader] at hrows
  have hdataOffset : int32At (fileBytes width height pixels) 10 = 54 := by
    rw [← dataOffset_headerOf, hheader]
    rfl
  have hdib : int32At (fileBytes width height pixels) 14 = 40 := by
    rw [← dibSize_headerOf, hheader]
    rfl
  have hheightField : int32At (fileBytes width height pixels) 22 = height := by
    rw [← rawHeight_headerOf, hheader]
    rfl
  have hbits : uint16At (fileBytes width height pixels) 28 = 24 := by
    rw [← bitsPerPixel_headerOf, hheader]
    rfl
  have hcompression : int32At (fileBytes width height pixels) 30 = 0 := by
    rw [← compression_headerOf, hheader]
    rfl
  refine ⟨haccepted, ?_, hrows, ?_, ?_, ?_⟩
  · rw [hheightField]
    exact Int.natCast_pos.mpr hheight
  · rw [hdataOffset, hdib]
    decide
  · rw [hbits]
    exact fun h => absurd h (by decide)
  · rw [hcompression]
    exact fun h => absurd h (by decide)

theorem readColors_fileBytes (hwidth : 0 < width) (hheight : 0 < height)
    (hsize : 54 + dataSize width height < 2 ^ 31) :
    readColors (fileBytes width height pixels) (headerOf (fileBytes width height pixels)) =
      .ok ⟨none, 0, 0, 0, 0⟩ := by
  rw [(headerOf_fileBytes pixels hwidth hheight hsize).2, readColors_written]

theorem exists_load_fileBytes (hwidth : 0 < width) (hheight : 0 < height)
    (hsize : 54 + dataSize width height < 2 ^ 31)
    (hlast : 0 ≤ 54 + ((height : Int) - 1) * (writtenHeader width height).rowStride) :
    ∃ image, load (fileBytes width height pixels) = .ok image := by
  have hrows := fullRows_written pixels hsize
  have hplaces := (hrows.pixelPlace_nonneg_iff hwidth hheight).mpr hlast
  exact ⟨_, hrows.load_of_pixelAt (readHeader_fileBytes hwidth hheight hsize)
    (readColors_written _ width height) fun i hi => ⟨hplaces i hi, rfl⟩⟩

theorem load_upsideDown_written :
    load (upsideDown (fileBytes 1 2 [⟨1, 2, 3⟩, ⟨4, 5, 6⟩])) =
      .ok ⟨1, 2, [⟨1, 2, 3⟩, ⟨4, 5, 6⟩], none⟩ :=
  have hfile : BottomUp (fileBytes 1 2 [⟨1, 2, 3⟩, ⟨4, 5, 6⟩]) 1 2 :=
    bottomUp_fileBytes (by decide) (by decide) (by decide)
  have hload : load (fileBytes 1 2 [⟨1, 2, 3⟩, ⟨4, 5, 6⟩]) = _ :=
    load_fileBytes (by decide) (by decide) (by decide) (.inr (by decide)) rfl
  (hfile.load_upsideDown_iff hload (readColors_fileBytes (by decide) (by decide) (by decide))).mpr
    (.inr (.inl (by
      rw [← bitsPerPixel_headerOf, (headerOf_fileBytes _ (by decide) (by decide) (by decide)).2]
      decide))) _ ⟨rfl, rfl⟩ _ hload

/-- Two rows of 2^32 - 16 bits: with 31 bits more the stride is zero. -/
theorem load_upsideDown_wide :
    ¬ ∀ (bytes : Bytes) (width height : Nat) (image : BmpImage), BottomUp bytes width height →
      load bytes = .ok image → load (upsideDown bytes) = .ok image := by
  intro hall
  have hsize : 54 + dataSize 178956970 2 < 2 ^ 31 := by decide
  have hfile : BottomUp (fileBytes 178956970 2 []) 178956970 2 :=
    bottomUp_fileBytes (by decide) (by decide) hsize
  have hcolors : readColors (fileBytes 178956970 2 []) _ = _ :=
    readColors_fileBytes (by decide) (by decide) hsize
  have hheader : headerOf (fileBytes 178956970 2 []) = _ :=
    (headerOf_fileBytes [] (by decide) (by decide) hsize).2
  have hbits : uint16At (fileBytes 178956970 2 []) 28 = 24 := by
    rw [← bitsPerPixel_headerOf, hheader]
    rfl
  obtain ⟨image, hload⟩ : ∃ image, load (fileBytes 178956970 2 []) = .ok image :=
    exists_load_fileBytes (by decide) (by decide) hsize (by decide)
  have hone := (hfile.keepsColor (by decide) (by rw [hbits]; decide) hload hcolors
    fun other hfront image hother => hall other _ _ image (hfile.of_sameFront hfront) hother).oneColor
      hfile.rows.supported
  rw [hheader] at hone
  rcases hone with ⟨hdepth, -⟩ | ⟨hdepth, -⟩ <;> exact absurd hdepth (by decide)

end

end DragonOS.Build.BmpLoader
