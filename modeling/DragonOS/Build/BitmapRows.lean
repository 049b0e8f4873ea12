import DragonOS.Build.BitmapLoad

/-!
# Where a pixel is read

A pixel is decoded from as many bytes as it has (`decode`), at a place that depends on the row
stride alone (`pixelPlace`). The stride is a multiple of a row of the file except where the
number of bits overflows; also then no place is behind the rows (`pixelPlace_fits`).
-/

namespace DragonOS.Build.BmpLoader

open Lib
open IsoReader (littleEndianValue)

-- ---------------------------------------------------------------------------
-- Decoding
-- ---------------------------------------------------------------------------

def colorOf (raw : Bytes) : Rgb24 := ⟨raw.getD 2 0, raw.getD 1 0, raw.getD 0 0⟩

def wordOf (raw : Bytes) : UInt32 := UInt32.ofNat (littleEndianValue raw)

def wordAt (bytes : Bytes) (offset : Nat) : UInt32 := wordOf (slice bytes offset 4)

def decode (header : Header) (colors : Colors) (raw : Bytes) : Except Failure Pixel :=
  match header.bitsPerPixel with
  | 24 => .ok (colorOf raw, none)
  | 32 =>
    if header.compression = 3 then readBitfields colors (wordOf raw)
    else .ok (colorOf raw, some (raw.getD 3 0))
  | 8 =>
    match colors.palette.bind (·[(raw.getD 0 0).toNat]?) with
    | some color => .ok (color, none)
    | none => throw (.thrown (.invalidOperation "The BMP palette is malformed."))
  | bitsPerPixel =>
    throw (.thrown (.invalidOperation
      ("Unsupported BMP depth: " ++ toString bitsPerPixel ++ " bits per pixel.")))

def Header.bytesPerPixel (header : Header) : Nat := header.bitsPerPixel / 8

def Header.Supported (header : Header) : Prop :=
  header.bitsPerPixel = 8 ∨ header.bitsPerPixel = 24 ∨ header.bitsPerPixel = 32

def storedRow (header : Header) (height : Int) (y : Nat) : Int :=
  if header.rawHeight < 0 then (y : Int) else height - 1 - y

def pixelPlace (header : Header) (height : Int) (y x : Nat) : Int :=
  header.dataOffset + storedRow header height y * header.rowStride +
    (x * header.bytesPerPixel : Nat)

section
variable {bytes : Bytes} {header : Header} {colors : Colors} {height : Int} {x y place : Nat}

theorem rowStart_add (header : Header) (height : Int) (y : Nat) (column : Int) :
    int32 (rowStart header height y + column) =
      int32 (header.dataOffset + storedRow header height y * header.rowStride + column) := by
  have hinner : int32 (header.dataOffset + int32 (storedRow header height y * header.rowStride)) =
      int32 (header.dataOffset + storedRow header height y * header.rowStride) :=
    Int.add_bmod_bmod ..
  have hstart : rowStart header height y =
      int32 (header.dataOffset + storedRow header height y * header.rowStride) := by
    rw [← hinner]
    rfl
  rw [hstart]
  exact Int.bmod_add_bmod ..

theorem rowStart_add_column (header : Header) (height : Int) (y : Nat) (column : Int) :
    int32 (rowStart header height y + int32 column) =
      int32 (header.dataOffset + storedRow header height y * header.rowStride + column) := by
  rw [← rowStart_add]
  exact Int.add_bmod_bmod ..

theorem element_slice {length i : Nat} (h : place + length ≤ bytes.length) (hi : i < length) :
    element bytes (place + i : Nat) = .ok ((slice bytes place length).getD i 0) := by
  rw [element_getD 0 (show place + i < bytes.length by omega), List.getD_eq_getElem?_getD,
    List.getD_eq_getElem?_getD, getElem?_slice, if_pos hi]

theorem element_slice_add {length i : Nat} (h : place + length ≤ bytes.length) (hi : i < length)
    (hsmall : bytes.length < 2 ^ 31) :
    element bytes (int32 ((place : Int) + i)) = .ok ((slice bytes place length).getD i 0) := by
  have hplace : place + i < 2 ^ 31 := by omega
  rw [← Int.natCast_add, int32_natCast hplace, element_slice h hi]

theorem readUInt32_eq (hfits : place + 4 ≤ bytes.length) :
    readUInt32 bytes place = .ok (wordAt bytes place) := by
  rw [readUInt32, readSpan_eq (Int.natCast_nonneg _) (by omega), ok_bind, Int.toNat_natCast, wordAt,
    wordOf]

theorem readColor_slice {length : Nat} (hlength : 3 ≤ length)
    (hfits : place + length ≤ bytes.length) (hsmall : bytes.length < 2 ^ 31) :
    readColor bytes place = .ok (colorOf (slice bytes place length)) := by
  have hred : element bytes (int32 ((place : Int) + 2)) = _ :=
    element_slice_add hfits (show 2 < length by omega) hsmall
  have hgreen : element bytes (int32 ((place : Int) + 1)) = _ :=
    element_slice_add hfits (show 1 < length by omega) hsmall
  have hblue : element bytes place = _ := element_slice hfits (show 0 < length by omega)
  rw [readColor, hred, ok_bind, hgreen, ok_bind, hblue, ok_bind, colorOf]

theorem readPixel_eq (hsupported : header.Supported) (hplace : pixelPlace header height y x = place)
    (hfits : place + header.bytesPerPixel ≤ bytes.length) (hsmall : bytes.length < 2 ^ 31) :
    readPixel bytes header colors (rowStart header height y) x =
      decode header colors (slice bytes place header.bytesPerPixel) := by
  have hexact : int32 (pixelPlace header height y x) = place := by
    rw [hplace, int32_natCast (by omega)]
  rw [pixelPlace] at hexact
  rcases hsupported with hbits | hbits | hbits
  · have hbytes : header.bytesPerPixel = 1 := by rw [Header.bytesPerPixel, hbits]
    rw [hbytes] at hexact hfits ⊢
    rw [← rowStart_add, Nat.mul_one] at hexact
    have helement : element bytes place = _ := element_slice hfits Nat.one_pos
    cases hcolor : colors.palette.bind (·[((slice bytes place 1).getD 0 0).toNat]?) with
    | none => simp only [readPixel, decode, hbits, hexact, liftM_eq helement, ok_bind, hcolor]
    | some color =>
      simp only [readPixel, decode, hbits, hexact, liftM_eq helement, ok_bind, hcolor]
  · have hbytes : header.bytesPerPixel = 3 := by rw [Header.bytesPerPixel, hbits]
    rw [hbytes] at hexact hfits ⊢
    rw [← rowStart_add_column, Int.natCast_mul, Nat.cast_ofNat] at hexact
    have hcolor := readColor_slice (Nat.le_refl 3) hfits hsmall
    simp only [readPixel, decode, hbits, hexact, liftM_eq hcolor, ok_bind]
  · have hbytes : header.bytesPerPixel = 4 := by rw [Header.bytesPerPixel, hbits]
    rw [hbytes] at hexact hfits ⊢
    rw [← rowStart_add_column, Int.natCast_mul, Nat.cast_ofNat] at hexact
    have hcolor := readColor_slice (show 3 ≤ 4 by decide) hfits hsmall
    have halpha : element bytes (int32 ((place : Int) + 3)) = _ :=
      element_slice_add hfits (show 3 < 4 by decide) hsmall
    have hword : readUInt32 bytes place = .ok (wordOf (slice bytes place 4)) := readUInt32_eq hfits
    simp only [readPixel, decode, hbits, hexact, liftM_eq hcolor, liftM_eq halpha, liftM_eq hword,
      ok_bind]

theorem nonneg_of_element {α : Type} {array : List α} {index : Int} {value : α}
    (h : element array index = .ok value) : 0 ≤ index := by
  rw [element] at h
  split at h
  next hindex => exact hindex
  next => cases h

theorem nonneg_of_readColor {offset : Int} {color : Rgb24}
    (h : readColor bytes offset = .ok color) : 0 ≤ offset := by
  rw [readColor, bind_ok] at h
  obtain ⟨red, -, h⟩ := h
  obtain ⟨green, -, h⟩ := bind_ok.mp h
  obtain ⟨blue, hblue, -⟩ := bind_ok.mp h
  exact nonneg_of_element hblue

theorem nonneg_of_readUInt32 {offset : Int} {word : UInt32}
    (h : readUInt32 bytes offset = .ok word) : 0 ≤ offset := by
  rw [readUInt32, bind_ok] at h
  obtain ⟨raw, hraw, -⟩ := h
  rw [readSpan] at hraw
  split at hraw
  next hinside => exact hinside.1
  next => cases hraw

/-- Nothing is read in front of the file. -/
theorem nonneg_of_readPixel {pixel : Pixel} (hsupported : header.Supported)
    (hlow : -2 ^ 31 ≤ pixelPlace header height y x) (hhigh : pixelPlace header height y x < 2 ^ 31)
    (h : readPixel bytes header colors (rowStart header height y) x = .ok pixel) :
    0 ≤ pixelPlace header height y x := by
  have hexact := int32_eq hlow hhigh
  rw [← hexact]
  rw [pixelPlace] at hexact ⊢
  rcases hsupported with hbits | hbits | hbits
  · have hbytes : header.bytesPerPixel = 1 := by rw [Header.bytesPerPixel, hbits]
    rw [hbytes, ← rowStart_add, Nat.mul_one]
    simp only [readPixel, hbits] at h
    obtain ⟨index, hindex, -⟩ := bind_ok.mp h
    exact nonneg_of_element (liftM_ok.mp hindex)
  · have hbytes : header.bytesPerPixel = 3 := by rw [Header.bytesPerPixel, hbits]
    rw [hbytes, ← rowStart_add_column, Int.natCast_mul, Nat.cast_ofNat]
    simp only [readPixel, hbits] at h
    obtain ⟨color, hcolor, -⟩ := bind_ok.mp h
    exact nonneg_of_readColor (liftM_ok.mp hcolor)
  · have hbytes : header.bytesPerPixel = 4 := by rw [Header.bytesPerPixel, hbits]
    rw [hbytes, ← rowStart_add_column, Int.natCast_mul, Nat.cast_ofNat]
    simp only [readPixel, hbits] at h
    split at h
    · obtain ⟨word, hword, -⟩ := bind_ok.mp h
      exact nonneg_of_readUInt32 (liftM_ok.mp hword)
    · obtain ⟨color, hcolor, -⟩ := bind_ok.mp h
      exact nonneg_of_readColor (liftM_ok.mp hcolor)

-- ---------------------------------------------------------------------------
-- Places
-- ---------------------------------------------------------------------------

theorem bytesPerPixel_le (hsupported : header.Supported) (width : Nat) :
    width * header.bytesPerPixel ≤ rowSize width header.bitsPerPixel := by
  rw [Header.bytesPerPixel, rowSize]
  rcases hsupported with hbits | hbits | hbits <;> rw [hbits] <;> omega

/-- The stride of a row with too many bits is smaller than the row. -/
theorem rowStride_wide {width : Nat}
    (hwide : 2 ^ 31 ≤ width * header.bitsPerPixel + 31) :
    -(rowSize width header.bitsPerPixel : Int) ≤ header.rowStride ∧
      header.rowStride + 4 ≤ rowSize width header.bitsPerPixel := by
  obtain ⟨bits, hbits⟩ :
      ∃ bits : Int, int32 (int32 (header.width * header.bitsPerPixel) + 31) = bits := ⟨_, rfl⟩
  have hlow : -2 ^ 31 ≤ bits := hbits ▸ Int.le_bmod (by decide)
  have hhigh : bits < 2 ^ 31 := hbits ▸ Int.bmod_lt (by decide)
  have hsplit := Int.mul_tdiv_add_tmod bits 32
  have hrest : (bits.tmod 32).natAbs = bits.natAbs % 32 := Int.natAbs_tmod _ _
  have hwords : (bits.tdiv 32).natAbs = bits.natAbs / 32 := Int.natAbs_tdiv _ _
  have hstride : header.rowStride = bits.tdiv 32 * 4 := by
    have hsmall : int32 (bits.tdiv 32 * 4) = bits.tdiv 32 * 4 := int32_eq (by omega) (by omega)
    rw [← hsmall, ← hbits]
    rfl
  have hrow : 2 ^ 28 ≤ rowSize width header.bitsPerPixel := by
    rw [rowSize]
    omega
  rw [hstride]
  omega

end

def dataStart (bytes : Bytes) : Nat := (int32At bytes 10).toNat

/-- A file that holds all its rows. An array is shorter than 2^31 bytes. -/
structure FullRows (bytes : Bytes) (header : Header) (width height : Nat) : Prop where
  columns : header.width = width
  rows : |header.rawHeight| = height
  supported : header.Supported
  dataOffset : 0 ≤ header.dataOffset
  present : header.dataOffset + (height * rowSize width header.bitsPerPixel : Nat) ≤ bytes.length
  small : bytes.length < 2 ^ 31

/-- The bytes of a pixel are in the file unless they would start in front of it. -/
def PixelAt (bytes : Bytes) (header : Header) (colors : Colors) (width height i : Nat)
    (pixel : Pixel) : Prop :=
  0 ≤ pixelPlace header height (i / width) (i % width) ∧
    decode header colors (slice bytes (pixelPlace header height (i / width) (i % width)).toNat
      header.bytesPerPixel) = .ok pixel

namespace FullRows

variable {bytes : Bytes} {header : Header} {colors : Colors} {width height x y : Nat}

theorem dataStart_eq (h : FullRows bytes (headerOf bytes) width height) :
    (dataStart bytes : Int) = int32At bytes 10 := by
  rw [dataStart, ← dataOffset_headerOf, Int.toNat_of_nonneg h.dataOffset]

theorem rowStride_bounds (h : FullRows bytes header width height) :
    -(rowSize width header.bitsPerPixel : Int) ≤ header.rowStride ∧
      header.rowStride ≤ rowSize width header.bitsPerPixel := by
  rcases Nat.lt_or_ge (width * header.bitsPerPixel + 31) (2 ^ 31) with hnarrow | hwide
  · rw [rowStride_eq h.columns hnarrow]
    omega
  · have hbounds := rowStride_wide hwide
    omega

theorem storedRow_bounds (header : Header) (hy : y < height) :
    0 ≤ storedRow header height y ∧ storedRow header height y + 1 ≤ height := by
  rw [storedRow]
  split <;> omega

theorem pixelPlace_bounds (h : FullRows bytes header width height) (hy : y < height)
    (hx : x < width) : -2 ^ 31 ≤ pixelPlace header height y x ∧
      pixelPlace header height y x + header.bytesPerPixel ≤ bytes.length := by
  obtain ⟨hlow, hhigh⟩ := storedRow_bounds header hy
  obtain ⟨hleast, hmost⟩ := h.rowStride_bounds
  have hcolumn : x * header.bytesPerPixel + header.bytesPerPixel ≤ rowSize width header.bitsPerPixel := by
    rw [← Nat.succ_mul]
    exact (Nat.mul_le_mul_right _ hx).trans (bytesPerPixel_le h.supported width)
  have hup := Int.mul_le_mul_of_nonneg_left hmost hlow
  have hdown := Int.mul_le_mul_of_nonneg_left hleast hlow
  have hrows := Int.mul_le_mul_of_nonneg_right hhigh
    (Int.natCast_nonneg (rowSize width header.bitsPerPixel))
  have hpresent := h.present
  have hsmall := h.small
  have hoffset := h.dataOffset
  rw [Int.add_mul, Int.one_mul] at hrows
  rw [Int.mul_neg] at hdown
  rw [Int.natCast_mul] at hpresent
  rw [pixelPlace]
  omega

theorem readPixel_ok (h : FullRows bytes header width height) (hwidth : 0 < width)
    (hi : i < height * width) {pixel : Pixel} :
    readPixel bytes header colors (rowStart header height (i / width)) (i % width : Nat) =
      .ok pixel ↔ PixelAt bytes header colors width height i pixel := by
  obtain ⟨hlow, hhigh⟩ := h.pixelPlace_bounds (Nat.div_lt_of_lt_mul (by rwa [Nat.mul_comm]))
    (Nat.mod_lt i hwidth)
  have hsmall := h.small
  rw [PixelAt]
  rcases lt_or_ge (pixelPlace header height (i / width) (i % width)) 0 with hfront | hinside
  · refine iff_of_false (fun hread => ?_) fun hpixel => Int.not_le.mpr hfront hpixel.1
    exact Int.not_le.mpr hfront (nonneg_of_readPixel h.supported hlow (by omega) hread)
  · obtain ⟨place, hplace⟩ := Int.eq_ofNat_of_zero_le hinside
    rw [readPixel_eq h.supported hplace (by omega) hsmall, hplace, Int.toNat_natCast]
    exact (and_iff_right (Int.natCast_nonneg place)).symm

theorem area_lt (h : FullRows bytes header width height) : height * width < 2 ^ 31 := by
  have hbytes : 1 ≤ header.bytesPerPixel := by
    rw [Header.bytesPerPixel]
    rcases h.supported with hbits | hbits | hbits <;> rw [hbits] <;> decide
  have hrow : width ≤ rowSize width header.bitsPerPixel :=
    (Nat.le_mul_of_pos_right width hbytes).trans (bytesPerPixel_le h.supported width)
  have hrows : height * width ≤ height * rowSize width header.bitsPerPixel :=
    Nat.mul_le_mul_left _ hrow
  have hpresent := h.present
  have hsmall := h.small
  have hoffset := h.dataOffset
  omega

theorem load_ok (h : FullRows bytes header width height) (hheader : readHeader bytes = .ok header)
    (hcolors : readColors bytes header = .ok colors) {image : BmpImage} :
    load bytes = .ok image ↔ ∃ pixels : List Pixel, pixels.length = height * width ∧
      (∀ i pixel, pixels[i]? = some pixel → PixelAt bytes header colors width height i pixel) ∧
      imageOf header width height pixels = image := by
  have hwidth : 0 < width := by
    obtain ⟨haccepted, rfl⟩ := readHeader_ok.mp hheader
    rw [← Int.natCast_pos, ← h.columns, width_headerOf]
    exact haccepted.width
  rw [load_eq hheader h.columns h.rows hwidth h.area_lt hcolors, bind_ok]
  refine exists_congr fun pixels => ?_
  rw [mapM_range_ok, and_assoc, Except.ok.injEq]
  refine and_congr_right fun hlength => and_congr_left fun _ => ?_
  refine forall_congr' fun i => forall_congr' fun pixel => imp_congr_right fun hpixel => ?_
  obtain ⟨hi, -⟩ := List.getElem?_eq_some_iff.mp hpixel
  exact h.readPixel_ok hwidth (hlength ▸ hi)

/-- With rows that are too long no pixel is read as far back as the last one of the file. -/
theorem pixelPlace_last (h : FullRows bytes header width height) (hrows : 1 < height)
    (hwide : 2 ^ 31 ≤ width * header.bitsPerPixel + 31) (hy : y < height) (hx : x < width) :
    pixelPlace header height y x + header.bytesPerPixel ≤ header.dataOffset +
      ((height - 1) * rowSize width header.bitsPerPixel + (width - 1) * header.bytesPerPixel : Nat) := by
  obtain ⟨hlow, hhigh⟩ := storedRow_bounds header hy
  obtain ⟨-, hshort⟩ := rowStride_wide hwide
  have hcolumn : x * header.bytesPerPixel ≤ (width - 1) * header.bytesPerPixel :=
    Nat.mul_le_mul_right _ (Nat.le_sub_one_of_lt hx)
  have hbytes : header.bytesPerPixel ≤ 4 := by
    rw [Header.bytesPerPixel]
    rcases h.supported with hbits | hbits | hbits <;> rw [hbits] <;> decide
  have hrow : storedRow header height y * header.rowStride + header.bytesPerPixel ≤
      ((height - 1) * rowSize width header.bitsPerPixel : Nat) := by
    rcases hlow.eq_or_lt with hfirst | hlater
    · have hpixel : header.bytesPerPixel ≤ rowSize width header.bitsPerPixel :=
        (Nat.le_mul_of_pos_left _ (Nat.zero_lt_of_lt hx)).trans (bytesPerPixel_le h.supported width)
      have hone : rowSize width header.bitsPerPixel ≤
          (height - 1) * rowSize width header.bitsPerPixel :=
        Nat.le_mul_of_pos_left _ (by omega)
      rw [← hfirst, Int.zero_mul]
      omega
    · have hless := Int.mul_le_mul_of_nonneg_left
        (show header.rowStride ≤ rowSize width header.bitsPerPixel - 4 by omega) hlow
      have hmost := Int.mul_le_mul_of_nonneg_right
        (show storedRow header height y ≤ (height - 1 : Nat) by omega)
        (Int.natCast_nonneg (rowSize width header.bitsPerPixel))
      rw [Int.mul_sub] at hless
      rw [Int.natCast_mul]
      omega
  rw [pixelPlace]
  omega

theorem exists_storedRow (header : Header) {row : Nat} (hrow : row < height) :
    ∃ y < height, storedRow header height y = row := by
  by_cases hup : header.rawHeight < 0
  · exact ⟨row, hrow, if_pos hup⟩
  · refine ⟨height - 1 - row, by omega, ?_⟩
    rw [storedRow, if_neg hup]
    omega

theorem exists_pixelPlace (header : Header) {row column : Nat} (hrow : row < height)
    (hcolumn : column < width) :
    ∃ i < height * width, pixelPlace header height (i / width) (i % width) =
      header.dataOffset + row * header.rowStride + (column * header.bytesPerPixel : Nat) := by
  obtain ⟨y, hy, hstored⟩ := exists_storedRow header hrow
  exact ⟨y * width + column, place_lt hy hcolumn, by
    rw [place_div hcolumn, place_mod hcolumn, pixelPlace, hstored]⟩

theorem pixelPlace_nonneg_iff (h : FullRows bytes header width height) (hwidth : 0 < width)
    (hheight : 0 < height) :
    (∀ i < height * width, 0 ≤ pixelPlace header height (i / width) (i % width)) ↔
      0 ≤ header.dataOffset + (height - 1) * header.rowStride := by
  constructor
  · intro hplaces
    obtain ⟨i, hi, hplace⟩ := exists_pixelPlace header (Nat.sub_one_lt_of_lt hheight) hwidth
    have hlast := hplaces i hi
    rw [hplace, Nat.zero_mul, Nat.cast_zero, Int.add_zero, Int.natCast_sub hheight] at hlast
    exact hlast
  · intro hlast i hi
    obtain ⟨hlow, hhigh⟩ := storedRow_bounds header (Nat.div_lt_of_lt_mul (by rwa [Nat.mul_comm]) : i / width < height)
    have hoffset := h.dataOffset
    rw [pixelPlace]
    rcases le_or_gt 0 header.rowStride with hdown | hup
    · have hrow := Int.mul_nonneg hlow hdown
      omega
    · have hrow := Int.mul_le_mul_of_nonpos_right (show storedRow header height (i / width) ≤ height - 1 by omega) hup.le
      omega

theorem load_of_pixelAt (h : FullRows bytes header width height)
    (hheader : readHeader bytes = .ok header) (hcolors : readColors bytes header = .ok colors)
    {pixel : Nat → Pixel}
    (hpixels : ∀ i < height * width, PixelAt bytes header colors width height i (pixel i)) :
    load bytes = .ok (imageOf header width height ((List.range (height * width)).map pixel)) := by
  refine (h.load_ok hheader hcolors).mpr ⟨_, ?_, fun i value hvalue => ?_, rfl⟩
  · rw [List.length_map, List.length_range]
  · obtain ⟨hi, rfl⟩ := List.getElem?_eq_some_iff.mp hvalue
    rw [List.length_map, List.length_range] at hi
    rw [List.getElem_map, List.getElem_range]
    exact hpixels i hi

theorem of_length {other : Bytes} (h : FullRows other header width height)
    (hlength : bytes.length = other.length) : FullRows bytes header width height :=
  { h with
    present := hlength ▸ h.present
    small := hlength ▸ h.small }

end FullRows

-- ---------------------------------------------------------------------------
-- Files with the same front
-- ---------------------------------------------------------------------------

structure SameFront (offset : Nat) (bytes other : Bytes) : Prop where
  length : bytes.length = other.length
  front : bytes.take offset = other.take offset

section
variable {bytes other : Bytes}

theorem SameFront.slice {start part : Nat} (h : SameFront offset bytes other)
    (hinside : start + part ≤ offset) : slice bytes start part = slice other start part := by
  have hcut : ∀ bytes : Bytes, Lib.slice bytes start part = Lib.slice (bytes.take offset) start part :=
    fun bytes => by
      refine List.ext_getElem? fun i => ?_
      rw [getElem?_slice, getElem?_slice]
      split
      next hi => rw [List.getElem?_take_of_lt (by omega)]
      next => rfl
  rw [hcut, h.front, ← hcut]

theorem SameFront.int32At (h : SameFront offset bytes other) (hstart : start + 4 ≤ offset) :
    int32At bytes start = int32At other start := by
  rw [BmpLoader.int32At, h.slice hstart, BmpLoader.int32At]

theorem SameFront.uint16At (h : SameFront offset bytes other) (hstart : start + 2 ≤ offset) :
    uint16At bytes start = uint16At other start := by
  rw [BmpLoader.uint16At, h.slice hstart, BmpLoader.uint16At]

theorem SameFront.wordAt (h : SameFront offset bytes other) (hstart : start + 4 ≤ offset) :
    wordAt bytes start = wordAt other start := by
  rw [BmpLoader.wordAt, h.slice hstart, BmpLoader.wordAt]

theorem SameFront.headerOf (h : SameFront offset bytes other) (hoffset : 54 ≤ offset) :
    headerOf bytes = headerOf other := by
  simp only [BmpLoader.headerOf, h.int32At (show 10 + 4 ≤ offset by omega),
    h.int32At (show 14 + 4 ≤ offset by omega), h.int32At (show 18 + 4 ≤ offset by omega),
    h.int32At (show 22 + 4 ≤ offset by omega), h.uint16At (show 28 + 2 ≤ offset by omega),
    h.int32At (show 30 + 4 ≤ offset by omega)]

theorem SameFront.accepted (h : SameFront offset bytes other) (hoffset : 54 ≤ offset)
    (haccepted : Accepted other) : Accepted bytes where
  length := h.length ▸ haccepted.length
  magic := by rw [h.slice (by omega)]; exact haccepted.magic
  dibSize := by rw [h.int32At (by omega)]; exact haccepted.dibSize
  width := by rw [h.int32At (by omega)]; exact haccepted.width
  rawHeight := by rw [h.int32At (by omega)]; exact haccepted.rawHeight
  planes := by rw [h.uint16At (by omega)]; exact haccepted.planes
  compression := by
    rw [h.int32At (by omega), h.uint16At (by omega)]
    exact haccepted.compression

theorem SameFront.mono (h : SameFront offset bytes other) (hless : less ≤ offset) :
    SameFront less bytes other where
  length := h.length
  front := by
    have hfront := congrArg (List.take less) h.front
    rwa [List.take_take, List.take_take, Nat.min_eq_left hless] at hfront

theorem sameFront_overwrite {place : Nat} {raw : Bytes} (h : place + raw.length ≤ bytes.length) :
    SameFront place (overwrite bytes place raw) bytes where
  length := length_overwrite h
  front := by
    rw [overwrite, List.append_assoc, List.take_append_of_le_length, List.take_take, Nat.min_self]
    rw [List.length_take]
    omega

theorem FullRows.load_sameFront {header : Header} {colors : Colors} {width height last : Nat}
    {image : BmpImage} (h : FullRows bytes header width height)
    (hlast : ∀ y < height, ∀ x < width,
      pixelPlace header height y x + header.bytesPerPixel ≤ last)
    (hsame : SameFront last other bytes)
    (hheader : readHeader bytes = .ok header) (hheaderOther : readHeader other = .ok header)
    (hcolors : readColors bytes header = .ok colors)
    (hcolorsOther : readColors other header = .ok colors) (hload : load bytes = .ok image) :
    load other = .ok image := by
  obtain ⟨pixels, hlength, hpixels, himage⟩ := (h.load_ok hheader hcolors).mp hload
  refine ((h.of_length hsame.length).load_ok hheaderOther hcolorsOther).mpr
    ⟨pixels, hlength, fun i pixel hpixel => ?_, himage⟩
  obtain ⟨hplace, hdecode⟩ := hpixels i pixel hpixel
  obtain ⟨hi, -⟩ := List.getElem?_eq_some_iff.mp hpixel
  have hi : i < height * width := hlength ▸ hi
  have hbefore := hlast _ (Nat.div_lt_of_lt_mul (by rwa [Nat.mul_comm])) _
    (Nat.mod_lt i (Nat.pos_of_lt_mul_left hi))
  rw [PixelAt, hsame.slice (by omega)]
  exact ⟨hplace, hdecode⟩

end

end DragonOS.Build.BmpLoader
