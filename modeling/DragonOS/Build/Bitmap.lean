import DragonOS.Build.IsoReader
import DragonOS.Lib.Filling

/-!
# Bitmap files

`BmpLoader` reads uncompressed bitmaps with 8, 24 or 32 bits a pixel, and
`SampleBitmapWriter` writes one with 24. Indices are `int` values, so they can wrap and
come out negative, and what is out of an array throws. Shifting by a number of bits looks
at the low five bits of that number only.
-/

namespace DragonOS.Build

open Lib
open IsoReader (littleEndianValue)

structure Rgb24 where
  r : UInt8
  g : UInt8
  b : UInt8
  deriving DecidableEq, Repr

instance : OfNat Rgb24 0 := ⟨⟨0, 0, 0⟩⟩

structure BmpImage where
  width : Int
  height : Int
  pixels : List Rgb24
  alpha : Option (List UInt8)
  deriving DecidableEq, Repr

inductive Failure
  | thrown (exception : Exception)
  | divideByZero
  /-- Not an exception: the loop does not end. -/
  | endless
  deriving DecidableEq, Repr

instance : MonadLift (Except Exception) (Except Failure) := ⟨Except.mapError .thrown⟩

def element (array : List α) (index : Int) : Except Exception α :=
  if 0 ≤ index then readAt array index.toNat else .error .outOfRange

def store (array : List α) (index : Int) (value : α) : Except Exception (List α) :=
  writeAt array index [value]

def readSpan (data : Bytes) (offset : Int) (length : Nat) : Except Exception Bytes :=
  if 0 ≤ offset ∧ offset + length ≤ data.length then .ok (slice data offset.toNat length)
  else .error .outOfRange

-- ---------------------------------------------------------------------------
-- Images
-- ---------------------------------------------------------------------------

/-- A color and, in images that have it, its alpha. -/
abbrev Pixel := Rgb24 × Option UInt8

abbrev Arrays := List Rgb24 × Option (List UInt8)

def newArrays (hasAlpha : Bool) (length : Int) : Except Exception Arrays := do
  let pixels ← newArray Rgb24 length
  if hasAlpha then
    let alpha ← newArray UInt8 length
    .ok (pixels, some alpha)
  else .ok (pixels, none)

def storePixel (arrays : Arrays) (targetIndex : Int) (pixel : Pixel) :
    Except Exception Arrays := do
  let pixels ← store arrays.1 targetIndex pixel.1
  match arrays.2, pixel.2 with
  | some alpha, some value => do
    let alpha ← store alpha targetIndex value
    .ok (pixels, some alpha)
  | alpha, _ => .ok (pixels, alpha)

/-- The loops over the rows and columns of an image. -/
def forEachPixel (width height : Int) (read : Nat → Nat → Except Failure Pixel)
    (arrays : Arrays) : Except Failure Arrays :=
  (List.range height.toNat).foldlM (fun arrays y =>
    (List.range width.toNat).foldlM (fun arrays x => do
      let pixel ← read y x
      storePixel arrays (int32 (int32 (y * width) + x)) pixel) arrays) arrays

namespace BmpLoader

-- ---------------------------------------------------------------------------
-- Numbers in the file
-- ---------------------------------------------------------------------------

def readInt32 (data : Bytes) (offset : Int) : Except Exception Int := do
  let bytes ← readSpan data offset 4
  .ok (int32 (littleEndianValue bytes))

def readUInt16 (data : Bytes) (offset : Int) : Except Exception Nat := do
  let bytes ← readSpan data offset 2
  .ok (littleEndianValue bytes)

def readUInt32 (data : Bytes) (offset : Int) : Except Exception UInt32 := do
  let bytes ← readSpan data offset 4
  .ok (UInt32.ofNat (littleEndianValue bytes))

-- ---------------------------------------------------------------------------
-- Bit fields
-- ---------------------------------------------------------------------------

/-- The first loop. After 32 bits it looks at the first one again. -/
def maskShift (mask : UInt32) : (fuel shift : Nat) → Except Failure Nat
  | 0, _ => .error .endless
  | fuel + 1, shift =>
    if (mask >>> UInt32.ofNat shift) &&& 1 = 0 then maskShift mask fuel (shift + 1) else .ok shift

def maskWidth : (fuel : Nat) → (normalizedMask : UInt32) → (width : Nat) → Except Failure Nat
  | 0, _, _ => .error .endless
  | fuel + 1, normalizedMask, width =>
    if normalizedMask &&& 1 ≠ 0 then maskWidth fuel (normalizedMask >>> 1) (width + 1)
    else .ok width

def extractBitfieldChannel (packedPixel mask : UInt32) : Except Failure UInt8 :=
  if mask = 0 then .ok 0
  else do
    let shift ← maskShift mask 32 0
    let value := (packedPixel &&& mask) >>> UInt32.ofNat shift
    let normalizedMask := mask >>> UInt32.ofNat shift
    let width ← maskWidth 33 normalizedMask 0
    let maxValue : UInt32 := (1 <<< UInt32.ofNat width) - 1
    if maxValue = 0 then .error .divideByZero
    else .ok ((value * 255 + maxValue / 2) / maxValue).toUInt8

-- ---------------------------------------------------------------------------
-- Headers
-- ---------------------------------------------------------------------------

structure Header where
  dataOffset : Int
  dibSize : Int
  width : Int
  rawHeight : Int
  bitsPerPixel : Nat
  compression : Int
  deriving DecidableEq, Repr

def readHeader (bytes : Bytes) : Except Exception Header := do
  throwIf (bytes.length < 54 ∨ slice bytes 0 2 ≠ asciiBytes "BM")
    (.invalidOperation "The source file is not a valid BMP.")
  let dataOffset ← readInt32 bytes 10
  let dibSize ← readInt32 bytes 14
  throwIf (dibSize < 40)
    (.invalidOperation "Only BITMAPINFOHEADER-style BMP files are supported.")
  let width ← readInt32 bytes 18
  let rawHeight ← readInt32 bytes 22
  let planes ← readUInt16 bytes 26
  let bitsPerPixel ← readUInt16 bytes 28
  let compression ← readInt32 bytes 30
  throwIf (width ≤ 0 ∨ rawHeight = 0) (.invalidOperation "Unsupported BMP dimensions.")
  throwIf (planes ≠ 1) (.invalidOperation "Unsupported BMP plane count.")
  throwIf (compression ≠ 0 ∧ ¬ (compression = 3 ∧ bitsPerPixel = 32))
    (.invalidOperation
      "Only uncompressed BMP files and 32-bit BI_BITFIELDS BMP files are supported.")
  .ok { dataOffset, dibSize, width, rawHeight, bitsPerPixel, compression }

def absolute (value : Int) : Except Exception Int :=
  if value = -2 ^ 31 then .error .overflow else .ok |value|

def Header.rowStride (header : Header) : Int :=
  int32 ((int32 (int32 (header.width * header.bitsPerPixel) + 31)).tdiv 32 * 4)

/-- The bytes of a color are stored from blue to red. -/
def readColor (bytes : Bytes) (offset : Int) : Except Exception Rgb24 := do
  let r ← element bytes (int32 (offset + 2))
  let g ← element bytes (int32 (offset + 1))
  let b ← element bytes offset
  .ok { r, g, b }

def readPalette (bytes : Bytes) (dibSize : Int) : Except Exception (List Rgb24) := do
  let stored ← readInt32 bytes 46
  let paletteCount := if stored ≤ 0 then 256 else stored
  let paletteOffset := int32 (14 + dibSize)
  (List.range paletteCount.toNat).mapM fun (i : Nat) =>
    readColor bytes (int32 (paletteOffset + int32 (i * 4)))

structure Colors where
  palette : Option (List Rgb24)
  redMask : UInt32
  greenMask : UInt32
  blueMask : UInt32
  alphaMask : UInt32
  deriving DecidableEq, Repr

def readColors (bytes : Bytes) (header : Header) : Except Exception Colors :=
  if header.bitsPerPixel = 8 then do
    let palette ← readPalette bytes header.dibSize
    .ok ⟨some palette, 0, 0, 0, 0⟩
  else if header.bitsPerPixel = 32 ∧ header.compression = 3 then do
    let redMask ← readUInt32 bytes 54
    let greenMask ← readUInt32 bytes 58
    let blueMask ← readUInt32 bytes 62
    let alphaMask ← readUInt32 bytes 66
    .ok ⟨none, redMask, greenMask, blueMask, alphaMask⟩
  else .ok ⟨none, 0, 0, 0, 0⟩

-- ---------------------------------------------------------------------------
-- Pixels
-- ---------------------------------------------------------------------------

def readBitfields (colors : Colors) (packedPixel : UInt32) : Except Failure Pixel := do
  let r ← extractBitfieldChannel packedPixel colors.redMask
  let g ← extractBitfieldChannel packedPixel colors.greenMask
  let b ← extractBitfieldChannel packedPixel colors.blueMask
  let alpha ← if colors.alphaMask ≠ 0 then extractBitfieldChannel packedPixel colors.alphaMask
    else .ok 255
  .ok ({ r, g, b }, some alpha)

def readPixel (bytes : Bytes) (header : Header) (colors : Colors) (rowStart x : Int) :
    Except Failure Pixel :=
  match header.bitsPerPixel with
  | 24 => do
    let color ← readColor bytes (int32 (rowStart + int32 (x * 3)))
    .ok (color, none)
  | 32 => do
    let pixelOffset := int32 (rowStart + int32 (x * 4))
    if header.compression = 3 then
      let packedPixel ← readUInt32 bytes pixelOffset
      readBitfields colors packedPixel
    else
      let color ← readColor bytes pixelOffset
      let alpha ← element bytes (int32 (pixelOffset + 3))
      .ok (color, some alpha)
  | 8 => do
    let paletteIndex ← element bytes (int32 (rowStart + x))
    match colors.palette.bind (·[paletteIndex.toNat]?) with
    | some color => .ok (color, none)
    | none => throw (.thrown (.invalidOperation "The BMP palette is malformed."))
  | bitsPerPixel =>
    throw (.thrown (.invalidOperation
      ("Unsupported BMP depth: " ++ toString bitsPerPixel ++ " bits per pixel.")))

/-- A row of the image; rows are stored from the bottom to the top unless the height in the
file is negative. -/
def rowStart (header : Header) (height : Int) (y : Nat) : Int :=
  let sourceY := if header.rawHeight < 0 then (y : Int) else height - 1 - y
  int32 (header.dataOffset + int32 (sourceY * header.rowStride))

def load (bytes : Bytes) : Except Failure BmpImage := do
  let header ← readHeader bytes
  let height ← absolute header.rawHeight
  let arrays ← newArrays (header.bitsPerPixel = 32) (int32 (header.width * height))
  let colors ← readColors bytes header
  let (pixels, alpha) ← forEachPixel header.width height
    (fun y x => readPixel bytes header colors (rowStart header height y) x) arrays
  .ok { width := header.width, height, pixels, alpha }

end BmpLoader

-- ---------------------------------------------------------------------------
-- Writing
-- ---------------------------------------------------------------------------

namespace SampleBitmapWriter

def int32Bytes (value : Int) : Bytes := littleEndian32 (UInt32.ofNat (value % 2 ^ 32).toNat)

abbrev Cursor := Bytes × Int

def put (state : Cursor) (value : UInt8) : Except Exception Cursor := do
  let bytes ← store state.1 state.2 value
  .ok (bytes, int32 (state.2 + 1))

/-- The loop at the end of a row. -/
def padRow (rowStride : Int) : (fuel : Nat) → Cursor → Except Failure Cursor
  | 0, _ => .error .endless
  | fuel + 1, state =>
    if rowStride = 0 then .error .divideByZero
    else if (int32 (state.2 - 54)).tmod rowStride ≠ 0 then do
      let state ← put state 0
      padRow rowStride fuel state
    else .ok state

def writePixel (width : Int) (pixels : List Rgb24) (y x : Int) (state : Cursor) :
    Except Exception Cursor := do
  let pixel ← element pixels (int32 (int32 (y * width) + x))
  let state ← put state pixel.b
  let state ← put state pixel.g
  put state pixel.r

def writeRow (width rowStride : Int) (pixels : List Rgb24) (y : Int) (state : Cursor) :
    Except Failure Cursor := do
  let state ← (List.range width.toNat).foldlM
    (fun state (x : Nat) => writePixel width pixels y x state) state
  padRow rowStride (state.1.length + 1) state

def header (fileSize width height pixelDataSize : Int) : List (Nat × Bytes) :=
  [(0, asciiBytes "B"), (1, asciiBytes "M"), (2, int32Bytes fileSize), (10, int32Bytes 54),
    (14, int32Bytes 40), (18, int32Bytes width), (22, int32Bytes height), (26, littleEndian16 1),
    (28, littleEndian16 24), (34, int32Bytes pixelDataSize)]

/-- Clearing the two low bits makes a multiple of four. -/
def write24BitBmp (width height : Int) (pixels : List Rgb24) : Except Failure Bytes := do
  let rowStride := int32 (int32 (width * 3) + 3) / 4 * 4
  let pixelDataSize := int32 (rowStride * height)
  let fileSize := int32 (14 + 40 + pixelDataSize)
  let bytes ← newArray UInt8 fileSize
  let bytes ← writeFields bytes (header fileSize width height pixelDataSize)
  let (bytes, _) ← (List.range height.toNat).foldlM
    (fun state (row : Nat) => writeRow width rowStride pixels (height - 1 - row) state) (bytes, 54)
  .ok bytes

end SampleBitmapWriter

-- ---------------------------------------------------------------------------
-- Filling an image
-- ---------------------------------------------------------------------------

@[simp] theorem liftM_ok {x : Except Exception α} :
    (liftM x : Except Failure α) = .ok value ↔ x = .ok value := by
  cases x <;> simp [liftM, monadLift, MonadLift.monadLift, Except.mapError]

theorem liftM_eq {x : Except Exception α} (h : x = .ok value) :
    (liftM x : Except Failure α) = .ok value := liftM_ok.mpr h

theorem int32_natCast {value : Nat} (h : value < 2 ^ 31) : int32 value = value :=
  int32_eq (by omega) (by omega)

def filled (hasAlpha : Bool) (count : Nat) (pixels : List Pixel) : Arrays :=
  (fillTo 0 count (pixels.map Prod.fst),
    if hasAlpha then some (fillTo 0 count (pixels.map fun pixel => pixel.2.getD 0)) else none)

theorem newArrays_eq (hasAlpha : Bool) (count : Nat) :
    newArrays hasAlpha count = .ok (filled hasAlpha count []) := by
  have hzeros : ∀ {α : Type} [OfNat α 0], newArray α count = .ok (fillTo 0 count []) := fun {α _} =>
    newArray_ok.mpr ⟨Int.natCast_nonneg _, by
      rw [fillTo, List.nil_append, Int.toNat_natCast, List.take_of_length_le]
      exact List.length_replicate.le⟩
  rw [newArrays, hzeros, ok_bind]
  cases hasAlpha with
  | false => rfl
  | true => rw [if_pos rfl, hzeros, ok_bind, filled, if_pos rfl, List.map_nil, List.map_nil]

theorem store_next (filler : α) (values : List α) (value : α) (h : values.length < count) :
    store (fillTo filler count values) values.length value =
      .ok (fillTo filler count (values ++ [value])) := by
  refine writeAt_ok.mpr ⟨Int.natCast_nonneg _, ?_, ?_⟩
  · rw [length_fillTo, List.length_singleton]
    omega
  · rw [Int.toNat_natCast, overwrite_next filler value h]

theorem storePixel_filled {pixels : List Pixel} {pixel : Pixel} (h : pixels.length < count)
    (halpha : pixel.2.isSome = hasAlpha) :
    storePixel (filled hasAlpha count pixels) pixels.length pixel =
      .ok (filled hasAlpha count (pixels ++ [pixel])) := by
  obtain ⟨color, alpha⟩ := pixel
  have hcolors := store_next 0 (pixels.map Prod.fst) color (by rwa [List.length_map])
  rw [List.length_map] at hcolors
  rw [storePixel, filled, hcolors, ok_bind, filled, List.map_append, List.map_append]
  obtain rfl := halpha
  cases alpha with
  | none => rfl
  | some value =>
    have halphas := store_next 0 (pixels.map fun pixel : Pixel => pixel.2.getD 0) value
      (by rwa [List.length_map])
    rw [List.length_map] at halphas
    simp only [Option.isSome_some, if_true, halphas, ok_bind, List.map_cons, List.map_nil,
      Option.getD_some]

theorem forEachPixel_eq {width height : Nat} {read : Nat → Nat → Except Failure Pixel}
    (hsize : height * width < 2 ^ 31)
    (halpha : ∀ y x pixel, read y x = .ok pixel → pixel.2.isSome = hasAlpha) :
    forEachPixel width height read (filled hasAlpha (height * width) []) =
      (List.range (height * width)).mapM (fun i => read (i / width) (i % width)) >>= fun pixels =>
        .ok (filled hasAlpha (height * width) pixels) := by
  rw [forEachPixel, Int.toNat_natCast, Int.toNat_natCast, foldlM_range_nested]
  refine foldlM_range_fill (filled hasAlpha (height * width)) fun pixels hpixels => ?_
  have hplace : int32 (int32 ((pixels.length / width : Nat) * (width : Int)) +
      (pixels.length % width : Nat)) = pixels.length := by
    have hsplit := Nat.div_add_mod pixels.length width
    rw [Int.mul_comm, ← Int.natCast_mul, int32_natCast (by omega), ← Int.natCast_add, hsplit,
      int32_natCast (by omega)]
  rw [hplace]
  cases hread : read (pixels.length / width) (pixels.length % width) with
  | error failure => rfl
  | ok pixel => exact liftM_eq (storePixel_filled hpixels (halpha _ _ _ hread))

theorem filled_full (hasAlpha : Bool) {pixels : List Pixel} (h : pixels.length = count) :
    filled hasAlpha count pixels = (pixels.map Prod.fst,
      if hasAlpha then some (pixels.map fun pixel => pixel.2.getD 0) else none) := by
  subst h
  have hfull : ∀ {α : Type} [OfNat α 0] (part : Pixel → α),
      fillTo 0 pixels.length (pixels.map part) = pixels.map part := fun part => by
    rw [← List.length_map (f := part), fillTo_self]
  rw [filled, hfull, hfull]

theorem element_getD {array : List α} (filler : α) (h : index < array.length) :
    element array index = .ok (array.getD index filler) := by
  rw [element, if_pos (Int.natCast_nonneg _), Int.toNat_natCast, readAt_ok,
    List.getD_eq_getElem?_getD, List.getElem?_eq_getElem h, Option.getD_some]

end DragonOS.Build
