import DragonOS.Build.BitmapRows
import DragonOS.Build.IsoReading
import DragonOS.Lib.Blocks

/-!
# Writing a bitmap and reading it again

The writer puts one byte behind the other: `Appends` says which bytes a step adds. The file
is a header and the rows from the bottom to the top, each filled up to whole words
(`write24BitBmp_eq`). The loader computes the length of a row in bits, which overflows for
wide images: `load_write24BitBmp_iff` says when it gets the image back.
-/

namespace DragonOS.Build

open Lib
open IsoReader (littleEndianValue)

namespace SampleBitmapWriter

-- ---------------------------------------------------------------------------
-- The file
-- ---------------------------------------------------------------------------

def pixelBytes (color : Rgb24) : Bytes := [color.b, color.g, color.r]

def stride (width : Nat) : Nat := (width * 3 + 3) / 4 * 4

section
variable (width height : Nat) (pixels : List Rgb24)

def colorsOf (y : Nat) : Bytes :=
  blocks width fun x => pixelBytes (pixels.getD (y * width + x) 0)

def rowBytes (y : Nat) : Bytes :=
  colorsOf width pixels y ++ List.replicate (stride width - width * 3) 0

def dataSize : Nat := height * stride width

def headerBytes : Bytes :=
  asciiBytes "BM" ++ int32Bytes (54 + dataSize width height : Nat) ++ [0, 0, 0, 0] ++
    int32Bytes 54 ++ int32Bytes 40 ++ int32Bytes width ++ int32Bytes height ++
    littleEndian16 1 ++ littleEndian16 24 ++ [0, 0, 0, 0] ++
    int32Bytes (dataSize width height) ++ List.replicate 16 0

def rowsBytes (count : Nat) : Bytes := blocks count fun row => rowBytes width pixels (height - 1 - row)

def fileBytes : Bytes := headerBytes width height ++ rowsBytes width height pixels height

end

theorem length_colorsOf (width : Nat) (pixels : List Rgb24) (y : Nat) :
    (colorsOf width pixels y).length = width * 3 := length_blocks fun _ _ => rfl

theorem le_stride (width : Nat) : width * 3 ≤ stride width := by
  rw [stride]
  omega

theorem length_rowBytes (width : Nat) (pixels : List Rgb24) (y : Nat) :
    (rowBytes width pixels y).length = stride width := by
  rw [rowBytes, List.length_append, length_colorsOf, List.length_replicate]
  exact Nat.add_sub_cancel' (le_stride width)

theorem length_rowsBytes (width height : Nat) (pixels : List Rgb24) (count : Nat) :
    (rowsBytes width height pixels count).length = count * stride width :=
  length_blocks fun _ _ => length_rowBytes _ _ _

theorem length_headerBytes (width height : Nat) : (headerBytes width height).length = 54 := rfl

theorem length_fileBytes (width height : Nat) (pixels : List Rgb24) :
    (fileBytes width height pixels).length = 54 + dataSize width height := by
  rw [fileBytes, List.length_append, length_headerBytes, length_rowsBytes, dataSize]

-- ---------------------------------------------------------------------------
-- Writing
-- ---------------------------------------------------------------------------

/-- An array of the given size with its first bytes written. -/
def written (size : Nat) (values : Bytes) : Cursor := (fillTo 0 size values, values.length)

def Appends {ε : Type} (size : Nat) (step : Cursor → Except ε Cursor) (bytes : Bytes) : Prop :=
  ∀ values : Bytes, values.length + bytes.length ≤ size →
    step (written size values) = .ok (written size (values ++ bytes))

section
variable {ε : Type} {size : Nat}

theorem Appends.bind {first second : Cursor → Except ε Cursor} {bytes more : Bytes}
    (hfirst : Appends size first bytes) (hsecond : Appends size second more) :
    Appends size (fun state => first state >>= second) (bytes ++ more) := by
  intro values hroom
  rw [List.length_append] at hroom
  dsimp only
  rw [hfirst values (by omega), ok_bind, hsecond _ (by rw [List.length_append]; omega),
    List.append_assoc]

theorem put_appends (hsize : size < 2 ^ 31) (value : UInt8) :
    Appends size (put · value) [value] := by
  intro values hroom
  rw [List.length_singleton] at hroom
  have hsmall : values.length + 1 < 2 ^ 31 := by omega
  have hnext : int32 ((values.length : Int) + 1) = (values ++ [value]).length := by
    rw [List.length_append, List.length_singleton]
    exact int32_natCast hsmall
  simp only [put, written, store_next 0 values value hroom, ok_bind, hnext]

theorem Appends.foldlM {step : Cursor → Nat → Except ε Cursor} {block : Nat → Bytes}
    (h : ∀ i < count, Appends size (step · i) (block i)) :
    Appends size (fun state => (List.range count).foldlM step state) (blocks count block) := by
  induction count with
  | zero =>
    intro values _
    rw [blocks_zero, List.append_nil]
    rfl
  | succ count ih =>
    simp only [foldlM_range_succ, blocks_succ]
    exact (ih fun i hi => h i (Nat.lt_succ_of_lt hi)).bind (h count (Nat.lt_succ_self _))

theorem Appends.lift {step : Cursor → Except Exception Cursor} {bytes : Bytes}
    (h : Appends size step bytes) :
    Appends size (fun state => (liftM (step state) : Except Failure Cursor)) bytes :=
  fun values hroom => liftM_eq (h values hroom)

theorem writePixel_appends {width y x : Nat} {pixels : List Rgb24} (hsize : size < 2 ^ 31)
    (hindex : y * width + x < pixels.length) (hpixels : pixels.length < 2 ^ 31) :
    Appends size (fun state => writePixel width pixels y x state)
      (pixelBytes (pixels.getD (y * width + x) 0)) := by
  have hplace : int32 (int32 ((y : Int) * width) + x) = (y * width + x : Nat) := by
    rw [← Int.natCast_mul, int32_natCast (by omega), ← Int.natCast_add, int32_natCast (by omega)]
  simp only [writePixel, hplace, element_getD 0 hindex, ok_bind]
  exact (put_appends hsize _).bind ((put_appends hsize _).bind (put_appends hsize _))

theorem rest_of_row {row used rowStride place : Nat} (hsmall : place < 2 ^ 31)
    (hplace : place = 54 + (row * rowStride + used)) :
    (int32 ((place : Int) - 54)).tmod rowStride = (used % rowStride : Nat) := by
  have hexact : (place : Int) - 54 = (row * rowStride + used : Nat) := by omega
  rw [hexact, int32_natCast (by omega), Int.tmod_eq_emod_of_nonneg (Int.natCast_nonneg _),
    ← Int.natCast_emod, Nat.add_comm, Nat.add_mul_mod_self_right]

/-- The loop stops where a row is full: `used` bytes of it are there, `pad` are missing. -/
theorem padRow_eq {row used pad rowStride fuel : Nat} {values : Bytes} (hsize : size < 2 ^ 31)
    (hused : 0 < used) (hfull : used + pad = rowStride)
    (hvalues : values.length = 54 + (row * rowStride + used)) (hroom : values.length + pad ≤ size)
    (hfuel : pad < fuel) :
    padRow rowStride fuel (written size values) =
      .ok (written size (values ++ List.replicate pad 0)) := by
  have hstride : (rowStride : Int) ≠ 0 := by omega
  induction pad generalizing used values fuel with
  | zero =>
    obtain ⟨fuel, rfl⟩ := Nat.exists_eq_succ_of_ne_zero (Nat.ne_zero_of_lt hfuel)
    have hdone : used % rowStride = 0 := by rw [← hfull, Nat.add_zero, Nat.mod_self]
    rw [padRow, if_neg hstride, if_neg, List.replicate_zero, List.append_nil]
    rw [written, rest_of_row (by omega) hvalues, hdone]
    exact not_not.mpr rfl
  | succ pad ih =>
    obtain ⟨fuel, rfl⟩ := Nat.exists_eq_succ_of_ne_zero (Nat.ne_zero_of_lt hfuel)
    have hmissing : (int32 ((written size values).2 - 54)).tmod rowStride ≠ 0 := by
      rw [written, rest_of_row (by omega) hvalues, Nat.mod_eq_of_lt (by omega)]
      omega
    have hlength : (values ++ [0]).length = values.length + 1 := by simp
    rw [padRow, if_neg hstride, if_pos hmissing,
      liftM_eq (put_appends hsize 0 values (by rw [List.length_singleton]; omega)), ok_bind,
      ih (Nat.succ_pos used) (by omega) (by rw [hlength]; omega) (by rw [hlength]; omega) (by omega),
      List.append_assoc, List.singleton_append, ← List.replicate_succ]

theorem writeRow_eq {width row y : Nat} {pixels : List Rgb24} {values : Bytes}
    (hsize : size < 2 ^ 31) (hwidth : 0 < width)
    (hindex : y * width + width ≤ pixels.length) (hpixels : pixels.length < 2 ^ 31)
    (hvalues : values.length = 54 + row * stride width)
    (hroom : values.length + stride width ≤ size) :
    writeRow width (stride width) pixels y (written size values) =
      .ok (written size (values ++ rowBytes width pixels y)) := by
  have hle := le_stride width
  have hcolors := length_colorsOf width pixels y
  have hloop : Appends size (fun state => (List.range width).foldlM (fun state (x : Nat) =>
      (liftM (writePixel width pixels y x state) : Except Failure Cursor)) state)
      (colorsOf width pixels y) :=
    Appends.foldlM fun x hx => (writePixel_appends hsize (by omega) hpixels).lift
  have hrow := hloop values (by omega)
  dsimp only at hrow
  rw [writeRow, Int.toNat_natCast, hrow, ok_bind, rowBytes, ← List.append_assoc]
  refine padRow_eq hsize (show 0 < width * 3 by omega) (by omega)
    (show _ = 54 + (row * stride width + width * 3) from ?_) ?_ ?_
  · rw [List.length_append]
    omega
  · rw [List.length_append]
    omega
  · rw [written, length_fillTo]
    omega

theorem putRegions_zeros {front : Bytes} {fields : List (Nat × Bytes)} {length count : Nat}
    (h : Contiguous front.length fields) (hlength : (fields.flatMap (·.2)).length = length)
    (gap rest : Nat) (hcount : count = length + (gap + rest)) :
    putRegions (front ++ List.replicate count 0) fields =
      front ++ fields.flatMap (·.2) ++ List.replicate gap 0 ++ List.replicate rest 0 := by
  rw [putRegions_contiguous h, List.drop_replicate, hlength, hcount, Nat.add_sub_cancel_left,
    List.append_assoc _ (List.replicate gap 0), List.replicate_append_replicate]

theorem length_int32Bytes (value : Int) : (int32Bytes value).length = 4 := rfl

theorem writeFields_header {width height fileSize : Nat}
    (hsize : fileSize = 54 + dataSize width height) :
    writeFields (List.replicate fileSize 0) (header fileSize width height (dataSize width height)) =
      .ok (fillTo 0 fileSize (headerBytes width height)) := by
  have hletters : (asciiBytes "B").length = 1 ∧ (asciiBytes "M").length = 1 := ⟨rfl, rfl⟩
  have horder : InOrder 0 (List.replicate fileSize (0 : UInt8)).length
      (header fileSize width height (dataSize width height)) := by
    simp only [header, InOrder, hletters, length_int32Bytes, length_littleEndian16,
      List.length_replicate]
    omega
  obtain ⟨first, hfirst⟩ : ∃ first : List (Nat × Bytes), first =
    [(0, asciiBytes "B"), (1, asciiBytes "M"), (2, int32Bytes fileSize)] := ⟨_, rfl⟩
  obtain ⟨second, hsecond⟩ : ∃ second : List (Nat × Bytes), second =
    [(10, int32Bytes 54), (14, int32Bytes 40), (18, int32Bytes width), (22, int32Bytes height),
      (26, littleEndian16 1), (28, littleEndian16 24)] := ⟨_, rfl⟩
  obtain ⟨third, hthird⟩ : ∃ third : List (Nat × Bytes), third =
    [(34, int32Bytes (dataSize width height))] := ⟨_, rfl⟩
  have hfields : header fileSize width height (dataSize width height) = first ++ (second ++ third) := by
    rw [hfirst, hsecond, hthird]
    rfl
  obtain ⟨front, hfront⟩ : ∃ front : Bytes,
    front = [] ++ first.flatMap (·.2) ++ List.replicate 4 0 := ⟨_, rfl⟩
  obtain ⟨middle, hmiddle⟩ : ∃ middle : Bytes,
    middle = front ++ second.flatMap (·.2) ++ List.replicate 4 0 := ⟨_, rfl⟩
  have hstart : putRegions ([] ++ List.replicate fileSize 0) first =
      front ++ List.replicate (fileSize - 10) 0 := by
    rw [hfront]
    exact putRegions_zeros (by rw [hfirst]; exact ⟨rfl, rfl, rfl, trivial⟩)
      (show _ = 6 by rw [hfirst]; rfl) 4 (fileSize - 10) (by omega)
  have hfrontLength : front.length = 10 := by
    rw [hfront, hfirst]
    rfl
  have hnext : putRegions (front ++ List.replicate (fileSize - 10) 0) second =
      middle ++ List.replicate (fileSize - 34) 0 := by
    rw [hmiddle]
    exact putRegions_zeros
      (by rw [hfrontLength, hsecond]; exact ⟨rfl, rfl, rfl, rfl, rfl, rfl, trivial⟩)
      (show _ = 20 by rw [hsecond]; rfl) 4 (fileSize - 34) (by omega)
  have hmiddleLength : middle.length = 34 := by
    rw [hmiddle, List.length_append, List.length_append, hfrontLength, hsecond]
    rfl
  have hend : putRegions (middle ++ List.replicate (fileSize - 34) 0) third =
      middle ++ third.flatMap (·.2) ++ List.replicate 16 0 ++ List.replicate (fileSize - 54) 0 :=
    putRegions_zeros (by rw [hmiddleLength, hthird]; exact ⟨rfl, trivial⟩)
      (show _ = 4 by rw [hthird]; rfl) 16 (fileSize - 54) (by omega)
  have hbytes : middle ++ third.flatMap (·.2) ++ List.replicate 16 0 = headerBytes width height := by
    rw [hmiddle, hfront, hfirst, hsecond, hthird, hsize]
    rfl
  rw [writeFields_ok horder, hfields, putRegions_append, putRegions_append,
    ← List.nil_append (List.replicate fileSize 0), hstart, hnext, hend, hbytes,
    fillTo_of_le 0 (by rw [length_headerBytes]; omega), length_headerBytes]

theorem writeRows_eq {width height count : Nat} {pixels : List Rgb24} (hwidth : 0 < width)
    (hsize : 54 + dataSize width height < 2 ^ 31) (hpixels : pixels.length = height * width)
    (hcount : count ≤ height) :
    (List.range count).foldlM (fun state (row : Nat) =>
        writeRow width (stride width) pixels ((height : Int) - 1 - row) state)
        (written (54 + dataSize width height) (headerBytes width height)) =
      .ok (written (54 + dataSize width height)
        (headerBytes width height ++ rowsBytes width height pixels count)) := by
  have hcolors : height * width ≤ dataSize width height :=
    Nat.mul_le_mul_left _ (Nat.le_trans (by omega) (le_stride width))
  induction count with
  | zero =>
    rw [rowsBytes, blocks_zero, List.append_nil]
    rfl
  | succ count ih =>
    have hrow : (height : Int) - 1 - count = (height - 1 - count : Nat) := by omega
    have hinside : (height - 1 - count) * width + width ≤ height * width := by
      rw [← Nat.succ_mul]
      exact Nat.mul_le_mul_right _ (by omega)
    have hroom : (count + 1) * stride width ≤ dataSize width height :=
      Nat.mul_le_mul_right _ hcount
    rw [Nat.succ_mul] at hroom
    have hlength : (headerBytes width height ++ rowsBytes width height pixels count).length =
        54 + count * stride width := by
      rw [List.length_append, length_headerBytes, length_rowsBytes]
    rw [foldlM_range_succ, ih (Nat.le_of_succ_le hcount), ok_bind, hrow,
      writeRow_eq hsize hwidth (hpixels ▸ hinside) (by omega) hlength (by omega), rowsBytes,
      rowsBytes, blocks_succ, List.append_assoc]

theorem write24BitBmp_eq {width height : Nat} {pixels : List Rgb24} (hwidth : 0 < width)
    (hheight : 0 < height) (hsize : 54 + dataSize width height < 2 ^ 31)
    (hpixels : pixels.length = height * width) :
    write24BitBmp width height pixels = .ok (fileBytes width height pixels) := by
  have hle := le_stride width
  have hdata : stride width ≤ dataSize width height := Nat.le_mul_of_pos_left _ hheight
  have hstride : int32 (int32 ((width : Int) * 3) + 3) / 4 * 4 = stride width := by
    have hsmall : width * 3 + 3 < 2 ^ 31 := by omega
    have hsum : int32 ((width * 3 : Nat) + 3) = (width * 3 + 3 : Nat) := int32_natCast hsmall
    have hthree : ((width : Int) * 3) = (width * 3 : Nat) := rfl
    rw [hthree, int32_natCast (by omega), hsum, stride]
    rfl
  have hdataSize : int32 ((stride width : Int) * height) = dataSize width height := by
    rw [← Int.natCast_mul, Nat.mul_comm, int32_natCast (show height * stride width < 2 ^ 31 from ?_)]
    · rfl
    · exact (Nat.le_add_left _ _).trans_lt hsize
  have hfileSize : int32 (14 + 40 + (dataSize width height : Int)) =
      (54 + dataSize width height : Nat) := int32_natCast hsize
  have hzeros : newArray UInt8 (54 + dataSize width height : Nat) =
      .ok (List.replicate (54 + dataSize width height) 0) :=
    newArray_ok.mpr ⟨Int.natCast_nonneg _, by rw [Int.toNat_natCast]⟩
  have hstart : (fillTo 0 (54 + dataSize width height) (headerBytes width height), (54 : Int)) =
      written (54 + dataSize width height) (headerBytes width height) := by
    rw [written, length_headerBytes]
    rfl
  have hrows := writeRows_eq hwidth hsize hpixels (Nat.le_refl height)
  rw [write24BitBmp]
  simp only [hstride, hdataSize, hfileSize, liftM_eq hzeros, liftM_eq (writeFields_header rfl),
    ok_bind, hstart, Int.toNat_natCast, hrows]
  rw [← fileBytes, written, ← length_fileBytes width height pixels, fillTo_self]

end

end SampleBitmapWriter

-- ---------------------------------------------------------------------------
-- Reading
-- ---------------------------------------------------------------------------

open SampleBitmapWriter

section
variable {width height : Nat} {pixels : List Rgb24}

theorem slice_fileBytes (width height : Nat) (pixels : List Rgb24) (h : offset + length ≤ 54) :
    slice (fileBytes width height pixels) offset length =
      slice (headerBytes width height) offset length :=
  slice_append_left _ (by rw [length_headerBytes]; exact h)

theorem int32_littleEndianValue {value : Int} (hlow : -2 ^ 31 ≤ value) (hhigh : value < 2 ^ 31) :
    int32 (littleEndianValue (int32Bytes value)) = value := by
  have hword : ((UInt32.ofNat (value % 2 ^ 32).toNat).toNat : Int) = value % 2 ^ 32 := by
    rw [UInt32.toNat_ofNat', Nat.mod_eq_of_lt (by omega)]
    omega
  have hmod : (value % (2 ^ 32 : Nat)).bmod (2 ^ 32) = value.bmod (2 ^ 32) := Int.emod_bmod ..
  rw [int32Bytes, IsoReader.littleEndianValue_littleEndian32, hword]
  exact hmod.trans (int32_eq hlow hhigh)

theorem int32At_fileBytes {offset : Nat} {value : Int} (hoffset : offset ≤ 50)
    (hslice : slice (headerBytes width height) offset 4 = int32Bytes value)
    (hlow : -2 ^ 31 ≤ value) (hhigh : value < 2 ^ 31) :
    BmpLoader.int32At (fileBytes width height pixels) offset = value := by
  rw [BmpLoader.int32At, slice_fileBytes _ _ _ (by omega), hslice,
    int32_littleEndianValue hlow hhigh]

def writtenHeader (width height : Nat) : BmpLoader.Header := ⟨54, 40, width, height, 24, 0⟩

theorem readHeader_fileBytes (hwidth : 0 < width) (hheight : 0 < height)
    (hsize : 54 + dataSize width height < 2 ^ 31) :
    BmpLoader.readHeader (fileBytes width height pixels) = .ok (writtenHeader width height) := by
  have hcount : height * width ≤ dataSize width height :=
    Nat.mul_le_mul_left _ (Nat.le_trans (by omega) (le_stride width))
  have hwidthMost : width ≤ height * width := Nat.le_mul_of_pos_left _ hheight
  have hheightMost : height ≤ height * width := Nat.le_mul_of_pos_right _ hwidth
  have hdataOffset : BmpLoader.int32At (fileBytes width height pixels) 10 = 54 :=
    int32At_fileBytes (by decide) rfl (by decide) (by decide)
  have hdibSize : BmpLoader.int32At (fileBytes width height pixels) 14 = 40 :=
    int32At_fileBytes (by decide) rfl (by decide) (by decide)
  have hwidthField : BmpLoader.int32At (fileBytes width height pixels) 18 = width :=
    int32At_fileBytes (by decide) rfl (by omega) (by omega)
  have hheightField : BmpLoader.int32At (fileBytes width height pixels) 22 = height :=
    int32At_fileBytes (by decide) rfl (by omega) (by omega)
  have hcompression : BmpLoader.int32At (fileBytes width height pixels) 30 = 0 :=
    int32At_fileBytes (by decide) (show _ = int32Bytes 0 from rfl) (by decide) (by decide)
  have hplanes : BmpLoader.uint16At (fileBytes width height pixels) 26 = 1 := by
    rw [BmpLoader.uint16At, slice_fileBytes _ _ _ (by decide)]
    exact IsoReader.littleEndianValue_littleEndian16 1
  have hbitsPerPixel : BmpLoader.uint16At (fileBytes width height pixels) 28 = 24 := by
    rw [BmpLoader.uint16At, slice_fileBytes _ _ _ (by decide)]
    exact IsoReader.littleEndianValue_littleEndian16 24
  refine BmpLoader.readHeader_ok.mpr ⟨?_, ?_⟩
  · exact {
      length := by rw [length_fileBytes]; omega
      magic := by rw [slice_fileBytes _ _ _ (by decide)]; rfl
      dibSize := by rw [hdibSize]
      width := by rw [hwidthField]; omega
      rawHeight := by rw [hheightField]; omega
      planes := hplanes
      compression := .inl hcompression }
  · rw [BmpLoader.headerOf, hdataOffset, hdibSize, hwidthField, hheightField, hbitsPerPixel,
      hcompression, writtenHeader]

theorem getElem?_fileBytes (hy : y < height) (hx : x < width) (hc : c < 3) :
    (fileBytes width height pixels)[54 + (height - 1 - y) * stride width + x * 3 + c]? =
      (pixelBytes (pixels.getD (y * width + x) 0))[c]? := by
  have hcolor : x * 3 + c < width * 3 := place_lt hx hc
  have hrow : height - 1 - (height - 1 - y) = y := by omega
  have hplace : 54 + (height - 1 - y) * stride width + x * 3 + c - 54 =
      (height - 1 - y) * stride width + (x * 3 + c) := by omega
  rw [fileBytes, List.getElem?_append_right (by rw [length_headerBytes]; omega),
    length_headerBytes, hplace, rowsBytes,
    getElem?_blocks (fun _ _ => length_rowBytes _ _ _) (by omega)
      (hcolor.trans_le (le_stride width)), hrow, rowBytes,
    List.getElem?_append_left (by rw [length_colorsOf]; exact hcolor), colorsOf]
  exact getElem?_blocks (fun _ _ => rfl) hx hc

theorem readColors_written (bytes : Bytes) (width height : Nat) :
    BmpLoader.readColors bytes (writtenHeader width height) = .ok ⟨none, 0, 0, 0, 0⟩ := rfl

theorem bytesPerPixel_written (width height : Nat) :
    (writtenHeader width height).bytesPerPixel = 3 := by
  rw [BmpLoader.Header.bytesPerPixel]
  exact (by decide : 24 / 8 = 3)

/-- Both ways to round a row up to whole words. -/
theorem rowSize_eq_stride (width : Nat) : BmpLoader.rowSize width 24 = stride width := by
  rw [BmpLoader.rowSize, stride]
  omega

theorem fullRows_written (pixels : List Rgb24) (hsize : 54 + dataSize width height < 2 ^ 31) :
    BmpLoader.FullRows (fileBytes width height pixels) (writtenHeader width height) width height where
  columns := rfl
  rows := abs_of_nonneg (Int.natCast_nonneg _)
  supported := .inr (.inl rfl)
  dataOffset := (by decide : (0 : Int) ≤ 54)
  present := by
    have hrow : BmpLoader.rowSize width (writtenHeader width height).bitsPerPixel = _ :=
      rowSize_eq_stride width
    rw [hrow, length_fileBytes, dataSize, Int.natCast_add]
    rfl
  small := by rwa [length_fileBytes]

theorem pixelPlace_written (hstride : height = 1 ∨ 24 * width + 31 < 2 ^ 31) (hy : y < height)
    (x : Nat) : BmpLoader.pixelPlace (writtenHeader width height) height y x =
      (54 + (height - 1 - y) * stride width + x * 3 : Nat) := by
  have hrow : (height : Int) - 1 - y = (height - 1 - y : Nat) := by omega
  have hupward : ¬ (writtenHeader width height).rawHeight < 0 :=
    Int.not_lt.mpr (Int.natCast_nonneg _)
  have hdown : ((height - 1 - y : Nat) : Int) * (writtenHeader width height).rowStride =
      ((height - 1 - y) * stride width : Nat) := by
    rcases hstride with rfl | hnarrow
    · have hzero : 1 - 1 - y = 0 := by omega
      rw [hzero, Nat.zero_mul]
      exact Int.zero_mul _
    · have hrowStride : (writtenHeader width height).rowStride = stride width := by
        rw [← rowSize_eq_stride]
        exact BmpLoader.rowStride_eq rfl
          (show width * 24 + 31 < 2 ^ 31 by rw [Nat.mul_comm]; exact hnarrow)
      rw [hrowStride, Int.natCast_mul]
  rw [BmpLoader.pixelPlace, BmpLoader.storedRow, if_neg hupward, hrow, hdown,
    bytesPerPixel_written]
  rfl

theorem slice_pixel (pixels : List Rgb24) (hy : y < height) (hx : x < width) :
    slice (fileBytes width height pixels) (54 + (height - 1 - y) * stride width + x * 3) 3 =
      pixelBytes (pixels.getD (y * width + x) 0) := by
  refine List.ext_getElem? fun c => ?_
  rw [getElem?_slice]
  split
  next hc => exact getElem?_fileBytes hy hx hc
  next hc => exact (List.getElem?_eq_none (Nat.not_lt.mp hc)).symm

theorem pixelAt_fileBytes {colors : BmpLoader.Colors} (hwidth : 0 < width)
    (hstride : height = 1 ∨ 24 * width + 31 < 2 ^ 31) (hi : i < height * width) :
    BmpLoader.PixelAt (fileBytes width height pixels) (writtenHeader width height) colors width
      height i (pixels.getD i 0, none) := by
  have hy : i / width < height := Nat.div_lt_of_lt_mul (by rwa [Nat.mul_comm])
  have hsplit : i / width * width + i % width = i := by rw [Nat.mul_comm, Nat.div_add_mod]
  have hpixel := slice_pixel pixels hy (Nat.mod_lt i hwidth)
  rw [hsplit] at hpixel
  rw [BmpLoader.PixelAt, pixelPlace_written hstride hy, Int.toNat_natCast]
  refine ⟨Int.natCast_nonneg _, ?_⟩
  rw [bytesPerPixel_written, hpixel]
  rfl

theorem load_fileBytes (hwidth : 0 < width) (hheight : 0 < height)
    (hsize : 54 + dataSize width height < 2 ^ 31)
    (hstride : height = 1 ∨ 24 * width + 31 < 2 ^ 31) (hpixels : pixels.length = height * width) :
    BmpLoader.load (fileBytes width height pixels) = .ok ⟨width, height, pixels, none⟩ := by
  have hrows := fullRows_written pixels hsize
  rw [hrows.load_of_pixelAt (readHeader_fileBytes hwidth hheight hsize)
    (readColors_written _ width height) fun i hi => pixelAt_fileBytes hwidth hstride hi]
  have hread : (List.range (height * width)).map (fun i => pixels.getD i 0) = pixels :=
    map_getD_range hpixels fun i _ => rfl
  rw [BmpLoader.imageOf, if_neg (show (writtenHeader width height).bitsPerPixel ≠ 32 from
    (by decide : 24 ≠ 32)), List.map_map]
  exact congrArg (fun read => Except.ok (BmpImage.mk width height read none)) hread

-- ---------------------------------------------------------------------------
-- Rows that are too long
-- ---------------------------------------------------------------------------

/-- The bytes in front of the pixel that is last in the file: the end of the top row. -/
def frontBytes (width height : Nat) (pixels : List Rgb24) : Bytes :=
  headerBytes width height ++ rowsBytes width height pixels (height - 1) ++
    blocks (width - 1) fun x => pixelBytes (pixels.getD x 0)

theorem length_frontBytes (width height : Nat) (pixels : List Rgb24) :
    (frontBytes width height pixels).length =
      54 + ((height - 1) * stride width + (width - 1) * 3) := by
  have hlast : (blocks (width - 1) fun x => pixelBytes (pixels.getD x 0)).length =
      (width - 1) * 3 := length_blocks fun _ _ => rfl
  rw [frontBytes, List.length_append, List.length_append, length_headerBytes, length_rowsBytes,
    hlast, Nat.add_assoc]

theorem fileBytes_eq_front (hwidth : 0 < width) (hheight : 0 < height) (pixels : List Rgb24) :
    fileBytes width height pixels = frontBytes width height pixels ++
      (pixelBytes (pixels.getD (width - 1) 0) ++ List.replicate (stride width - width * 3) 0) := by
  obtain ⟨above, rfl⟩ := Nat.exists_eq_succ_of_ne_zero (Nat.ne_of_gt hheight)
  obtain ⟨left, rfl⟩ := Nat.exists_eq_succ_of_ne_zero (Nat.ne_of_gt hwidth)
  have htop : above + 1 - 1 - above = 0 := by omega
  have hcolors : colorsOf (left + 1) pixels 0 =
      (blocks left fun x => pixelBytes (pixels.getD x 0)) ++ pixelBytes (pixels.getD left 0) := by
    simp only [colorsOf, blocks_succ, Nat.zero_mul, Nat.zero_add]
  simp only [fileBytes, frontBytes, rowsBytes, Nat.succ_eq_add_one, blocks_succ,
    Nat.add_sub_cancel, Nat.sub_self, rowBytes, hcolors, List.append_assoc]

theorem frontBytes_congr {other : List Rgb24}
    (h : ∀ i, i ≠ width - 1 → pixels.getD i 0 = other.getD i 0) :
    frontBytes width height pixels = frontBytes width height other := by
  have hrows : rowsBytes width height pixels (height - 1) =
      rowsBytes width height other (height - 1) :=
    blocks_congr fun row hrow => by
      rw [rowBytes, rowBytes]
      refine congrArg (· ++ _) (blocks_congr fun x hx => ?_)
      have hbelow : width ≤ (height - 1 - row) * width := Nat.le_mul_of_pos_left _ (by omega)
      rw [h _ (by omega)]
  have hlast : (blocks (width - 1) fun x => pixelBytes (pixels.getD x 0)) =
      blocks (width - 1) fun x => pixelBytes (other.getD x 0) :=
    blocks_congr fun x hx => by rw [h x (Nat.ne_of_lt hx)]
  rw [frontBytes, frontBytes, hrows, hlast]

theorem sameFront_fileBytes (hwidth : 0 < width) (hheight : 0 < height) {other : List Rgb24}
    (h : ∀ i, i ≠ width - 1 → pixels.getD i 0 = other.getD i 0) :
    BmpLoader.SameFront (54 + ((height - 1) * stride width + (width - 1) * 3))
      (fileBytes width height pixels) (fileBytes width height other) where
  length := by rw [length_fileBytes, length_fileBytes]
  front := by
    rw [fileBytes_eq_front hwidth hheight, fileBytes_eq_front hwidth hheight,
      List.take_left' (length_frontBytes ..), List.take_left' (length_frontBytes ..),
      frontBytes_congr h]

/-- Of a wide image the loader does not see that pixel. -/
theorem narrow_of_load (hwidth : 0 < width) (hheight : 0 < height)
    (hsize : 54 + dataSize width height < 2 ^ 31)
    (hload : ∀ pixels : List Rgb24, pixels.length = height * width →
      BmpLoader.load (fileBytes width height pixels) = .ok ⟨width, height, pixels, none⟩) :
    height = 1 ∨ 24 * width + 31 < 2 ^ 31 := by
  by_contra hnot
  obtain ⟨black, hblack⟩ : ∃ black : List Rgb24, black = List.replicate (height * width) 0 :=
    ⟨_, rfl⟩
  have hlength : black.length = height * width := by rw [hblack, List.length_replicate]
  have hinside : width - 1 < black.length := by
    rw [hlength]
    exact (Nat.sub_one_lt_of_lt hwidth).trans_le (Nat.le_mul_of_pos_left _ hheight)
  have hrest : ∀ i, i ≠ width - 1 →
      (black.set (width - 1) ⟨0, 0, 1⟩).getD i 0 = black.getD i 0 := fun i hi => by
    rw [List.getD_eq_getElem?_getD, List.getElem?_set_ne hi.symm, List.getD_eq_getElem?_getD]
  have hlast : ∀ y < height, ∀ x < width,
      BmpLoader.pixelPlace (writtenHeader width height) height y x +
        (writtenHeader width height).bytesPerPixel ≤
          (54 + ((height - 1) * stride width + (width - 1) * 3) : Nat) := by
    intro y hy x hx
    have hplace := (fullRows_written black hsize).pixelPlace_last (by omega)
      (show 2 ^ 31 ≤ width * 24 + 31 by omega) hy hx
    have hrow : BmpLoader.rowSize width (writtenHeader width height).bitsPerPixel = stride width :=
      rowSize_eq_stride width
    rw [bytesPerPixel_written, hrow] at hplace
    rw [bytesPerPixel_written, Int.natCast_add]
    exact hplace
  have hspot := (fullRows_written black hsize).load_sameFront hlast
    (sameFront_fileBytes hwidth hheight hrest) (readHeader_fileBytes hwidth hheight hsize) (readHeader_fileBytes hwidth hheight hsize)
    (readColors_written _ width height) (readColors_written _ width height) (hload black hlength)
  rw [hload _ (by rw [List.length_set, hlength])] at hspot
  have hpixels : black.set (width - 1) ⟨0, 0, 1⟩ = black :=
    congrArg BmpImage.pixels (Except.ok.inj hspot)
  have hpixel := congrArg (·[width - 1]?) hpixels
  rw [hblack, List.length_replicate] at hinside
  rw [List.getElem?_set_self (by rwa [hlength]), hblack, List.getElem?_replicate_of_lt hinside]
    at hpixel
  exact absurd hpixel (by decide)

/-- The image comes back for all pixels if and only if it is one row high or the number of bits
in a row fits into an `int`. -/
theorem load_write24BitBmp_iff (hwidth : 0 < width) (hheight : 0 < height)
    (hsize : 54 + height * stride width < 2 ^ 31) :
    (∀ pixels : List Rgb24, pixels.length = height * width →
        write24BitBmp width height pixels >>= BmpLoader.load =
          .ok ⟨width, height, pixels, none⟩) ↔
      height = 1 ∨ 24 * width + 31 < 2 ^ 31 := by
  have hround : ∀ pixels : List Rgb24, pixels.length = height * width →
      write24BitBmp width height pixels >>= BmpLoader.load =
        BmpLoader.load (fileBytes width height pixels) := fun pixels hpixels => by
    rw [write24BitBmp_eq hwidth hheight hsize hpixels, ok_bind]
  constructor
  · intro h
    exact narrow_of_load hwidth hheight hsize fun pixels hpixels =>
      (hround pixels hpixels).symm.trans (h pixels hpixels)
  · intro hstride pixels hpixels
    rw [hround pixels hpixels, load_fileBytes hwidth hheight hsize hstride hpixels]

theorem load_write24BitBmp_small :
    write24BitBmp 2 2 [⟨1, 2, 3⟩, ⟨4, 5, 6⟩, ⟨7, 8, 9⟩, ⟨10, 11, 12⟩] >>= BmpLoader.load =
      .ok ⟨2, 2, [⟨1, 2, 3⟩, ⟨4, 5, 6⟩, ⟨7, 8, 9⟩, ⟨10, 11, 12⟩], none⟩ :=
  (@load_write24BitBmp_iff 2 2 (by decide) (by decide) (by decide)).mpr (.inr (by decide)) _ rfl

theorem load_write24BitBmp_wide :
    ¬ ∀ width height : Nat, 0 < width → 0 < height → 54 + height * stride width < 2 ^ 31 →
      ∀ pixels : List Rgb24, pixels.length = height * width →
        write24BitBmp width height pixels >>= BmpLoader.load =
          .ok ⟨width, height, pixels, none⟩ := by
  intro h
  have hsize : 54 + dataSize 89478486 2 < 2 ^ 31 := by decide
  have hnarrow := @narrow_of_load 89478486 2 (by decide) (by decide) hsize
    fun pixels hpixels => by
      have hround := h 89478486 2 (by decide) (by decide) hsize pixels hpixels
      rwa [write24BitBmp_eq (by decide) (by decide) hsize hpixels, ok_bind] at hround
  exact absurd hnarrow (by decide)

end

end DragonOS.Build
