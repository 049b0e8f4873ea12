import DragonOS.Build.BitfieldChannel
import DragonOS.Build.BitmapRows
import Mathlib.Tactic.Ring

/-!
# Bit fields without an alpha mask

The loader reads an alpha mask at offset 66 whatever the length of the header. In a file whose
header ends before, other bytes stand there, and these can be pixels:
`load_staysSolid_iff` says for which files this does no harm.
-/

namespace DragonOS.Build.BmpLoader

open Lib
open IsoReader (littleEndianValue)

-- ---------------------------------------------------------------------------
-- One pixel
-- ---------------------------------------------------------------------------

/-- No mask takes all the bits of a pixel. -/
def Colors.Proper (colors : Colors) : Prop :=
  colors.redMask ≠ 0xFFFFFFFF ∧ colors.greenMask ≠ 0xFFFFFFFF ∧ colors.blueMask ≠ 0xFFFFFFFF

section
variable {colors : Colors} {packedPixel : UInt32}

theorem readBitfields_solid (h : colors.Proper) (halpha : colors.alphaMask = 0)
    (packedPixel : UInt32) : ∃ color, readBitfields colors packedPixel = .ok (color, some 255) := by
  obtain ⟨red, hred⟩ := extract_proper packedPixel h.1
  obtain ⟨green, hgreen⟩ := extract_proper packedPixel h.2.1
  obtain ⟨blue, hblue⟩ := extract_proper packedPixel h.2.2
  refine ⟨⟨red, green, blue⟩, ?_⟩
  rw [readBitfields, hred, ok_bind, hgreen, ok_bind, hblue, ok_bind, if_neg (not_not.mpr halpha)]
  rfl

end

-- ---------------------------------------------------------------------------
-- Words
-- ---------------------------------------------------------------------------

theorem littleEndianValue_append (front rest : Bytes) :
    littleEndianValue (front ++ rest) =
      littleEndianValue front + 256 ^ front.length * littleEndianValue rest := by
  induction front with
  | nil => simp [littleEndianValue]
  | cons byte front ih =>
    have hcons : ∀ bytes : Bytes,
        littleEndianValue (byte :: bytes) = byte.toNat + 256 * littleEndianValue bytes := fun _ => rfl
    rw [List.cons_append, hcons, hcons, ih, List.length_cons, Nat.pow_succ']
    ring

theorem littleEndianValue_lt (bytes : Bytes) : littleEndianValue bytes < 256 ^ bytes.length := by
  induction bytes with
  | nil => exact Nat.one_pos
  | cons byte bytes ih =>
    have hcons : littleEndianValue (byte :: bytes) = byte.toNat + 256 * littleEndianValue bytes := rfl
    have hbyte := byte.toNat_lt
    rw [hcons, List.length_cons, Nat.pow_succ']
    omega

theorem front_eq_zero {front rest : Bytes} (hfront : front.length ≤ 3)
    (hrest : littleEndianValue rest = 0) (h : wordOf (front ++ rest) = 0) :
    littleEndianValue front = 0 := by
  have hsmall : littleEndianValue front < 2 ^ 32 :=
    (littleEndianValue_lt front).trans_le
      ((Nat.pow_le_pow_right (by decide) hfront).trans (by decide))
  rw [wordOf, littleEndianValue_append, hrest, Nat.mul_zero, Nat.add_zero, ← UInt32.toNat_inj,
    UInt32.toNat_ofNat', Nat.mod_eq_of_lt hsmall] at h
  exact h

-- ---------------------------------------------------------------------------
-- Files
-- ---------------------------------------------------------------------------

def masksOf (bytes : Bytes) : Colors :=
  ⟨none, wordAt bytes 54, wordAt bytes 58, wordAt bytes 62, wordAt bytes 66⟩

/-- A file with three masks at the end of its header, or behind it, and pixels after them. -/
structure MaskedFile (bytes : Bytes) (width height : Nat) : Prop where
  accepted : Accepted bytes
  dibSize : int32At bytes 14 = 40 ∨ int32At bytes 14 = 52
  bitsPerPixel : uint16At bytes 28 = 32
  compression : int32At bytes 30 = 3
  dataOffset : 66 ≤ int32At bytes 10
  rows : FullRows bytes (headerOf bytes) width height
  proper : (masksOf bytes).Proper

/-- The file with other bytes for a pixel, counted in the order of the file. -/
def withPixel (bytes : Bytes) (i : Nat) (raw : Bytes) : Bytes :=
  overwrite bytes (dataStart bytes + i * 4) raw

def alphaOf (bytes : Bytes) : Except Failure (Option (List UInt8)) := (load bytes).map (·.alpha)

/-- The image is solid, and other bytes for one pixel do not change its alpha. That
is more than its colour: `kept` covers the bits outside the masks as well. -/
structure StaysSolid (bytes : Bytes) (width height : Nat) : Prop where
  solid : alphaOf bytes = .ok (some (List.replicate (height * width) 255))
  kept : ∀ i < height * width, ∀ raw : Bytes, raw.length = 4 →
    alphaOf (withPixel bytes i raw) = alphaOf bytes

namespace MaskedFile

variable {bytes : Bytes} {width height i : Nat}

theorem rowSize_eq (width : Nat) : rowSize width 32 = width * 4 := by
  rw [rowSize]
  omega

theorem dataStart_eq (h : MaskedFile bytes width height) : (dataStart bytes : Int) = int32At bytes 10 :=
  h.rows.dataStart_eq

theorem present (h : MaskedFile bytes width height) :
    dataStart bytes + height * width * 4 ≤ bytes.length := by
  have hpresent := h.rows.present
  rw [bitsPerPixel_headerOf, h.bitsPerPixel, rowSize_eq, dataOffset_headerOf, ← h.dataStart_eq,
    ← Nat.mul_assoc] at hpresent
  omega

theorem readHeader (h : MaskedFile bytes width height) : readHeader bytes = .ok (headerOf bytes) :=
  readHeader_ok.mpr ⟨h.accepted, rfl⟩

theorem width_pos (h : MaskedFile bytes width height) : 0 < width := by
  rw [← Int.natCast_pos, ← h.rows.columns, width_headerOf]
  exact h.accepted.width

theorem height_pos (h : MaskedFile bytes width height) : 0 < height := by
  rw [← Int.natCast_pos, ← h.rows.rows, rawHeight_headerOf]
  exact abs_pos.mpr h.accepted.rawHeight

theorem readColors (h : MaskedFile bytes width height) :
    readColors bytes (headerOf bytes) = .ok (masksOf bytes) := by
  have hpixels := Nat.mul_pos h.height_pos h.width_pos
  have hpresent := h.present
  have hstart := h.dataStart_eq
  have hdataOffset := h.dataOffset
  have hred : readUInt32 bytes 54 = _ := readUInt32_eq (show 54 + 4 ≤ bytes.length by omega)
  have hgreen : readUInt32 bytes 58 = _ := readUInt32_eq (show 58 + 4 ≤ bytes.length by omega)
  have hblue : readUInt32 bytes 62 = _ := readUInt32_eq (show 62 + 4 ≤ bytes.length by omega)
  have halpha : readUInt32 bytes 66 = _ := readUInt32_eq (show 66 + 4 ≤ bytes.length by omega)
  rw [BmpLoader.readColors, bitsPerPixel_headerOf, compression_headerOf, h.bitsPerPixel,
    h.compression, if_neg (by decide), if_pos (by decide), hred, ok_bind, hgreen, ok_bind, hblue,
    ok_bind, halpha, ok_bind, masksOf]

theorem alphaOf_solid_iff (h : MaskedFile bytes width height) :
    alphaOf bytes = .ok (some (List.replicate (height * width) 255)) ↔
      ∀ i < height * width, ∃ color,
        PixelAt bytes (headerOf bytes) (masksOf bytes) width height i (color, some 255) := by
  have hbits : (headerOf bytes).bitsPerPixel = 32 := (bitsPerPixel_headerOf bytes).trans h.bitsPerPixel
  constructor
  · intro hsolid i hi
    rw [alphaOf] at hsolid
    cases hload : load bytes with
    | error failure =>
      rw [hload] at hsolid
      cases hsolid
    | ok image =>
      rw [hload] at hsolid
      obtain ⟨pixels, hlength, hpixels, rfl⟩ := (h.rows.load_ok h.readHeader h.readColors).mp hload
      have halphas : pixels.map (fun pixel => pixel.2.getD 0) = List.replicate (height * width) 255 := by
        have halpha : (imageOf (headerOf bytes) width height pixels).alpha = _ := Except.ok.inj hsolid
        rw [imageOf, if_pos hbits] at halpha
        exact Option.some.inj halpha
      obtain ⟨pixel, hpixel⟩ : ∃ pixel, pixels[i]? = some pixel :=
        ⟨_, List.getElem?_eq_getElem (hlength ▸ hi)⟩
      have hvalue := congrArg (·[i]?) halphas
      simp only [List.getElem?_map, hpixel, List.getElem?_replicate_of_lt hi, Option.map_some,
        Option.some.injEq] at hvalue
      obtain ⟨color, alpha⟩ := pixel
      cases alpha with
      | none => exact absurd (show (0 : UInt8) = 255 from hvalue) (by decide)
      | some alpha =>
        obtain rfl : alpha = 255 := hvalue
        exact ⟨color, hpixels i _ hpixel⟩
  · intro hpixels
    have hcolors : Nonempty Rgb24 := ⟨0⟩
    choose! color hcolor using hpixels
    have halpha : (imageOf (headerOf bytes) width height
        ((List.range (height * width)).map fun i => (color i, some 255))).alpha =
          some (List.replicate (height * width) 255) := by
      have hconst : (List.range (height * width)).map (fun _ => (255 : UInt8)) =
          List.replicate (height * width) 255 := by rw [List.map_const', List.length_range]
      rw [imageOf, if_pos hbits, ← hconst]
      exact congrArg some List.map_map
    rw [alphaOf, h.rows.load_of_pixelAt h.readHeader h.readColors hcolor, ← halpha]
    rfl

theorem of_sameFront {other : Bytes} (h : MaskedFile other width height)
    (hfront : SameFront 66 bytes other) : MaskedFile bytes width height where
  accepted := hfront.accepted (by decide) h.accepted
  dibSize := by rw [hfront.int32At (by decide)]; exact h.dibSize
  bitsPerPixel := by rw [hfront.uint16At (by decide)]; exact h.bitsPerPixel
  compression := by rw [hfront.int32At (by decide)]; exact h.compression
  dataOffset := by rw [hfront.int32At (by decide)]; exact h.dataOffset
  rows := by
    rw [hfront.headerOf (by decide)]
    exact h.rows.of_length hfront.length
  proper := by
    rw [masksOf, hfront.wordAt (by decide), hfront.wordAt (by decide), hfront.wordAt (by decide)]
    exact h.proper

theorem withPixel_fits (h : MaskedFile bytes width height) (hi : i < height * width) {raw : Bytes}
    (hraw : raw.length = 4) : dataStart bytes + i * 4 + raw.length ≤ bytes.length := by
  have hpresent := h.present
  omega

theorem withPixel_sameFront (h : MaskedFile bytes width height) (hi : i < height * width)
    {raw : Bytes} (hraw : raw.length = 4) :
    SameFront (dataStart bytes) (withPixel bytes i raw) bytes :=
  (sameFront_overwrite (h.withPixel_fits hi hraw)).mono (Nat.le_add_right _ _)

theorem le_dataStart (h : MaskedFile bytes width height) : 66 ≤ dataStart bytes := by
  have hstart := h.dataStart_eq
  have hdataOffset := h.dataOffset
  omega

theorem withPixel (h : MaskedFile bytes width height) (hi : i < height * width)
    {raw : Bytes} (hraw : raw.length = 4) : MaskedFile (withPixel bytes i raw) width height :=
  h.of_sameFront ((h.withPixel_sameFront hi hraw).mono h.le_dataStart)

theorem decode_eq (h : MaskedFile bytes width height) (colors : Colors) (raw : Bytes) :
    decode (headerOf bytes) colors raw = readBitfields colors (wordOf raw) := by
  have hbits : (headerOf bytes).bitsPerPixel = 32 := (bitsPerPixel_headerOf bytes).trans h.bitsPerPixel
  have hcompression : (headerOf bytes).compression = 3 :=
    (compression_headerOf bytes).trans h.compression
  simp only [decode, hbits, if_pos hcompression]

/-- The loader does as it should if it finds no mask where it looks for one. -/
theorem alphaOf_solid (h : MaskedFile bytes width height) (hword : wordAt bytes 66 = 0)
    (hrows : 0 ≤ int32At bytes 10 + (height - 1) * (headerOf bytes).rowStride) :
    alphaOf bytes = .ok (some (List.replicate (height * width) 255)) := by
  refine h.alphaOf_solid_iff.mpr fun i hi => ?_
  rw [← dataOffset_headerOf, ← h.rows.pixelPlace_nonneg_iff h.width_pos h.height_pos] at hrows
  obtain ⟨color, hcolor⟩ := readBitfields_solid h.proper hword (wordOf (slice bytes
    (pixelPlace (headerOf bytes) height (i / width) (i % width)).toNat
    (headerOf bytes).bytesPerPixel))
  exact ⟨color, hrows i hi, (h.decode_eq _ _).trans hcolor⟩

theorem extract_first (h : MaskedFile bytes width height)
    (hsolid : alphaOf bytes = .ok (some (List.replicate (height * width) 255)))
    (hmask : wordAt bytes 66 ≠ 0) :
    extractBitfieldChannel (wordAt bytes (dataStart bytes)) (wordAt bytes 66) = .ok 255 := by
  obtain ⟨i, hi, hplace⟩ := FullRows.exists_pixelPlace (headerOf bytes) h.height_pos h.width_pos
  obtain ⟨color, -, hpixel⟩ := h.alphaOf_solid_iff.mp hsolid i hi
  have hbytes : (headerOf bytes).bytesPerPixel = 4 := by
    rw [Header.bytesPerPixel, bitsPerPixel_headerOf, h.bitsPerPixel]
  rw [hplace, Nat.zero_mul, Nat.cast_zero, Int.zero_mul, Int.add_zero, Int.add_zero, hbytes,
    dataOffset_headerOf, ← h.dataStart_eq, Int.toNat_natCast, h.decode_eq] at hpixel
  obtain ⟨-, -, -, alpha, halpha, hextract⟩ := of_readBitfields hpixel
  rw [Option.some.inj halpha]
  exact hextract hmask

theorem withPixel_zero (bytes raw : Bytes) :
    BmpLoader.withPixel bytes 0 raw = overwrite bytes (dataStart bytes) raw := by
  rw [BmpLoader.withPixel, Nat.zero_mul, Nat.add_zero]

theorem overwrite_fits (h : MaskedFile bytes width height) {raw : Bytes} (hraw : raw.length = 4) :
    dataStart bytes + raw.length ≤ bytes.length := by
  have harea := Nat.mul_pos h.height_pos h.width_pos
  have hpresent := h.present
  omega

/-- The bytes at offset 66 are those in front of the pixels and those of the first pixel. -/
theorem wordAt_withPixel {gap : Nat} (h : MaskedFile bytes width height)
    (hnear : dataStart bytes = 66 + gap) (hgap : gap ≤ 4) {raw : Bytes} (hraw : raw.length = 4) :
    wordAt (BmpLoader.withPixel bytes 0 raw) 66 =
      wordOf (slice bytes 66 gap ++ raw.take (4 - gap)) := by
  have hfits := h.overwrite_fits hraw
  rw [hnear] at hfits
  have hcut := slice_add (overwrite bytes (66 + gap) raw) 66 gap (4 - gap)
  rw [Nat.add_sub_cancel' hgap, slice_overwrite_front hfits (by omega),
    slice_overwrite_of_disjoint hfits (.inl (Nat.le_refl _))] at hcut
  rw [wordAt, withPixel_zero, hnear, hcut]

theorem extract_withPixel (h : MaskedFile bytes width height)
    (hsolid : StaysSolid bytes width height) {raw : Bytes} (hraw : raw.length = 4)
    (hmask : wordAt (BmpLoader.withPixel bytes 0 raw) 66 ≠ 0) :
    extractBitfieldChannel (wordOf raw) (wordAt (BmpLoader.withPixel bytes 0 raw) 66) =
      .ok 255 := by
  have harea := Nat.mul_pos h.height_pos h.width_pos
  have hstart : dataStart (BmpLoader.withPixel bytes 0 raw) = dataStart bytes :=
    congrArg Int.toNat ((h.withPixel_sameFront harea hraw).int32At
      ((by decide : 10 + 4 ≤ 66).trans h.le_dataStart))
  have hfirst := (h.withPixel harea hraw).extract_first
    ((hsolid.kept 0 harea raw hraw).trans hsolid.solid) hmask
  have hself : wordAt (BmpLoader.withPixel bytes 0 raw) (dataStart bytes) = wordOf raw := by
    rw [wordAt, withPixel_zero, slice_overwrite_front (h.overwrite_fits hraw) hraw.ge, ← hraw,
      List.take_length]
  rw [hstart, hself] at hfirst
  exact hfirst

theorem no_mask (h : MaskedFile bytes width height) (hsolid : StaysSolid bytes width height) :
    70 ≤ dataStart bytes ∧ wordAt bytes 66 = 0 := by
  have hpixel : ∀ raw : Bytes, raw.length = 4 → ∀ mask : UInt32,
      wordAt (BmpLoader.withPixel bytes 0 raw) 66 = mask → wordOf raw &&& mask = 0 → mask = 0 := by
    rintro raw hraw mask rfl hdark
    by_contra hmask
    have halpha := extract_of_and_eq_zero hdark (h.extract_withPixel hsolid hraw hmask)
    exact absurd halpha (by decide)
  have hblack : ∀ mask, wordAt (BmpLoader.withPixel bytes 0 [0, 0, 0, 0]) 66 = mask → mask = 0 :=
    fun mask hmask => hpixel _ rfl mask hmask (UInt32.zero_and ..)
  rcases Nat.lt_or_ge (dataStart bytes) 70 with hnear | hfar
  · exfalso
    obtain ⟨gap, hgap⟩ := Nat.exists_eq_add_of_le h.le_dataStart
    have hword : ∀ raw : Bytes, raw.length = 4 → wordAt (BmpLoader.withPixel bytes 0 raw) 66 =
        wordOf (slice bytes 66 gap ++ raw.take (4 - gap)) :=
      fun raw hraw => h.wordAt_withPixel hgap (by omega) hraw
    have hlength : (slice bytes 66 gap).length = gap := by
      have hpresent := h.present
      exact length_slice (by omega)
    have hfew : gap = 0 ∨ gap = 1 ∨ gap = 2 ∨ gap = 3 := by omega
    by_cases hnone : gap = 0
    · -- The mask is the pixel itself; with two bits apart the scaled value does not fit a byte.
      subst hnone
      have hself : wordAt (BmpLoader.withPixel bytes 0 [5, 0, 0, 0]) 66 = 5 := hword _ rfl
      have halpha := h.extract_withPixel hsolid (show [5, 0, 0, 0].length = 4 from rfl)
        (by rw [hself]; decide)
      rw [hself] at halpha
      exact absurd halpha (by decide)
    · -- A black pixel has an alpha of zero unless the front of the mask is zero; then the pixel
      -- lends it one bit, which is not a bit of its own.
      have hfront : littleEndianValue (slice bytes 66 gap) = 0 := by
        refine front_eq_zero (by omega) ?_ (hblack _ (hword _ rfl))
        rcases hfew with rfl | rfl | rfl | rfl <;> rfl
      have hbit : wordAt (BmpLoader.withPixel bytes 0 [1, 0, 0, 0]) 66 =
          UInt32.ofNat (256 ^ gap * littleEndianValue ([1, 0, 0, 0].take (4 - gap))) := by
        rw [hword _ rfl, wordOf, littleEndianValue_append, hfront, hlength, Nat.zero_add]
      have hzero := hpixel _ rfl _ hbit
      rcases hfew with rfl | rfl | rfl | rfl
      · exact hnone rfl
      all_goals exact absurd (hzero (by decide)) (by decide)
  · refine ⟨hfar, hblack _ ?_⟩
    exact (h.withPixel_sameFront (Nat.mul_pos h.height_pos h.width_pos) rfl).wordAt hfar

/-- The image stays solid exactly if the word at offset 66 is zero and behind it are the pixels,
all of them at places that the loader finds. -/
theorem load_staysSolid_iff (h : MaskedFile bytes width height) :
    StaysSolid bytes width height ↔
      70 ≤ int32At bytes 10 ∧ wordAt bytes 66 = 0 ∧
        0 ≤ int32At bytes 10 + (height - 1) * (headerOf bytes).rowStride := by
  have hstart := h.dataStart_eq
  constructor
  · intro hsolid
    obtain ⟨hfar, hword⟩ := h.no_mask hsolid
    refine ⟨by omega, hword, ?_⟩
    rw [← dataOffset_headerOf, ← h.rows.pixelPlace_nonneg_iff h.width_pos h.height_pos]
    intro i hi
    obtain ⟨color, hplace, -⟩ := h.alphaOf_solid_iff.mp hsolid.solid i hi
    exact hplace
  · rintro ⟨hfar, hword, hrows⟩
    refine ⟨h.alphaOf_solid hword hrows, fun i hi raw hraw => ?_⟩
    have hfront := h.withPixel_sameFront hi hraw
    rw [h.alphaOf_solid hword hrows]
    refine (h.withPixel hi hraw).alphaOf_solid ?_ ?_
    · rw [hfront.wordAt (show 66 + 4 ≤ dataStart bytes by omega), hword]
    · rw [hfront.int32At (show 10 + 4 ≤ dataStart bytes by omega),
        hfront.headerOf (show 54 ≤ dataStart bytes by omega)]
      exact hrows

end MaskedFile

-- Files of one pixel with eight bits a channel.

def sampleHeader (dataOffset : UInt8) : Bytes :=
  asciiBytes "BM" ++ List.replicate 8 0 ++ [dataOffset, 0, 0, 0, 40, 0, 0, 0, 1, 0, 0, 0, 1, 0, 0, 0,
    1, 0, 32, 0, 3, 0, 0, 0] ++ List.replicate 20 0 ++ [0, 0, 255, 0, 0, 255, 0, 0, 255, 0, 0, 0]

def gappedFile : Bytes := sampleHeader 70 ++ [0, 0, 0, 0] ++ [1, 2, 3, 0]

def denseFile : Bytes := sampleHeader 66 ++ [5, 0, 0, 0]

theorem maskedFile_sample (h : bytes = gappedFile ∨ bytes = denseFile) : MaskedFile bytes 1 1 := by
  rcases h with rfl | rfl <;> exact {
    accepted := by constructor <;> decide
    dibSize := by decide
    bitsPerPixel := by decide
    compression := by decide
    dataOffset := by decide
    rows := by constructor <;> first | decide | exact .inr (.inr (by decide))
    proper := ⟨by decide, by decide, by decide⟩ }

theorem gappedFile_staysSolid : StaysSolid gappedFile 1 1 :=
  (maskedFile_sample (.inl rfl)).load_staysSolid_iff.mpr ⟨by decide, by decide, by decide⟩

/-- Behind the masks the pixel itself is taken for one, and its alpha is 251. -/
theorem denseFile_not_solid :
    ¬ ∀ (bytes : Bytes) (width height : Nat), MaskedFile bytes width height →
      StaysSolid bytes width height := by
  intro h
  have halpha : alphaOf denseFile = .ok (some [251]) := by decide
  have hsolid := (h denseFile 1 1 (maskedFile_sample (.inr rfl))).solid
  rw [halpha] at hsolid
  exact absurd hsolid (by decide)

end DragonOS.Build.BmpLoader
