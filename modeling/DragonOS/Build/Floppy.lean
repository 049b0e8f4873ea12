import DragonOS.Build.BootCode

/-!
# The legacy floppy

The disk holds stage 1, stage 2 and the packed splash image, each from a new sector
on. Stage 2 carries a table that tells where every sector of the image is, so the
table has to be known before stage 2 is built, and the size of stage 2 before the
table: the builder makes stage 2 twice, first with a placeholder for the table.
-/

namespace DragonOS.Build

open Lib

def sectorSize : Int := 512
def sectorsPerTrack : Int := 18
def headsPerCylinder : Int := 2
def floppySize : Int := 1474560

def padToSector (data : Bytes) : Except Exception Bytes :=
  let paddedLength := int32 (divideRoundUp data.length sectorSize * sectorSize)
  if paddedLength = data.length then .ok data
  else do
    let padded ← newArray UInt8 paddedLength
    writeAt padded 0 data

structure Chs where
  cylinder : UInt8
  head : UInt8
  sector : UInt8
  deriving DecidableEq, Repr

def lbaToChs (lba : Int) : Except Exception Chs := do
  let sectorsPerCylinder := sectorsPerTrack * headsPerCylinder
  let cylinder := lba.tdiv sectorsPerCylinder
  let cylinderRemainder := lba.tmod sectorsPerCylinder
  let head := cylinderRemainder.tdiv sectorsPerTrack
  let sector := cylinderRemainder.tmod sectorsPerTrack + 1
  throwIf (cylinder > 255) (.invalidOperation "Cylinder overflow for floppy geometry.")
  pure ⟨lowByte cylinder, lowByte head, lowByte sector⟩

def writeSectorEntry (startLba : Int) (table : Bytes) (i : Nat) : Except Exception Bytes := do
  let chs ← lbaToChs (int32 (startLba + i))
  writeAt table (int32 (i * 3)) [chs.cylinder, chs.head, chs.sector]

def buildSectorTable (startLba sectorCount : Int) : Except Exception Bytes := do
  let table ← newArray UInt8 (int32 (sectorCount * 3))
  (List.range sectorCount.toNat).foldlM (writeSectorEntry startLba) table

def buildDiskImage (stage1 stage2 imageData : Bytes) : Except Exception Bytes := do
  throwIf (stage1.length ≠ sectorSize) (.invalidOperation "Stage 1 must be exactly one sector.")
  let paddedStage2 ← padToSector stage2
  let paddedImage ← padToSector imageData
  let totalUsed := int32 (stage1.length + paddedStage2.length + paddedImage.length)
  throwIf (totalUsed > floppySize)
    (.invalidOperation "The generated image is larger than a 1.44MB floppy.")
  let disk ← newArray UInt8 floppySize
  let disk ← writeAt disk 0 stage1
  let disk ← writeAt disk sectorSize paddedStage2
  writeAt disk (sectorSize + paddedStage2.length) paddedImage

structure Floppy where
  imageSectorCount : Int
  imageSectorTable : Bytes
  stage2 : Bytes
  stage2SectorCount : Int
  disk : Bytes

/-- The part of `Main` that goes from the packed image to the disk. -/
def buildFloppy (packedImage : Bytes) : Except Exception Floppy := do
  let imageSectorCount := divideRoundUp packedImage.length sectorSize
  let imageStartLbaPlaceholder := 0
  let stage2 ← buildStage2 imageSectorCount
    (← buildSectorTable imageStartLbaPlaceholder imageSectorCount)
  let stage2SectorCount := divideRoundUp stage2.length sectorSize
  throwIf (stage2SectorCount > 17) (.invalidOperation
    ("Stage 2 is " ++ toString stage2SectorCount ++
      " sectors. The stage 1 loader expects at most 17."))
  let imageStartLba := 1 + stage2SectorCount
  let imageSectorTable ← buildSectorTable imageStartLba imageSectorCount
  let stage2 ← buildStage2 imageSectorCount imageSectorTable
  let stage2SectorCount := divideRoundUp stage2.length sectorSize
  throwIf (stage2SectorCount > 17) (.invalidOperation
    ("Stage 2 is " ++ toString stage2SectorCount ++
      " sectors after patching. The stage 1 loader expects at most 17."))
  let stage1 ← buildStage1 stage2SectorCount
  let disk ← buildDiskImage stage1 stage2 packedImage
  pure ⟨imageSectorCount, imageSectorTable, stage2, stage2SectorCount, disk⟩

-- ---------------------------------------------------------------------------
-- Padding
-- ---------------------------------------------------------------------------

def paddedSector (data : Bytes) (index : Nat) : Bytes :=
  (List.range 512).map fun i => data.getD (512 * index + i) 0

theorem divideRoundUp_sectorSize {length : Nat} (h : length + 511 < 2 ^ 31) :
    divideRoundUp length sectorSize = (length + 511) / 512 := by
  rw [divideRoundUp_eq (by omega) (by decide) (by simp only [sectorSize]; omega), sectorSize]
  omega

/-- A sector count that has not wrapped belongs to a length that has not either. -/
theorem length_of_divideRoundUp {length : Nat} (h : length < 2 ^ 31)
    (hcount : 0 ≤ divideRoundUp length sectorSize) : length + 511 < 2 ^ 31 := by
  by_contra hwrap
  rw [divideRoundUp, sectorSize, int32_wrap (by omega) (by omega), Int.tdiv_eq_ediv] at hcount
  simp only [Int.sign_eq_one_of_pos (show (0 : Int) < 512 by decide)] at hcount
  split at hcount <;> omega

theorem padToSector_returns (hdata : data.length + 511 < 2 ^ 31) :
    ∃ padded, padToSector data = .ok padded ∧
      (padded.length : Int) = 512 * divideRoundUp data.length sectorSize ∧
      ∀ i, padded.getD i 0 = data.getD i 0 := by
  have hcount := divideRoundUp_sectorSize hdata
  have hlength : int32 (divideRoundUp data.length sectorSize * sectorSize) =
      512 * divideRoundUp data.length sectorSize := by
    rw [hcount, sectorSize, int32_eq (by omega) (by omega), Int.mul_comm]
  simp only [padToSector, hlength]
  generalize divideRoundUp data.length sectorSize = count at hcount
  split
  next heq => exact ⟨data, rfl, heq.symm, fun i => rfl⟩
  next =>
    have hzeros : ((List.replicate (512 * count).toNat (0 : UInt8)).length : Int) = 512 * count := by
      rw [List.length_replicate]
      omega
    have hbound : 0 + data.length ≤ (List.replicate (512 * count).toNat (0 : UInt8)).length := by
      omega
    refine ⟨overwrite (List.replicate (512 * count).toNat 0) 0 data, ?_, ?_, ?_⟩
    · simp only [bind_ok, newArray_ok, writeAt_ok]
      exact ⟨_, ⟨by omega, rfl⟩, Int.le_refl 0, by omega, rfl⟩
    · rw [length_overwrite hbound, hzeros]
    · intro i
      rw [List.getD_eq_getElem?_getD, List.getD_eq_getElem?_getD, getElem?_overwrite hbound]
      split
      next => simp
      next hi =>
        rw [List.getElem?_replicate, List.getElem?_eq_none (l := data) (by simpa using hi)]
        split <;> rfl

theorem padToSector_spec (hdata : data.length + 511 < 2 ^ 31) (h : padToSector data = .ok padded) :
    (padded.length : Int) = 512 * divideRoundUp data.length sectorSize ∧
      ∀ i, padded.getD i 0 = data.getD i 0 := by
  obtain ⟨padded', hpadded', hspec⟩ := padToSector_returns hdata
  obtain rfl := Except.ok.inj (hpadded'.symm.trans h)
  exact hspec

theorem slice_padded (hpadded : ∀ i, padded.getD i 0 = data.getD i 0)
    (hindex : 512 * index + 512 ≤ padded.length) :
    slice padded (512 * index) 512 = paddedSector data index := by
  refine List.ext_getElem? fun i => ?_
  rw [getElem?_slice, paddedSector, List.getElem?_map]
  by_cases hi : i < 512
  · rw [if_pos hi, List.getElem?_range hi, Option.map_some, ← hpadded,
      List.getD_eq_getElem?_getD, List.getElem?_eq_getElem (by omega), Option.getD_some]
  · rw [if_neg hi, List.getElem?_eq_none (by simpa using hi), Option.map_none]

-- ---------------------------------------------------------------------------
-- The sector table
-- ---------------------------------------------------------------------------

/-- The sector that the BIOS reads for an entry of the table. -/
def Chs.lba (chs : Chs) : Nat :=
  (chs.cylinder.toNat * 2 + chs.head.toNat) * 18 + (chs.sector.toNat - 1)

def Chs.bytes (chs : Chs) : Bytes := [chs.cylinder, chs.head, chs.sector]

structure Chs.Valid (chs : Chs) : Prop where
  head_le : chs.head.toNat ≤ 1
  one_le_sector : 1 ≤ chs.sector.toNat
  sector_le : chs.sector.toNat ≤ 18

theorem lowByte_toNat (hlow : 0 ≤ value) (hhigh : value < 256) :
    ((lowByte value).toNat : Int) = value := by
  rw [lowByte, UInt8.toNat_ofNat']
  omega

theorem lbaToChs_spec {lba : Nat} (h : lbaToChs lba = .ok chs) : chs.Valid ∧ chs.lba = lba := by
  simp only [lbaToChs, bind_ok, throwIf_ok, pure_ok] at h
  obtain ⟨-, hcylinder, rfl⟩ := h
  simp only [sectorsPerTrack, headsPerCylinder] at hcylinder ⊢
  have htdiv : (lba : Int).tdiv (18 * 2) = lba / 36 := Int.tdiv_eq_ediv_of_nonneg (by omega)
  have htmod : (lba : Int).tmod (18 * 2) = lba % 36 := Int.tmod_eq_emod_of_nonneg (by omega)
  have htdiv' : ((lba : Int) % 36).tdiv 18 = lba % 36 / 18 :=
    Int.tdiv_eq_ediv_of_nonneg (by omega)
  have htmod' : ((lba : Int) % 36).tmod 18 = lba % 36 % 18 :=
    Int.tmod_eq_emod_of_nonneg (by omega)
  rw [htdiv] at hcylinder
  simp only [htdiv, htmod, htdiv', htmod']
  have hc : ((lowByte (lba / 36)).toNat : Int) = lba / 36 :=
    lowByte_toNat (by omega) (by omega)
  have hh : ((lowByte (lba % 36 / 18)).toNat : Int) = lba % 36 / 18 :=
    lowByte_toNat (by omega) (by omega)
  have hs : ((lowByte (lba % 36 % 18 + 1)).toNat : Int) = lba % 36 % 18 + 1 :=
    lowByte_toNat (by omega) (by omega)
  refine ⟨⟨?_, ?_, ?_⟩, ?_⟩
  · simp only
    omega
  · simp only
    omega
  · simp only
    omega
  · simp only [Chs.lba]
    omega

theorem lbaToChs_track_zero :
    ∀ lba < 18, lbaToChs (lba : Nat) = .ok ⟨0, 0, UInt8.ofNat (lba + 1)⟩ := by decide

theorem writeSectorEntry_spec {startLba i : Nat} (hstart : startLba + i < 2 ^ 31)
    (hi : 3 * i < 2 ^ 31) (h : writeSectorEntry startLba table i = .ok after) :
    ∃ chs : Chs, lbaToChs (startLba + i : Nat) = .ok chs ∧ 3 * i + chs.bytes.length ≤ table.length ∧
      after = overwrite table (3 * i) chs.bytes := by
  simp only [writeSectorEntry, bind_ok, writeAt_ok] at h
  rw [int32_eq (by omega) (by omega), int32_eq (by omega) (by omega)] at h
  obtain ⟨chs, hchs, -, hfits, rfl⟩ := h
  have hoffset : ((i : Int) * 3).toNat = 3 * i := by omega
  refine ⟨chs, by exact_mod_cast hchs, ?_, by rw [hoffset, Chs.bytes]⟩
  simp only [Chs.bytes, List.length_cons, List.length_nil] at hfits ⊢
  omega

theorem buildSectorTable_spec {startLba sectorCount : Nat} (hstart : startLba < 2 ^ 16)
    (hcount : sectorCount < 2 ^ 16) (h : buildSectorTable startLba sectorCount = .ok table) :
    table.length = 3 * sectorCount ∧ ∀ i < sectorCount, ∃ chs : Chs,
      lbaToChs (startLba + i : Nat) = .ok chs ∧ slice table (3 * i) 3 = chs.bytes := by
  simp only [buildSectorTable, bind_ok, newArray_ok] at h
  rw [int32_eq (by omega) (by omega)] at h
  obtain ⟨zeros, ⟨-, hzeros⟩, hloop⟩ := h
  refine foldlM_range_invariant
    (fun done table => table.length = 3 * sectorCount ∧ ∀ i < done, ∃ chs : Chs,
      lbaToChs (startLba + i : Nat) = .ok chs ∧ slice table (3 * i) 3 = chs.bytes)
    ⟨?_, fun i hi => absurd hi (Nat.not_lt_zero i)⟩ ?_ hloop
  · rw [hzeros, List.length_replicate]
    omega
  rintro i table after hi ⟨hlength, hentries⟩ hstep
  obtain ⟨chs, hchs, hfits, rfl⟩ := writeSectorEntry_spec (by omega) (by omega) hstep
  refine ⟨(length_overwrite hfits).trans hlength, fun j hj => ?_⟩
  rcases Nat.lt_succ_iff_lt_or_eq.mp hj with hbefore | rfl
  · obtain ⟨before, hlba, hslice⟩ := hentries j hbefore
    exact ⟨before, hlba, by rw [slice_overwrite_of_disjoint hfits (.inl (by omega)), hslice]⟩
  · exact ⟨chs, hchs, slice_overwrite_self hfits⟩

-- ---------------------------------------------------------------------------
-- The disk
-- ---------------------------------------------------------------------------

def diskSector (disk : Bytes) (lba : Nat) : Bytes := slice disk (512 * lba) 512

theorem buildDiskImage_spec (hstage2 : stage2.length + 511 < 2 ^ 31)
    (himage : imageData.length + 511 < 2 ^ 31)
    (h : buildDiskImage stage1 stage2 imageData = .ok disk) :
    (∀ k : Nat, k < divideRoundUp stage2.length sectorSize →
      diskSector disk (1 + k) = paddedSector stage2 k) ∧
    ∀ stage2SectorCount : Nat, stage2SectorCount = divideRoundUp stage2.length sectorSize →
      ∀ i : Nat, i < divideRoundUp imageData.length sectorSize →
        diskSector disk (1 + stage2SectorCount + i) = paddedSector imageData i := by
  simp only [buildDiskImage, bind_ok, throwIf_ok, newArray_ok, writeAt_ok] at h
  obtain ⟨-, hstage1, code, hcode, image, himages, -, hused, blank, ⟨-, hblank⟩, loader,
    ⟨-, hloaderFits, rfl⟩, program, ⟨-, hprogramFits, rfl⟩, -, himageFits, rfl⟩ := h
  obtain ⟨hcodeLength, hcodeBytes⟩ := padToSector_spec hstage2 hcode
  obtain ⟨himageLength, himageBytes⟩ := padToSector_spec himage himages
  simp only [sectorSize, Int.zero_add, Int.reduceToNat] at *
  have hstage1Length : stage1.length = 512 := by omega
  have hblankLength : blank.length = 1474560 := by
    rw [hblank, List.length_replicate]
    rfl
  clear hblank hused
  have hloader : (overwrite blank 0 stage1).length = 1474560 := by
    rw [length_overwrite (by omega), hblankLength]
  rw [hloader] at hprogramFits
  have hprogram : (overwrite (overwrite blank 0 stage1) 512 code).length = 1474560 := by
    rw [length_overwrite (by omega), hloader]
  have himageOffset : ((512 : Int) + code.length).toNat = 512 + code.length := by omega
  have hprogramBound : 512 + code.length ≤ (overwrite blank 0 stage1).length := by omega
  rw [hprogram] at himageFits
  have himageBound : 512 + code.length + image.length ≤
      (overwrite (overwrite blank 0 stage1) 512 code).length := by omega
  simp only [himageOffset, diskSector]
  constructor
  · intro k hk
    have hinside : 512 * k + 512 ≤ code.length := by omega
    rw [slice_overwrite_of_disjoint himageBound (.inl (by omega)), Nat.mul_add,
      slice_overwrite_inside hprogramBound hinside, slice_padded hcodeBytes hinside]
  · intro stage2SectorCount hcount i hi
    have hinside : 512 * i + 512 ≤ image.length := by omega
    have hsector : 512 * (1 + stage2SectorCount + i) = 512 + code.length + 512 * i := by omega
    rw [hsector, slice_overwrite_inside himageBound hinside, slice_padded himageBytes hinside]

theorem buildDiskImage_returns (hstage1 : stage1.length = 512)
    (hstage2 : stage2.length + 511 < 2 ^ 31) (himage : imageData.length + 511 < 2 ^ 31)
    (hfits : 1 + divideRoundUp stage2.length sectorSize +
      divideRoundUp imageData.length sectorSize ≤ 2880) :
    ∃ disk, buildDiskImage stage1 stage2 imageData = .ok disk := by
  obtain ⟨code, hcode, hcodeLength, -⟩ := padToSector_returns hstage2
  obtain ⟨image, himages, himageLength, -⟩ := padToSector_returns himage
  generalize hblank : List.replicate floppySize.toNat (0 : UInt8) = blank
  have hblankLength : blank.length = 1474560 := by
    rw [← hblank, List.length_replicate]
    rfl
  have hloader : (overwrite blank 0 stage1).length = 1474560 := by
    rw [length_overwrite (by omega), hblankLength]
  have hprogram : (overwrite (overwrite blank 0 stage1) 512 code).length = 1474560 := by
    rw [length_overwrite (by omega), hloader]
  simp only [buildDiskImage, bind_ok, throwIf_ok, newArray_ok, writeAt_ok]
  refine ⟨_, (), ?_, code, hcode, image, himages, (), ?_, blank, ⟨by decide, hblank.symm⟩, _,
    ⟨Int.le_refl 0, by omega, rfl⟩, _, ⟨by decide, ?_, rfl⟩, ?_, ?_, rfl⟩
  all_goals simp only [sectorSize, floppySize, Int.reduceToNat] at *
  · omega
  · rw [int32_eq (by omega) (by omega)]
    omega
  · omega
  · omega
  · omega

structure Floppy.LaysOut (floppy : Floppy) (payload : Bytes) : Prop where
  imageSectorCount_eq : floppy.imageSectorCount = (payload.length + 511) / 512
  length_only : ∀ table table' code code',
    buildStage2 floppy.imageSectorCount table = .ok code →
    buildStage2 floppy.imageSectorCount table' = .ok code' →
    table.length = table'.length → code.length = code'.length
  fixpoint : ∃ placeholder code, buildSectorTable 0 floppy.imageSectorCount = .ok placeholder ∧
    buildStage2 floppy.imageSectorCount placeholder = .ok code ∧
    divideRoundUp code.length sectorSize = floppy.stage2SectorCount
  stage2_eq : buildStage2 floppy.imageSectorCount floppy.imageSectorTable = .ok floppy.stage2
  image : ∀ i : Nat, i < floppy.imageSectorCount → ∃ chs : Chs,
    slice floppy.imageSectorTable (3 * i) 3 = chs.bytes ∧ chs.Valid ∧
    diskSector floppy.disk chs.lba = paddedSector payload i
  program : ∀ k : Nat, k < floppy.stage2SectorCount → ∃ chs : Chs,
    lbaToChs (1 + k : Nat) = .ok chs ∧ chs.cylinder = 0 ∧ chs.head = 0 ∧
    diskSector floppy.disk chs.lba = paddedSector floppy.stage2 k

theorem buildFloppy_laysOut (hpayload : payload.length < 2 ^ 31)
    (h : buildFloppy payload = .ok floppy) : floppy.LaysOut payload := by
  simp only [buildFloppy, bind_ok, throwIf_ok, pure_ok] at h
  obtain ⟨placeholder, hplaceholder, first, hfirst, -, hfirstCount, table, htable, stage2, hstage2,
    -, hstage2Count, stage1, hstage1, disk, hdisk, rfl⟩ := h
  obtain ⟨hnonneg, hsmall⟩ := imageSectorCount_of_buildStage2 hfirst
  have hlength := length_of_divideRoundUp hpayload hnonneg
  have himageCount := divideRoundUp_sectorSize hlength
  obtain ⟨count, hcount⟩ := Int.eq_ofNat_of_zero_le hnonneg
  rw [hcount] at hplaceholder hfirst hstage2 htable himageCount hsmall ⊢
  have hplaceholder' : buildSectorTable (0 : Nat) (count : Nat) = .ok placeholder := hplaceholder
  have hplaceholderLength := (buildSectorTable_spec (by omega) (by omega) hplaceholder').1
  have hfirstLength := buildStage2_length hfirst
  have hfirstSectors := divideRoundUp_sectorSize (show first.length + 511 < 2 ^ 31 by omega)
  obtain ⟨sectors, hsectors⟩ : ∃ sectors : Nat, divideRoundUp first.length sectorSize = sectors :=
    Int.eq_ofNat_of_zero_le (by omega)
  rw [hsectors] at htable hfirstCount hfirstSectors
  have htable' : buildSectorTable (1 + sectors : Nat) (count : Nat) = .ok table := by
    push_cast
    exact htable
  obtain ⟨htableLength, hentries⟩ := buildSectorTable_spec (by omega) (by omega) htable'
  have hsameLength : stage2.length = first.length := by
    rw [buildStage2_length hstage2, hfirstLength, htableLength, hplaceholderLength]
  have hstage2Sectors : divideRoundUp stage2.length sectorSize = sectors := by
    rw [hsameLength, hsectors]
  obtain ⟨hprogram, himage⟩ := buildDiskImage_spec (by omega) hlength hdisk
  refine ⟨?_, ?_, ?_, hstage2, ?_, ?_⟩
  · exact himageCount
  · intro table table' code code' hcode hcode' htables
    rw [buildStage2_length hcode, buildStage2_length hcode', htables]
  · exact ⟨placeholder, first, hplaceholder, hfirst, by rw [hsectors, hstage2Sectors]⟩
  · intro i hi
    simp only [Int.ofNat_lt] at hi
    obtain ⟨chs, hchs, hslice⟩ := hentries i hi
    obtain ⟨hvalid, hlba⟩ := lbaToChs_spec hchs
    refine ⟨chs, hslice, hvalid, ?_⟩
    rw [hlba]
    exact himage sectors hstage2Sectors.symm i (by omega)
  · intro k hk
    simp only at hk
    have hlba := lbaToChs_track_zero (1 + k) (by omega)
    refine ⟨_, hlba, rfl, rfl, ?_⟩
    rw [(lbaToChs_spec hlba).2]
    exact hprogram k hk

theorem buildFloppy_laysOut_twoSectors :
    ∃ floppy, buildFloppy (List.replicate 600 7) = .ok floppy ∧
      floppy.LaysOut (List.replicate 600 7) := by
  obtain ⟨placeholder, hplaceholder⟩ : ∃ code, buildStage2 2 [0, 0, 1, 0, 0, 2] = .ok code :=
    returns_of_toBool (by decide +kernel)
  obtain ⟨stage2, hstage2⟩ : ∃ code, buildStage2 2 [0, 0, 3, 0, 0, 4] = .ok code :=
    returns_of_toBool (by decide +kernel)
  obtain ⟨stage1, hstage1⟩ : ∃ code, buildStage1 1 = .ok code :=
    returns_of_toBool (by decide +kernel)
  have hplaceholderLength : placeholder.length = 159 := buildStage2_length hplaceholder
  have hstage2Length : stage2.length = 159 := buildStage2_length hstage2
  have himageLength : (List.replicate 600 (7 : UInt8)).length = 600 := List.length_replicate
  obtain ⟨disk, hdisk⟩ : ∃ disk, buildDiskImage stage1 stage2 (List.replicate 600 7) = .ok disk :=
    buildDiskImage_returns (buildStage1_length hstage1) (by omega) (by omega)
      (by rw [hstage2Length, himageLength]; decide)
  have h : buildFloppy (List.replicate 600 7) =
      .ok ⟨2, [0, 0, 3, 0, 0, 4], stage2, 1, disk⟩ := by
    simp only [buildFloppy, bind_ok, throwIf_ok, pure_ok, himageLength]
    refine ⟨[0, 0, 1, 0, 0, 2], by decide, placeholder, hplaceholder, (), ?_,
      [0, 0, 3, 0, 0, 4], ?_, stage2, hstage2, (), ?_, stage1, ?_, disk, hdisk, ?_⟩
    all_goals simp only [hplaceholderLength, hstage2Length]
    · decide
    · decide
    · decide
    · exact hstage1
    · rfl
  exact ⟨_, h, buildFloppy_laysOut (by rw [himageLength]; decide) h⟩

end DragonOS.Build
