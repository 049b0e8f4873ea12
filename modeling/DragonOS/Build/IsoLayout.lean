import DragonOS.Build.IsoSectors

/-!
# The layout of the image

The image is a cleared buffer with a region for every sector that is written, one for the
EFI system partition and one for the loader behind it.
-/

namespace DragonOS.Build

open Lib

namespace UefiIsoBuilder

-- ---------------------------------------------------------------------------
-- The sectors
-- ---------------------------------------------------------------------------

def clearedSector : Bytes := List.replicate isoSectorSize 0

theorem length_clearedSector : clearedSector.length = 2048 := List.length_replicate

def primaryVolumeSector (volumeSpace : UInt32) (timestamp : DateTime) : Bytes :=
  putRegions clearedSector (primaryVolumeFields volumeSpace
    ((directory rootDirectoryLba [0x00]).bytes timestamp) timestamp)

def bootRecordSector : Bytes := putRegions clearedSector bootRecordFields

def terminatorSector : Bytes := putRegions clearedSector terminatorFields

def pathTableSector (order : WordOrder) : Bytes :=
  tableBytes order pathTableEntries ++ List.replicate (2048 - 34) 0

def directorySector (timestamp : DateTime) (records : List DirectoryRecord) : Bytes :=
  directoryBytes timestamp records ++ List.replicate (2048 - (records.map (·.length)).sum) 0

def validationSector : Bytes := putRegions clearedSector validationFields

def bootCatalogSector : Bytes :=
  putRegions validationSector
    (initialFields (computeElToritoChecksum (slice validationSector 0 32)))

theorem inOrder_primaryVolumeFields (volumeSpace : UInt32) (timestamp : DateTime) :
    InOrder 0 clearedSector.length (primaryVolumeFields volumeSpace
      ((directory rootDirectoryLba [0x00]).bytes timestamp) timestamp) := by
  have hroot : ((directory rootDirectoryLba [0x00]).bytes timestamp).length = 34 := by simp; rfl
  simp [primaryVolumeFields, InOrder, length_clearedSector, hroot]

theorem inOrder_bootRecordFields : InOrder 0 clearedSector.length bootRecordFields := by
  simp [bootRecordFields, InOrder, length_clearedSector]

theorem inOrder_terminatorFields : InOrder 0 clearedSector.length terminatorFields := by
  simp [terminatorFields, InOrder, length_clearedSector]

theorem inOrder_validationFields : InOrder 0 clearedSector.length validationFields := by
  simp [validationFields, InOrder, length_clearedSector]

theorem length_validationSector : validationSector.length = 2048 := by
  rw [validationSector, length_putRegions inOrder_validationFields, length_clearedSector]

theorem inOrder_initialFields (checksum : UInt16) :
    InOrder 0 validationSector.length (initialFields checksum) := by
  simp [initialFields, InOrder, length_validationSector]

theorem length_bootCatalogSector : bootCatalogSector.length = 2048 := by
  rw [bootCatalogSector, length_putRegions (inOrder_initialFields _), length_validationSector]

theorem length_directorySector (timestamp : DateTime) {records : List DirectoryRecord}
    (hfit : (records.map (·.length)).sum ≤ 2048) :
    (directorySector timestamp records).length = 2048 := by
  rw [directorySector, List.length_append, length_directoryBytes, List.length_replicate]
  omega

-- ---------------------------------------------------------------------------
-- The image so far
-- ---------------------------------------------------------------------------

/-- An image of which nothing behind `first` has been written. -/
structure Written (iso : Bytes) (length first : Nat) (done : List (Nat × Bytes)) : Prop where
  eq : iso = putRegions (List.replicate length 0) done
  inOrder : InOrder 0 first done

variable {iso : Bytes} {done : List (Nat × Bytes)}

theorem Written.inOrder_length (h : Written iso length first done) (hfirst : first ≤ length) :
    InOrder 0 (List.replicate length (0 : UInt8)).length done := by
  rw [List.length_replicate]
  have hnone : InOrder first length ([] : List (Nat × Bytes)) := hfirst
  have happend := h.inOrder.append hnone
  rwa [List.append_nil] at happend

theorem Written.length_eq (h : Written iso length first done) (hfirst : first ≤ length) :
    iso.length = length := by
  rw [h.eq, length_putRegions (h.inOrder_length hfirst), List.length_replicate]

theorem Written.next (h : Written iso length first done) {offset : Nat} (source : Bytes)
    (hoffset : first ≤ offset) :
    Written (overwrite iso offset source) length (offset + source.length)
      (done ++ [(offset, source)]) := by
  refine ⟨?_, h.inOrder.append ⟨hoffset, Nat.le_refl _⟩⟩
  rw [h.eq, putRegions, putRegions, List.foldl_append]
  rfl

theorem Written.writeAt (h : Written iso length first done) {offset : Nat} {source : Bytes}
    (hoffset : first ≤ offset) (hfit : offset + source.length ≤ length) :
    ∃ next, writeAt iso offset source = .ok next ∧
      Written next length (offset + source.length) (done ++ [(offset, source)]) := by
  have hlength := h.length_eq (by omega)
  exact ⟨_, writeAt_ok.mpr ⟨Int.natCast_nonneg _, by omega, by rw [Int.toNat_natCast]⟩,
    h.next source hoffset⟩

/-- A sector is still cleared when it is written. -/
theorem Written.writeSector (h : Written iso length first done) (lba : Nat)
    (body : Bytes → Except Exception Bytes) {sector : Bytes} (hlba : first ≤ lba * 2048)
    (hfit : lba * 2048 + 2048 ≤ length) (hbody : body clearedSector = .ok sector)
    (hsector : sector.length = 2048) :
    ∃ next, writeSector iso lba body = .ok next ∧
      Written next length (lba * 2048 + 2048) (done ++ [(lba * 2048, sector)]) := by
  have hlength := h.length_eq (by omega)
  have hslice : slice iso (lba * 2048) 2048 = clearedSector := by
    have hreplicate : slice (List.replicate length (0 : UInt8)) (lba * 2048) 2048 = clearedSector := by
      rw [slice, List.drop_replicate, List.take_replicate, Nat.min_eq_left (by omega)]
      rfl
    rw [h.eq, slice_putRegions_of_beside (h.inOrder_length (by omega)) fun region hregion => ?_,
      hreplicate]
    have hbounds := h.inOrder.bounds hregion
    omega
  have hwrite : writeSpan iso (lba * 2048 : Nat) (2048 : Nat) body =
      .ok (overwrite iso (lba * 2048) sector) :=
    writeSpan_ok (by omega) (by rwa [hslice]) hsector
  have hnext := h.next sector hlba
  rw [hsector] at hnext
  exact ⟨_, hwrite, hnext⟩

-- ---------------------------------------------------------------------------
-- The image
-- ---------------------------------------------------------------------------

def sectorCount (length : Nat) : Nat := (length + 2047) / 2048

def loaderLba (efiSystemPartition : Bytes) : Nat := 25 + sectorCount efiSystemPartition.length

def volumeSectors (efiSystemPartition bootx64 : Bytes) : Nat :=
  loaderLba efiSystemPartition + sectorCount bootx64.length

def isoRegions (timestamp : DateTime) (efiSystemPartition bootx64 : Bytes) : List (Nat × Bytes) :=
  [(16 * 2048, primaryVolumeSector (UInt32.ofNat (volumeSectors efiSystemPartition bootx64)) timestamp),
    (17 * 2048, bootRecordSector), (18 * 2048, terminatorSector),
    (19 * 2048, pathTableSector littleOrder), (20 * 2048, pathTableSector bigOrder),
    (21 * 2048, directorySector timestamp rootRecords),
    (22 * 2048, directorySector timestamp efiRecords),
    (23 * 2048, directorySector timestamp (bootRecords (UInt32.ofNat (loaderLba efiSystemPartition))
      (UInt32.ofNat bootx64.length))),
    (24 * 2048, bootCatalogSector), (25 * 2048, efiSystemPartition),
    (loaderLba efiSystemPartition * 2048, bootx64)]

theorem fits_pathTableEntries : ∀ entry ∈ pathTableEntries, entry.Fits := by
  simp [pathTableEntries, PathTableEntry.Fits, rootDirectoryLba, efiDirectoryLba,
    bootDirectoryLba, asciiBytes, asciiChar]

theorem pathTableSector_ok (order : WordOrder) :
    writePathTable order.writeEntry clearedSector 0 pathTableEntries =
      .ok (pathTableSector order) := by
  have hsum : (pathTableEntries.map (·.length)).sum = 34 := rfl
  have hwrite : writePathTable order.writeEntry ([] ++ List.replicate 2048 0) ([] : Bytes).length
      pathTableEntries = _ := writePathTable_ok order fits_pathTableEntries (by rw [hsum]; omega)
  rwa [hsum] at hwrite

theorem directorySector_ok {timestamp : DateTime} {records : List DirectoryRecord}
    (h : Recordable timestamp) (hids : ∀ record ∈ records, record.fileIdentifier.length ≤ 221)
    (hfit : (records.map (·.length)).sum ≤ 2048) :
    copyRecords timestamp clearedSector 0 records = .ok (directorySector timestamp records) := by
  have hcopy : copyRecords timestamp ([] ++ List.replicate 2048 0) ([] : Bytes).length records = _ :=
    copyRecords_ok h hids hfit
  exact hcopy

theorem primaryVolumeSector_ok {timestamp : DateTime} (h : Recordable timestamp) {sectors : Nat}
    (hsectors : sectors < 2 ^ 32) :
    (do
      let volumeSpace ← checkedUInt sectors
      let rootRecord ← (directory rootDirectoryLba [0x00]).build timestamp
      writeFields clearedSector (primaryVolumeFields volumeSpace rootRecord timestamp)) =
      .ok (primaryVolumeSector (UInt32.ofNat sectors) timestamp) := by
  have hspace : checkedUInt sectors = .ok (UInt32.ofNat sectors) :=
    checkedUInt_ok.mpr ⟨Int.natCast_nonneg _, by omega, by rw [Int.toNat_natCast]⟩
  have hroot := (directory rootDirectoryLba [0x00]).build_ok h (by simp [directory])
  rw [hspace, ok_bind, hroot, ok_bind, writeFields_ok (inOrder_primaryVolumeFields _ _)]
  rfl

theorem divideRoundUp_sectorCount {length : Nat} (h : length < 2 ^ 30) :
    divideRoundUp length isoSectorSize = sectorCount length := by
  have hsize : ((isoSectorSize : Nat) : Int) = 2048 := rfl
  rw [hsize, divideRoundUp_eq (by omega) (by omega) (by omega), sectorCount]
  omega

theorem length_primaryVolumeSector (volumeSpace : UInt32) (timestamp : DateTime) :
    (primaryVolumeSector volumeSpace timestamp).length = 2048 := by
  rw [primaryVolumeSector, length_putRegions (inOrder_primaryVolumeFields _ _), length_clearedSector]

theorem length_bootRecordSector : bootRecordSector.length = 2048 := by
  rw [bootRecordSector, length_putRegions inOrder_bootRecordFields, length_clearedSector]

theorem length_terminatorSector : terminatorSector.length = 2048 := by
  rw [terminatorSector, length_putRegions inOrder_terminatorFields, length_clearedSector]

theorem length_pathTableSector (order : WordOrder) : (pathTableSector order).length = 2048 := by
  rw [pathTableSector, List.length_append, length_tableBytes, List.length_replicate]
  rfl

theorem sum_rootRecords : (rootRecords.map (·.length)).sum = 148 := rfl

theorem sum_efiRecords : (efiRecords.map (·.length)).sum = 106 := rfl

theorem sum_bootRecords (extentLba dataLength : UInt32) :
    ((bootRecords extentLba dataLength).map (·.length)).sum = 114 := by
  simp [bootRecords, directory, DirectoryRecord.length, recordLength, asciiBytes, asciiChar]

-- Every writer leaves what lies behind its own sector cleared for the next one.

section
variable {length first : Nat}

theorem Written.primaryVolumeDescriptor {timestamp : DateTime} {sectors : Nat}
    (h : Written iso length 0 []) (htime : Recordable timestamp) (hsectors : sectors < 2 ^ 32)
    (hfit : 17 * 2048 ≤ length) :
    ∃ next, writePrimaryVolumeDescriptor iso sectors timestamp = .ok next ∧
      Written next length (17 * 2048)
        [(16 * 2048, primaryVolumeSector (UInt32.ofNat sectors) timestamp)] :=
  h.writeSector primaryVolumeDescriptorLba _ (Nat.zero_le _) hfit (primaryVolumeSector_ok htime hsectors)
    (length_primaryVolumeSector _ _)

theorem Written.bootRecord (h : Written iso length first done) (hfirst : first ≤ 17 * 2048)
    (hfit : 18 * 2048 ≤ length) :
    ∃ next, writeBootRecordVolumeDescriptor iso = .ok next ∧
      Written next length (18 * 2048) (done ++ [(17 * 2048, bootRecordSector)]) :=
  h.writeSector bootRecordLba (writeFields · bootRecordFields) hfirst hfit
    (writeFields_ok inOrder_bootRecordFields) length_bootRecordSector

theorem Written.terminator (h : Written iso length first done) (hfirst : first ≤ 18 * 2048)
    (hfit : 19 * 2048 ≤ length) :
    ∃ next, writeVolumeDescriptorTerminator iso = .ok next ∧
      Written next length (19 * 2048) (done ++ [(18 * 2048, terminatorSector)]) :=
  h.writeSector volumeDescriptorTerminatorLba (writeFields · terminatorFields) hfirst hfit
    (writeFields_ok inOrder_terminatorFields) length_terminatorSector

theorem Written.pathTables (h : Written iso length first done) (hfirst : first ≤ 19 * 2048)
    (hfit : 21 * 2048 ≤ length) :
    ∃ next, writePathTables iso = .ok next ∧
      Written next length (21 * 2048)
        (done ++ [(19 * 2048, pathTableSector littleOrder)] ++
          [(20 * 2048, pathTableSector bigOrder)]) := by
  obtain ⟨middle, hlittle, hmiddle⟩ := h.writeSector 19
    (writePathTable littleOrder.writeEntry · 0 pathTableEntries) hfirst (by omega)
    (pathTableSector_ok littleOrder) (length_pathTableSector _)
  obtain ⟨next, hbig, hnext⟩ := hmiddle.writeSector 20
    (writePathTable bigOrder.writeEntry · 0 pathTableEntries) (by omega) hfit
    (pathTableSector_ok bigOrder) (length_pathTableSector _)
  exact ⟨next, bind_ok.mpr ⟨middle, hlittle, hbig⟩, hnext⟩

theorem Written.writeRecords {timestamp : DateTime} (h : Written iso length first done)
    (htime : Recordable timestamp) (lba : Nat) {records : List DirectoryRecord}
    (hfirst : first ≤ lba * 2048) (hfit : lba * 2048 + 2048 ≤ length)
    (hids : ∀ record ∈ records, record.fileIdentifier.length ≤ 221)
    (hsum : (records.map (·.length)).sum ≤ 2048) :
    ∃ next, UefiIsoBuilder.writeSector iso lba (copyRecords timestamp · 0 records) = .ok next ∧
      Written next length (lba * 2048 + 2048)
        (done ++ [(lba * 2048, directorySector timestamp records)]) :=
  h.writeSector lba _ hfirst hfit (directorySector_ok htime hids hsum) (length_directorySector _ hsum)

theorem Written.rootDirectory {timestamp : DateTime} (h : Written iso length first done)
    (htime : Recordable timestamp) (hfirst : first ≤ 21 * 2048) (hfit : 22 * 2048 ≤ length) :
    ∃ next, writeRootDirectory iso timestamp = .ok next ∧
      Written next length (22 * 2048)
        (done ++ [(21 * 2048, directorySector timestamp rootRecords)]) :=
  h.writeRecords htime rootDirectoryLba hfirst hfit
    (by simp [rootRecords, directory, asciiBytes, asciiChar]) (by rw [sum_rootRecords]; omega)

theorem Written.efiDirectory {timestamp : DateTime} (h : Written iso length first done)
    (htime : Recordable timestamp) (hfirst : first ≤ 22 * 2048) (hfit : 23 * 2048 ≤ length) :
    ∃ next, writeEfiDirectory iso timestamp = .ok next ∧
      Written next length (23 * 2048)
        (done ++ [(22 * 2048, directorySector timestamp efiRecords)]) :=
  h.writeRecords htime efiDirectoryLba hfirst hfit
    (by simp [efiRecords, directory, asciiBytes, asciiChar]) (by rw [sum_efiRecords]; omega)

theorem Written.bootDirectory {timestamp : DateTime} {lba size : Nat}
    (h : Written iso length first done) (htime : Recordable timestamp)
    (hfirst : first ≤ 23 * 2048) (hfit : 24 * 2048 ≤ length) (hlba : lba < 2 ^ 32)
    (hsize : size < 2 ^ 32) :
    ∃ next, writeBootDirectory iso lba size timestamp = .ok next ∧
      Written next length (24 * 2048)
        (done ++ [(23 * 2048, directorySector timestamp
          (bootRecords (UInt32.ofNat lba) (UInt32.ofNat size)))]) := by
  have hword (value : Nat) (hvalue : value < 2 ^ 32) : checkedUInt value = .ok (UInt32.ofNat value) :=
    checkedUInt_ok.mpr ⟨Int.natCast_nonneg _, by omega, by rw [Int.toNat_natCast]⟩
  refine h.writeSector bootDirectoryLba _ hfirst hfit ?_
    (length_directorySector _ (by rw [sum_bootRecords]; omega))
  rw [hword lba hlba, ok_bind, hword size hsize, ok_bind]
  exact directorySector_ok htime (by simp [bootRecords, directory, asciiBytes, asciiChar])
    (by rw [sum_bootRecords]; omega)

theorem Written.bootCatalog (h : Written iso length first done) (hfirst : first ≤ 24 * 2048)
    (hfit : 25 * 2048 ≤ length) :
    ∃ next, writeBootCatalog iso = .ok next ∧
      Written next length (25 * 2048) (done ++ [(24 * 2048, bootCatalogSector)]) := by
  refine h.writeSector bootCatalogLba _ hfirst hfit ?_ length_bootCatalogSector
  rw [writeFields_ok inOrder_validationFields, ok_bind]
  exact writeFields_ok (inOrder_initialFields _)

end

theorem buildBootableIso_ok {timestamp : DateTime} {efiSystemPartition bootx64 : Bytes}
    (h : Recordable timestamp) (hsize : efiSystemPartition.length + bootx64.length < 2 ^ 30) :
    ∃ iso, buildBootableIso timestamp efiSystemPartition bootx64 = .ok iso ∧
      Written iso (volumeSectors efiSystemPartition bootx64 * 2048)
        (loaderLba efiSystemPartition * 2048 + bootx64.length)
        (isoRegions timestamp efiSystemPartition bootx64) := by
  have hloader : loaderLba efiSystemPartition =
      25 + (efiSystemPartition.length + 2047) / 2048 := rfl
  have htotal : volumeSectors efiSystemPartition bootx64 =
      loaderLba efiSystemPartition + (bootx64.length + 2047) / 2048 := rfl
  have hlba : int32 ((bootImageLba : Nat) + (sectorCount efiSystemPartition.length : Nat)) =
      (loaderLba efiSystemPartition : Nat) := by
    rw [loaderLba, bootImageLba, sectorCount, int32_eq (by omega) (by omega)]
    omega
  have hsectors : int32 ((loaderLba efiSystemPartition : Nat) + (sectorCount bootx64.length : Nat)) =
      (volumeSectors efiSystemPartition bootx64 : Nat) := by
    rw [volumeSectors, sectorCount, int32_eq (by omega) (by omega)]
    omega
  have hscale (lba : Nat) (hlba : lba * 2048 < 2 ^ 31) :
      int32 ((lba : Int) * (isoSectorSize : Nat)) = (lba * 2048 : Nat) := by
    rw [isoSectorSize, int32_eq (by omega) (by omega)]
    omega
  have harray : newArray UInt8 (volumeSectors efiSystemPartition bootx64 * 2048 : Nat) =
      .ok (List.replicate (volumeSectors efiSystemPartition bootx64 * 2048) 0) :=
    newArray_ok.mpr ⟨Int.natCast_nonneg _, by rw [Int.toNat_natCast]⟩
  have hcleared : Written (List.replicate (volumeSectors efiSystemPartition bootx64 * 2048) 0)
      (volumeSectors efiSystemPartition bootx64 * 2048) 0 [] := ⟨rfl, Nat.le_refl _⟩
  obtain ⟨iso₁, h₁, hiso₁⟩ := hcleared.primaryVolumeDescriptor h
    (by omega : volumeSectors efiSystemPartition bootx64 < 2 ^ 32) (by omega)
  obtain ⟨iso₂, h₂, hiso₂⟩ := hiso₁.bootRecord (by omega) (by omega)
  obtain ⟨iso₃, h₃, hiso₃⟩ := hiso₂.terminator (by omega) (by omega)
  obtain ⟨iso₄, h₄, hiso₄⟩ := hiso₃.pathTables (by omega) (by omega)
  obtain ⟨iso₅, h₅, hiso₅⟩ := hiso₄.rootDirectory h (by omega) (by omega)
  obtain ⟨iso₆, h₆, hiso₆⟩ := hiso₅.efiDirectory h (by omega) (by omega)
  obtain ⟨iso₇, h₇, hiso₇⟩ := hiso₆.bootDirectory h (by omega) (by omega)
    (by omega : loaderLba efiSystemPartition < 2 ^ 32) (by omega : bootx64.length < 2 ^ 32)
  obtain ⟨iso₈, h₈, hiso₈⟩ := hiso₇.bootCatalog (by omega) (by omega)
  obtain ⟨iso₉, h₉, hiso₉⟩ := hiso₈.writeAt (Nat.le_refl (25 * 2048))
    (by omega : 25 * 2048 + efiSystemPartition.length ≤ _)
  obtain ⟨iso, hlast, hiso⟩ := hiso₉.writeAt (by omega)
    (by omega : loaderLba efiSystemPartition * 2048 + bootx64.length ≤ _)
  refine ⟨iso, ?_, hiso⟩
  rw [buildBootableIso]
  simp only [divideRoundUp_sectorCount (by omega : efiSystemPartition.length < 2 ^ 30),
    divideRoundUp_sectorCount (by omega : bootx64.length < 2 ^ 30), hlba, hsectors,
    hscale _ (by omega : volumeSectors efiSystemPartition bootx64 * 2048 < 2 ^ 31),
    hscale _ (by omega : loaderLba efiSystemPartition * 2048 < 2 ^ 31), harray, h₁, h₂, h₃, h₄, h₅,
    h₆, h₇, h₈, ok_bind]
  rw [show bootImageLba * isoSectorSize = 25 * 2048 from rfl, h₉, ok_bind, hlast]

end UefiIsoBuilder

end DragonOS.Build
