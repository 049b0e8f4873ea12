import DragonOS.Build.IsoReading

/-!
# The image boots

A reader finds in the image of every build what was put there: the loader by its path, the
same directories by either path table, and the EFI system partition by the boot catalog.
-/

namespace DragonOS.Build

open Lib

namespace IsoReader

open UefiIsoBuilder

def directoryRecord (lba : Nat) (identifier : Bytes) : Record where
  lba
  size := 2048
  isDirectory := true
  identifier

def volumeOf (size : Nat) : Volume where
  size
  pathTableSize := 34
  littlePathTable := 19
  bigPathTable := 20
  root := directoryRecord 21 [0]

def fileRecord (lba size : Nat) (identifier : Bytes) : Record where
  lba
  size
  isDirectory := false
  identifier

def layoutOf (volumeSize loaderLba loaderSize : Nat) : Layout where
  volume := volumeOf volumeSize
  littleEntries := pathTableEntries.map entryOf
  bigEntries := pathTableEntries.map entryOf
  efi := directoryRecord 22 (asciiBytes "EFI")
  boot := directoryRecord 23 (asciiBytes "BOOT")
  loader := fileRecord loaderLba loaderSize (asciiBytes "BOOTX64.EFI;1")
  catalogFile := fileRecord 24 2048 (asciiBytes "BOOT.CAT;1")
  catalog := 24
  image := 25

variable {iso : Bytes} {done : List (Nat × Bytes)} {length first : Nat}

theorem primaryVolume_written {volumeSpace : UInt32} {timestamp : DateTime}
    (h : Written iso length first done) (hfirst : first ≤ length)
    (hmem : (16 * blockSize, primaryVolumeSector volumeSpace timestamp) ∈ done) :
    primaryVolume iso = some (volumeOf volumeSpace.toNat) := by
  have hread := readExtent_sector h hfirst hmem (length_primaryVolumeSector _ _)
  have hinOrder := inOrder_primaryVolumeFields volumeSpace timestamp
  have hdescriptor : isDescriptor (primaryVolumeSector volumeSpace timestamp) 1 = true :=
    isDescriptor_putRegions hinOrder (by simp [primaryVolumeFields]) (by simp [primaryVolumeFields])
      (by simp [primaryVolumeFields])
  have hsize : bothEndianValue (primaryVolumeSector volumeSpace timestamp) 80 4 =
      some volumeSpace.toNat :=
    bothEndianValue_bothEndian32 hinOrder (by simp [primaryVolumeFields])
  have hblock : bothEndianValue (primaryVolumeSector volumeSpace timestamp) 128 2 =
      some isoSectorSize.toUInt16.toNat :=
    bothEndianValue_bothEndian16 hinOrder (by simp [primaryVolumeFields])
  have htable : bothEndianValue (primaryVolumeSector volumeSpace timestamp) 132 4 =
      some (34 : UInt32).toNat :=
    bothEndianValue_bothEndian32 hinOrder (by simp [primaryVolumeFields])
  have hlittle : slice (primaryVolumeSector volumeSpace timestamp) 140 4 =
      littleEndian32 pathTableLeLba.toUInt32 :=
    slice_field hinOrder (by simp [primaryVolumeFields]) rfl
  have hbig : slice (primaryVolumeSector volumeSpace timestamp) 148 4 =
      bigEndian32 pathTableBeLba.toUInt32 :=
    slice_field hinOrder (by simp [primaryVolumeFields]) rfl
  have hrootBytes : slice (primaryVolumeSector volumeSpace timestamp) 156 34 =
      (directory rootDirectoryLba [0x00]).bytes timestamp :=
    slice_field hinOrder (by simp [primaryVolumeFields]) (DirectoryRecord.length_bytes _ _)
  have hroot : readRecord (slice (primaryVolumeSector volumeSpace timestamp) 156 34) =
      some (directoryRecord 21 [0]) := by
    have hrecord := readRecord_bytes (directory rootDirectoryLba [0x00]) timestamp [] (by decide)
    rw [List.append_nil] at hrecord
    rw [hrootBytes, hrecord]
    rfl
  rw [primaryVolume, hread]
  simp only [Option.bind_eq_bind, Option.bind_some, hdescriptor, hsize, hblock, htable, hroot,
    hlittle, hbig, littleEndianValue_littleEndian32, bigEndianValue_bigEndian32]
  rfl

theorem bootCatalog_written (h : Written iso length first done) (hfirst : first ≤ length)
    (hmem : (17 * blockSize, bootRecordSector) ∈ done) : bootCatalog iso = some 24 := by
  have hread := readExtent_sector h hfirst hmem length_bootRecordSector
  have hdescriptor : isDescriptor bootRecordSector 0 = true :=
    isDescriptor_putRegions inOrder_bootRecordFields (by simp [bootRecordFields])
      (by simp [bootRecordFields]) (by simp [bootRecordFields])
  have hidentifier : slice bootRecordSector (7 + 0) 23 =
      slice (asciiPadded 32 (asciiBytes "EL TORITO SPECIFICATION")) 0 23 :=
    slice_putRegions_inside inOrder_bootRecordFields (by simp [bootRecordFields]) (by simp)
  have hcatalog : slice bootRecordSector 71 4 = littleEndian32 bootCatalogLba.toUInt32 :=
    slice_field inOrder_bootRecordFields (by simp [bootRecordFields]) rfl
  have hname : slice (asciiPadded 32 (asciiBytes "EL TORITO SPECIFICATION")) 0 23 =
      asciiBytes "EL TORITO SPECIFICATION" := by decide
  rw [Nat.add_zero, hname] at hidentifier
  rw [bootCatalog, hread]
  simp only [Option.bind_eq_bind, Option.bind_some, hdescriptor, hidentifier, hcatalog,
    littleEndianValue_littleEndian32]
  rfl

theorem bootImage_written (h : Written iso length first done) (hfirst : first ≤ length)
    (hmem : (24 * blockSize, bootCatalogSector) ∈ done) : bootImage iso 24 = some 25 := by
  have hread := readExtent_sector h hfirst hmem length_bootCatalogSector
  have hinOrder := inOrder_initialFields (computeElToritoChecksum (slice validationSector 0 32))
  have hboot : bootCatalogSector[32]? = some 0x88 :=
    getElem?_field hinOrder (by simp [initialFields])
  have himage : slice bootCatalogSector 40 4 = littleEndian32 bootImageLba.toUInt32 :=
    slice_field hinOrder (by simp [initialFields]) rfl
  rw [bootImage, hread]
  simp only [Option.bind_eq_bind, Option.bind_some, isValidationEntry_bootCatalogSector, hboot, himage,
    littleEndianValue_littleEndian32]
  rfl

-- ---------------------------------------------------------------------------
-- The whole image
-- ---------------------------------------------------------------------------

section
variable {timestamp : DateTime} {efiSystemPartition bootx64 : Bytes}

theorem follow_written (h : Written iso length first (isoRegions timestamp efiSystemPartition bootx64))
    (hfirst : first ≤ length) :
    findRecord iso (directoryRecord 21 [0]) (asciiBytes "EFI") =
        some (directoryRecord 22 (asciiBytes "EFI")) ∧
      findRecord iso (directoryRecord 21 [0]) (asciiBytes "BOOT.CAT;1") =
        some (fileRecord 24 2048 (asciiBytes "BOOT.CAT;1")) ∧
      findRecord iso (directoryRecord 22 (asciiBytes "EFI")) (asciiBytes "BOOT") =
        some (directoryRecord 23 (asciiBytes "BOOT")) ∧
      findRecord iso (directoryRecord 23 (asciiBytes "BOOT")) (asciiBytes "BOOTX64.EFI;1") =
        some (fileRecord (UInt32.ofNat (loaderLba efiSystemPartition)).toNat
          (UInt32.ofNat bootx64.length).toNat (asciiBytes "BOOTX64.EFI;1")) := by
  have hrootMem : (21 * blockSize, directorySector timestamp rootRecords) ∈
      isoRegions timestamp efiSystemPartition bootx64 := by simp [isoRegions, blockSize]
  have hefiMem : (22 * blockSize, directorySector timestamp efiRecords) ∈
      isoRegions timestamp efiSystemPartition bootx64 := by simp [isoRegions, blockSize]
  have hbootMem : (23 * blockSize, directorySector timestamp
      (bootRecords (UInt32.ofNat (loaderLba efiSystemPartition)) (UInt32.ofNat bootx64.length))) ∈
      isoRegions timestamp efiSystemPartition bootx64 := by simp [isoRegions, blockSize]
  have hroot (id : Bytes) : findRecord iso (directoryRecord 21 [0]) id =
      (rootRecords.map recordOf).find? fun record => record.identifier = id :=
    findRecord_directorySector h hfirst hrootMem
      (by simp [rootRecords, directory, asciiBytes, asciiChar]) (List.cons_ne_nil _ _)
      (by rw [sum_rootRecords]; omega)
  have hefi (id : Bytes) : findRecord iso (directoryRecord 22 (asciiBytes "EFI")) id =
      (efiRecords.map recordOf).find? fun record => record.identifier = id :=
    findRecord_directorySector h hfirst hefiMem
      (by simp [efiRecords, directory, asciiBytes, asciiChar]) (List.cons_ne_nil _ _)
      (by rw [sum_efiRecords]; omega)
  have hboot (id : Bytes) : findRecord iso (directoryRecord 23 (asciiBytes "BOOT")) id =
      ((bootRecords (UInt32.ofNat (loaderLba efiSystemPartition))
        (UInt32.ofNat bootx64.length)).map recordOf).find? fun record => record.identifier = id :=
    findRecord_directorySector h hfirst hbootMem
      (by simp [bootRecords, directory, asciiBytes, asciiChar]) (List.cons_ne_nil _ _)
      (by rw [sum_bootRecords]; omega)
  refine ⟨(hroot _).trans rfl, (hroot _).trans rfl, (hefi _).trans rfl, (hboot _).trans ?_⟩
  simp [bootRecords, directory, recordOf, fileRecord, asciiBytes, asciiChar]

theorem readLayout_written
    (h : Written iso length first (isoRegions timestamp efiSystemPartition bootx64))
    (hfirst : first ≤ length)
    (hsize : efiSystemPartition.length + bootx64.length < 2 ^ 30) :
    readLayout iso = some (layoutOf (volumeSectors efiSystemPartition bootx64)
      (loaderLba efiSystemPartition) bootx64.length) := by
  have hloader : loaderLba efiSystemPartition =
      25 + (efiSystemPartition.length + 2047) / 2048 := rfl
  have htotal : volumeSectors efiSystemPartition bootx64 =
      loaderLba efiSystemPartition + (bootx64.length + 2047) / 2048 := rfl
  have hvolume := primaryVolume_written h hfirst List.mem_cons_self
  obtain ⟨hefi, hcatalogFile, hboot, hfile⟩ := follow_written h hfirst
  have hlittle : readPathTable iso littleEndianValue 19 34 = _ :=
    readPathTable_pathTableSector littleOrder_readBy h hfirst (by simp [isoRegions, blockSize])
  have hbig : readPathTable iso bigEndianValue 20 34 = _ :=
    readPathTable_pathTableSector bigOrder_readBy h hfirst (by simp [isoRegions, blockSize])
  have hcatalog := bootCatalog_written h hfirst (by simp [isoRegions, blockSize])
  have himage := bootImage_written h hfirst (by simp [isoRegions, blockSize])
  rw [UInt32.toNat_ofNat_of_lt' (by rw [UInt32.size]; omega)] at hvolume
  rw [UInt32.toNat_ofNat_of_lt' (by rw [UInt32.size]; omega),
    UInt32.toNat_ofNat_of_lt' (by rw [UInt32.size]; omega)] at hfile
  rw [readLayout, hvolume]
  simp only [Option.bind_eq_bind, Option.bind_some, volumeOf, hlittle, hbig, follow, List.foldlM_cons,
    List.foldlM_nil, hefi, hboot, hfile, hcatalogFile, hcatalog, himage, pure]
  rfl

theorem followEntries_pathTableEntries :
    (pathTableEntries.map entryOf).length = 3 ∧
      followEntries (pathTableEntries.map entryOf) [] = some 21 ∧
      followEntries (pathTableEntries.map entryOf) [asciiBytes "EFI"] = some 22 ∧
      followEntries (pathTableEntries.map entryOf) [asciiBytes "EFI", asciiBytes "BOOT"] =
        some 23 := by
  decide +kernel

theorem extents_layoutOf (volumeSize loaderLba loaderSize imageSize : Nat) :
    (layoutOf volumeSize loaderLba loaderSize).extents imageSize =
      [(16, 1), (17, 1), (18, 1), (19, 1), (20, 1), (21, 1), (22, 1), (23, 1), (24, 1),
        (25, blocks imageSize), (loaderLba, blocks loaderSize)] := by
  have htable : blocks 34 = 1 := by decide
  have hsector : blocks 2048 = 1 := by decide
  simp only [layoutOf, Layout.extents, volumeOf, directoryRecord, fileRecord, htable, hsector]

/-- An image is built for every date that a directory record can hold. In it the loader is
found by its path, both path tables lead to the directories that the records lead to, the
boot catalog is a file as well and leads to the EFI system partition, and no two extents
meet. -/
theorem buildBootableIso_readLayout (timestamp : DateTime) (efiSystemPartition bootx64 : Bytes)
    (hsize : efiSystemPartition.length + bootx64.length < 2 ^ 30) :
    ((∃ iso, buildBootableIso timestamp efiSystemPartition bootx64 = .ok iso) ↔
      1900 ≤ timestamp.year ∧ timestamp.year < 2156) ∧
    ∀ iso, buildBootableIso timestamp efiSystemPartition bootx64 = .ok iso →
      ∃ layout, readLayout iso = some layout ∧
        readExtent iso layout.loader.lba layout.loader.size = some bootx64 ∧
        (∀ entries ∈ [layout.littleEntries, layout.bigEntries], entries.length = 3 ∧
          followEntries entries [] = some layout.volume.root.lba ∧
          followEntries entries [asciiBytes "EFI"] = some layout.efi.lba ∧
          followEntries entries [asciiBytes "EFI", asciiBytes "BOOT"] = some layout.boot.lba) ∧
        readExtent iso layout.image efiSystemPartition.length = some efiSystemPartition ∧
        wordSum (slice iso (layout.catalog * blockSize) 32) % 65536 = 0 ∧
        layout.catalogFile.lba = layout.catalog ∧ layout.catalogFile.size = blockSize ∧
        layout.volume.size * blockSize = iso.length ∧
        (layout.extents efiSystemPartition.length).Pairwise DisjointExtents ∧
        ∀ extent ∈ layout.extents efiSystemPartition.length,
          extent.1 + extent.2 ≤ layout.volume.size := by
  have hloader : loaderLba efiSystemPartition =
      25 + (efiSystemPartition.length + 2047) / 2048 := rfl
  have htotal : volumeSectors efiSystemPartition bootx64 =
      loaderLba efiSystemPartition + (bootx64.length + 2047) / 2048 := rfl
  refine ⟨⟨fun ⟨iso, hiso⟩ => buildBootableIso_recordable hiso,
    fun hyear => (buildBootableIso_ok hyear hsize).imp fun _ h => h.1⟩, fun iso hiso => ?_⟩
  obtain ⟨other, hother, h⟩ := buildBootableIso_ok (buildBootableIso_recordable hiso) hsize
  obtain rfl : other = iso := Except.ok.inj (hother.symm.trans hiso)
  have hfirst : loaderLba efiSystemPartition * 2048 + bootx64.length ≤
      volumeSectors efiSystemPartition bootx64 * 2048 := by omega
  have hloaderMem : (loaderLba efiSystemPartition * blockSize, bootx64) ∈
      isoRegions timestamp efiSystemPartition bootx64 := by simp [isoRegions, blockSize]
  have hpartitionMem : (25 * blockSize, efiSystemPartition) ∈
      isoRegions timestamp efiSystemPartition bootx64 := by simp [isoRegions, blockSize]
  have hcatalog : readExtent other 24 32 = some (slice bootCatalogSector 0 32) :=
    readExtent_inside h hfirst (by simp [isoRegions, blockSize])
      (by rw [length_bootCatalogSector]; omega)
  refine ⟨_, readLayout_written h hfirst hsize, readExtent_region h hfirst hloaderMem, ?_,
    readExtent_region h hfirst hpartitionMem, ?_, rfl, rfl, ?_, ?_, ?_⟩
  · intro entries hentries
    have hentries : entries = pathTableEntries.map entryOf := by
      simpa [layoutOf] using hentries
    rw [hentries]
    exact followEntries_pathTableEntries
  · have hslice : slice other (24 * blockSize) 32 = slice bootCatalogSector 0 32 := by
      unfold readExtent at hcatalog
      split at hcatalog
      next => exact Option.some.inj hcatalog
      next => cases hcatalog
    have hvalid := isValidationEntry_bootCatalogSector
    simp only [isValidationEntry, Bool.and_eq_true, decide_eq_true_eq] at hvalid
    show wordSum (slice other (24 * blockSize) 32) % 65536 = 0
    rw [hslice]
    exact hvalid.2
  · rw [h.length_eq hfirst]
    rfl
  · rw [extents_layoutOf]
    simp [DisjointExtents, blocks, blockSize]
    omega
  · rw [extents_layoutOf, show (layoutOf (volumeSectors efiSystemPartition bootx64)
      (loaderLba efiSystemPartition) bootx64.length).volume.size =
        volumeSectors efiSystemPartition bootx64 from rfl]
    simp [blocks, blockSize]
    omega

def newYear : DateTime where
  year := 2024
  month := 1
  day := 1
  hour := 0
  minute := 0
  second := 0
  year_le := by decide
  month_le := by decide
  day_le := by decide
  hour_lt := by decide
  minute_lt := by decide
  second_lt := by decide

/-- Neither the EFI system partition nor the loader, which spans sectors, fills its last one. -/
theorem buildBootableIso_readLayout_newYear :
    let efiSystemPartition : Bytes := List.replicate 3000 0xEB
    let bootx64 : Bytes := List.replicate 5000 0x90
    ∃ iso layout, buildBootableIso newYear efiSystemPartition bootx64 = .ok iso ∧
      readLayout iso = some layout ∧
      readExtent iso layout.loader.lba layout.loader.size = some bootx64 ∧
      readExtent iso layout.image efiSystemPartition.length = some efiSystemPartition ∧
      (layout.extents efiSystemPartition.length).Pairwise DisjointExtents := by
  intro efiSystemPartition bootx64
  obtain ⟨hreturns, hreads⟩ := buildBootableIso_readLayout newYear efiSystemPartition bootx64
    (by simp only [efiSystemPartition, bootx64, List.length_replicate]; decide)
  obtain ⟨iso, hiso⟩ := hreturns.mpr (by decide)
  obtain ⟨layout, hlayout, hloader, -, hpartition, -, -, -, -, hdisjoint, -⟩ := hreads iso hiso
  exact ⟨iso, layout, hiso, hlayout, hloader, hpartition, hdisjoint⟩

end

end IsoReader

end DragonOS.Build
