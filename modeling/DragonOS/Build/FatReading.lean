import DragonOS.Build.FatReader
import DragonOS.Build.FatStructure
import DragonOS.Build.IsoReading
import Mathlib.Data.List.GetD

/-!
# The partition is read back

What a reader makes of the records, the directories and the chains that the builder has
written, and of the paths in them. `Readable` is all that it needs of an image;
`buildEfiSystemPartition_readsBack` says what it then finds.
-/

namespace DragonOS.Build

open Lib FatReader

-- ---------------------------------------------------------------------------
-- Names
-- ---------------------------------------------------------------------------

def ShortPart.field (part : ShortPart limit) : Bytes :=
  fillTo 0x20 limit (part.units.map UInt16.toUInt8)

def directoryField (name : ShortPart 8) : Bytes := name.field ++ List.replicate 3 0x20

def ShortNameParts.field (parts : ShortNameParts) : Bytes := parts.name.field ++ parts.extension.field

theorem nameByte_bounds {unit : UInt16} (h : isNameUnit unit) :
    48 ≤ unit.toUInt8.toNat ∧ unit.toUInt8.toNat ≤ 90 ∧ unit.toUInt8.toNat = unit.toNat := by
  have hbounds := isNameUnit_bounds h
  rw [UInt16.toNat_toUInt8]
  omega

theorem ShortPart.length_bytes (part : ShortPart limit) :
    (part.units.map UInt16.toUInt8).length ≤ limit := by
  rw [List.length_map]
  exact part.length_le

theorem ShortPart.takeWhile_field (part : ShortPart limit) :
    part.field.takeWhile (· ≠ 0x20) = part.units.map UInt16.toUInt8 := by
  have hbytes : ∀ byte ∈ part.units.map UInt16.toUInt8, decide (byte ≠ 0x20) = true := by
    rw [List.forall_mem_map]
    intro unit hunit
    rw [decide_eq_true_eq]
    intro hspace
    have hbounds := nameByte_bounds (part.allowed unit hunit)
    rw [hspace] at hbounds
    exact absurd hbounds.1 (by decide)
  rw [ShortPart.field, fillTo_of_le _ part.length_bytes, List.takeWhile_append_of_pos hbytes,
    List.takeWhile_replicate]
  simp

theorem ShortPart.units_of_field (part : ShortPart limit) :
    (part.field.takeWhile (· ≠ 0x20)).map UInt8.toUInt16 = part.units := by
  rw [part.takeWhile_field, List.map_map]
  refine (List.map_congr_left fun unit hunit => ?_).trans (List.map_id _)
  rw [Function.comp_apply, id, ← UInt16.toNat_inj, UInt8.toNat_toUInt16]
  exact (nameByte_bounds (part.allowed unit hunit)).2.2

theorem ShortPart.field_inj {first second : ShortPart limit} :
    first.field = second.field ↔ first = second := by
  refine ⟨fun h => ShortPart.ext_units ?_, congrArg _⟩
  rw [← first.units_of_field, h, second.units_of_field]

theorem ShortPart.length_field (part : ShortPart limit) : part.field.length = limit :=
  length_fillTo ..

theorem directoryField_inj {first second : ShortPart 8} :
    directoryField first = directoryField second ↔ first = second := by
  rw [directoryField, directoryField, List.append_left_inj, ShortPart.field_inj]

theorem ShortNameParts.field_inj {first second : ShortNameParts} :
    first.field = second.field ↔ first = second := by
  rw [ShortNameParts.field, ShortNameParts.field]
  constructor
  · intro h
    obtain ⟨hname, hextension⟩ := List.append_inj h
      (first.name.length_field.trans second.name.length_field.symm)
    exact ShortNameParts.ext (ShortPart.field_inj.mp hname) (ShortPart.field_inj.mp hextension)
  · rintro rfl
    rfl

section
variable {casing : Casing}

theorem shortNameField_units (part : ShortPart limit) :
    shortNameField casing limit part.units = part.field := by
  have hascii : part.units.map asciiByte = part.units.map UInt16.toUInt8 := by
    refine List.map_congr_left fun unit hunit => if_pos ?_
    have hbounds := isNameUnit_bounds (part.allowed unit hunit)
    exact UInt16.lt_iff_toNat_lt.mpr (show unit.toNat < 128 by omega)
  rw [shortNameField, part.toUpper_units, hascii, asciiPadded, ShortPart.field,
    List.take_of_length_le part.length_bytes, fillTo_of_le _ part.length_bytes, overwrite,
    List.take_zero, List.nil_append, List.drop_replicate, Nat.zero_add]

theorem shortNameField_nil (length : Nat) :
    shortNameField casing length [] = List.replicate length 0x20 := by
  rw [shortNameField, casing.ascii [] (fun _ h => absurd h List.not_mem_nil)]
  simp [asciiPadded]

-- ---------------------------------------------------------------------------
-- Records
-- ---------------------------------------------------------------------------

theorem readEntry_directoryEntry (name extension : Text) (attributes : UInt8)
    (firstCluster : UInt16) (size : UInt32) :
    readEntry (directoryEntry casing name extension attributes firstCluster size) =
      { name := shortNameField casing 8 name ++ shortNameField casing 3 extension
        isDirectory := attributes &&& 0x10 ≠ 0
        firstCluster := firstCluster.toNat
        size := size.toNat } := by
  have hname : (shortNameField casing 8 name).length = 8 := length_asciiPadded ..
  have hextension : (shortNameField casing 3 extension).length = 3 := length_asciiPadded ..
  have hfield : slice (directoryEntry casing name extension attributes firstCluster size) 0 11 =
      shortNameField casing 8 name ++ shortNameField casing 3 extension :=
    slice_parts [] ([attributes] ++ List.replicate 14 0 ++ littleEndian16 firstCluster ++
      littleEndian32 size) (by simp [directoryEntry]) rfl (by simp [hname, hextension])
  have hattributes : (directoryEntry casing name extension attributes firstCluster size).getD 11 0 =
      attributes := by
    simp [directoryEntry, hname, hextension]
  have hcluster : slice (directoryEntry casing name extension attributes firstCluster size) 26 2 =
      littleEndian16 firstCluster :=
    slice_parts (shortNameField casing 8 name ++ shortNameField casing 3 extension ++ [attributes] ++
      List.replicate 14 0) (littleEndian32 size) (by simp [directoryEntry])
      (by simp [hname, hextension]) rfl
  have hsize : slice (directoryEntry casing name extension attributes firstCluster size) 28 4 =
      littleEndian32 size :=
    slice_parts (shortNameField casing 8 name ++ shortNameField casing 3 extension ++ [attributes] ++
      List.replicate 14 0 ++ littleEndian16 firstCluster) [] (by simp [directoryEntry])
      (by simp [hname, hextension]) rfl
  rw [readEntry, hfield, hattributes, hcluster, hsize, IsoReader.littleEndianValue_littleEndian16,
    IsoReader.littleEndianValue_littleEndian32]

def entryOf : FatNode → Entry
  | .directory shortName extent _ =>
    { name := directoryField shortName, isDirectory := true
      firstCluster := extent.startCluster.toNat, size := 0 }
  | .file shortName shortExtension extent data =>
    { name := ShortNameParts.field ⟨shortName, shortExtension⟩, isDirectory := false
      firstCluster := extent.startCluster.toNat, size := data.length }

theorem readEntry_nodeBytes {node : FatNode} (h : node.Storable) :
    readEntry (nodeBytes casing node) = entryOf node := by
  cases node with
  | directory shortName extent children =>
    obtain ⟨hlow, hhigh⟩ := h
    rw [nodeBytes, readEntry_directoryEntry, shortNameField_units, shortNameField_nil,
      UInt16.toNat_ofNat_of_lt' (show extent.startCluster.toNat < 2 ^ 16 by omega)]
    rfl
  | file shortName shortExtension extent data =>
    obtain ⟨⟨hlow, hhigh⟩, hsize⟩ := h
    rw [nodeBytes, readEntry_directoryEntry, shortNameField_units, shortNameField_units,
      UInt16.toNat_ofNat_of_lt' (show extent.startCluster.toNat < 2 ^ 16 by omega),
      UInt32.toNat_ofNat_of_lt' hsize]
    rfl

theorem ShortPart.head_field (part : ShortPart limit) (rest : Bytes) :
    ∃ first, (part.field ++ rest).getD 0 0 = first ∧ 48 ≤ first.toNat ∧ first.toNat ≤ 90 := by
  obtain ⟨unit, units, hunits⟩ := List.exists_cons_of_ne_nil part.ne_nil
  have hbounds := nameByte_bounds (part.allowed unit (hunits ▸ List.mem_cons_self))
  refine ⟨unit.toUInt8, ?_, hbounds.1, hbounds.2.1⟩
  rw [ShortPart.field, fillTo_of_le _ part.length_bytes, hunits]
  rfl

theorem isNamed_nodeBytes (node : FatNode) :
    (nodeBytes casing node).getD 0 0 ≠ 0 ∧ isNamed (nodeBytes casing node) = true := by
  have hfirst : ∃ first, (nodeBytes casing node).getD 0 0 = first ∧
      48 ≤ first.toNat ∧ first.toNat ≤ 90 := by
    cases node with
    | directory shortName =>
      rw [nodeBytes, directoryEntry, shortNameField_units]
      simp only [List.append_assoc]
      exact shortName.head_field _
    | file shortName =>
      rw [nodeBytes, directoryEntry, shortNameField_units]
      simp only [List.append_assoc]
      exact shortName.head_field _
  have hattributes : (nodeBytes casing node).getD 11 0 &&& 0x08 = 0 := by
    cases node <;> simp [nodeBytes, directoryEntry, shortNameField] <;> rfl
  obtain ⟨first, hfirst, hlow, hhigh⟩ := hfirst
  have hne (byte : UInt8) (hbyte : byte.toNat < 48 ∨ 90 < byte.toNat) : first ≠ byte := by
    rintro rfl
    omega
  refine ⟨hfirst ▸ hne 0 (by decide), ?_⟩
  rw [isNamed, hfirst, hattributes]
  simp [hne 0xE5 (by decide), hne 0x2E (by decide)]

theorem readRecords_cleared (count rest : Nat) : readRecords count (List.replicate rest 0) = [] := by
  cases count with
  | zero => rfl
  | succ count => rw [readRecords, getD_replicate_self, if_pos rfl]

theorem readRecords_nodes {nodes : List FatNode} (hstorable : ∀ node ∈ nodes, node.Storable)
    {count : Nat} (hcount : nodes.length ≤ count) (rest : Nat) :
    readRecords count (nodes.flatMap (nodeBytes casing) ++ List.replicate rest 0) =
      nodes.map entryOf := by
  induction nodes generalizing count with
  | nil => exact readRecords_cleared count rest
  | cons node nodes ih =>
    obtain ⟨hnode, hnodes⟩ := List.forall_mem_cons.mp hstorable
    obtain ⟨count, rfl⟩ := Nat.exists_eq_succ_of_ne_zero
      (Nat.ne_of_gt (Nat.lt_of_lt_of_le (Nat.succ_pos _) hcount))
    obtain ⟨hfirst, hnamed⟩ := @isNamed_nodeBytes casing node
    have hlength := length_nodeBytes casing node
    have hhead (more : Bytes) : (nodeBytes casing node ++ more).getD 0 0 ≠ 0 := by
      rwa [List.getD_append _ _ _ _ (by omega)]
    rw [List.flatMap_cons, List.append_assoc, readRecords, if_neg (hhead _),
      List.take_left' hlength, List.drop_left' hlength, if_pos hnamed, readEntry_nodeBytes hnode,
      ih hnodes (Nat.le_of_succ_le_succ hcount), List.map_cons]

theorem readRecords_special (count : Nat) (rest : Bytes) :
    readRecords (count + 1) (specialDirectoryEntry second cluster ++ rest) =
      readRecords count rest := by
  have hlength : (specialDirectoryEntry second cluster).length = 32 := length_specialDirectoryEntry
  rw [readRecords, List.take_left' hlength, List.drop_left' hlength, if_neg, if_neg]
  · simp [isNamed, specialDirectoryEntry]
  · simp [specialDirectoryEntry]

end

-- ---------------------------------------------------------------------------
-- The volume
-- ---------------------------------------------------------------------------

def fatVolume : Volume where
  bytesPerSector := 512
  sectorsPerCluster := 16
  reservedSectors := 1
  fatCount := 2
  rootEntryCount := 224
  sectorsPerFat := 16

section
variable {casing : Casing} {root : List FatNode} {fat : Bytes}

theorem holdsFields_bootSector (h : Roomy root) (hfat : IsTable root fat) :
    IsoReader.HoldsFields (putRegions clearedDisk (diskRegions casing (allocate root).1 fat))
      bootSectorFields :=
  fun _ _ hmem => slice_putRegions (h.inOrder_diskRegions hfat) (List.mem_append_left _ hmem)

theorem readVolume_diskRegions (h : Roomy root) (hfat : IsTable root fat) :
    readVolume (putRegions clearedDisk (diskRegions casing (allocate root).1 fat)) = fatVolume := by
  have hfields := @holdsFields_bootSector casing root fat h hfat
  have hword (offset : Nat) (word : UInt16)
      (hmem : (offset, littleEndian16 word) ∈ bootSectorFields) := hfields.word16_eq hmem
  have hbyte (offset : Nat) (byte : UInt8) (hmem : (offset, [byte]) ∈ bootSectorFields) :=
    hfields.byte_eq hmem
  rw [readVolume, hword 11 512 (by simp [bootSectorFields]), hbyte 13 16 (by simp [bootSectorFields]),
    hword 14 1 (by simp [bootSectorFields]), hbyte 16 2 (by simp [bootSectorFields]),
    hword 17 224 (by simp [bootSectorFields]), hword 22 16 (by simp [bootSectorFields])]
  rfl

theorem rootDirectory_diskRegions (h : Roomy root) (hfat : IsTable root fat) :
    fatVolume.rootDirectory (putRegions clearedDisk (diskRegions casing (allocate root).1 fat)) =
      rootBytes casing (allocate root).1 := by
  have hmem : (16896, rootBytes casing (allocate root).1) ∈
      diskRegions casing (allocate root).1 fat := by simp [diskRegions]
  have hslice := slice_putRegions (h.inOrder_diskRegions hfat) hmem
  rwa [rootBytes, length_fillTo] at hslice

theorem firstFat_diskRegions (h : Roomy root) (hfat : IsTable root fat) :
    fatVolume.firstFat (putRegions clearedDisk (diskRegions casing (allocate root).1 fat)) = fat :=
  @fatCopy_diskRegions casing root fat 0 h hfat (by decide)

theorem cluster_fatVolume (image : Bytes) (number : Nat) :
    fatVolume.cluster image number = slice image (clusterOffset number) 8192 := rfl

theorem flatMap_cluster (image : Bytes) {start : Nat} (hstart : 2 ≤ start) (count : Nat) :
    (List.range' start count).flatMap (fatVolume.cluster image) =
      slice image (clusterOffset start) (count * 8192) := by
  induction count generalizing start with
  | zero => rw [Nat.zero_mul, slice, List.take_zero]; rfl
  | succ count ih =>
    have hnext : clusterOffset (start + 1) = clusterOffset start + 8192 := by
      rw [clusterOffset_add hstart, Nat.one_mul]
    rw [List.range'_succ, List.flatMap_cons, cluster_fatVolume, ih (Nat.le_add_right_of_le hstart),
      hnext, ← slice_add, Nat.succ_mul, Nat.add_comm]

theorem chain_diskRegions (h : Roomy root) (hfat : IsTable root fat) {extent : Extent} {data : Bytes}
    (hmem : (extent, data) ∈ pieces casing (allocate root).1) :
    fatVolume.chain (putRegions clearedDisk (diskRegions casing (allocate root).1 fat))
      extent.startCluster.toNat = some (fillTo 0 (extent.clusterCount.toNat * 8192) data) := by
  have hextent : extent ∈ extents (allocate root).1 := by
    rw [← extents_pieces casing]
    exact List.mem_map_of_mem hmem
  obtain ⟨chain, hchain, rfl, hlow, hhigh⟩ := h.chain hextent
  have hfollow := follow_table h hfat hchain
  have hregion : pieceRegion (extentOf chain, data) ∈ diskRegions casing (allocate root).1 fat := by
    simp only [diskRegions, List.mem_append, List.mem_cons]
    exact .inr (.inr (.inr (.inr (List.mem_map_of_mem hmem))))
  simp only [pieceRegion, extentOf, Int.toNat_natCast] at hregion
  have hslice := slice_putRegions (h.inOrder_diskRegions hfat) hregion
  rw [length_fillTo] at hslice
  simp only [extentOf, Int.toNat_natCast]
  have hfuel : 8192 * 2 / 3 = 5461 := by decide
  simp only [Volume.chain, firstFat_diskRegions h hfat, hfat.length_eq, hfuel]
  rw [hfollow, Option.map_some, Chain.blocks, flatMap_cluster _ hlow, hslice]

end

-- ---------------------------------------------------------------------------
-- Directories
-- ---------------------------------------------------------------------------

section
variable {casing : Casing} {root : List FatNode} {fat : Bytes}

theorem readEntries_rootBytes (hstorable : ∀ node ∈ root, node.Storable) (hroot : root.length ≤ 224) :
    readEntries (rootBytes casing root) = root.map entryOf := by
  have hlength := length_flatMap_nodeBytes casing root
  rw [readEntries, rootBytes, length_fillTo, fillTo_of_le 0 (by omega)]
  exact readRecords_nodes hstorable hroot _

theorem readEntries_directoryContent (h : Roomy root)
    (hmem : directory ∈ collectDirectories none (allocate root).1) :
    readEntries (fillTo 0 (directory.extent.clusterCount.toNat * 8192)
      (directoryContent casing directory)) = directory.children.map entryOf := by
  obtain ⟨hbelow, hfiles⟩ := collected_below hmem
  have hlength := length_directoryContent casing directory
  have hcount := h.clusterCount hmem
  have hroom : 32 * (directory.children.length + 2) ≤ directory.extent.clusterCount.toNat * 8192 := by
    rw [hcount, clustersFor, Int.toNat_natCast]
    omega
  generalize directory.extent.clusterCount.toNat * 8192 = size at *
  obtain ⟨records, hrecords⟩ : ∃ records, size / 32 = records + 2 := ⟨size / 32 - 2, by omega⟩
  rw [readEntries, length_fillTo, hrecords, fillTo_of_le 0 (by omega), directoryContent]
  simp only [List.append_assoc]
  rw [readRecords_special, readRecords_special]
  exact readRecords_nodes (h.storable hbelow hfiles) (by omega) _

end

-- ---------------------------------------------------------------------------
-- The tree
-- ---------------------------------------------------------------------------

/-- An image from which the nodes of a tree with its clusters can be read. -/
structure Readable (image : Bytes) (root : List FatNode) : Prop where
  wellNamed : WellNamed root
  rootDirectory : readEntries ((readVolume image).rootDirectory image) = root.map entryOf
  directories : ∀ directory ∈ collectDirectories none root, ∃ bytes,
    (readVolume image).chain image directory.extent.startCluster.toNat = some bytes ∧
      readEntries bytes = directory.children.map entryOf
  files : ∀ file ∈ collectFiles root,
    (readVolume image).chain image file.extent.startCluster.toNat =
      some (fillTo 0 (file.extent.clusterCount.toNat * 8192) file.data)

structure Within (root nodes : List FatNode) : Prop where
  wellNamed : WellNamed nodes
  directories : ∃ parent, ∀ directory ∈ collectDirectories parent nodes,
    directory ∈ collectDirectories none root
  files : ∀ file ∈ collectFiles nodes, file ∈ collectFiles root

section
variable {root nodes : List FatNode} {image bytes : Bytes} {casing : Casing} {fat : Bytes}

theorem readable_diskRegions (h : Roomy root) (hfat : IsTable root fat) (hnamed : WellNamed root)
    (hroot : root.length ≤ 224) :
    Readable (putRegions clearedDisk (diskRegions casing (allocate root).1 fat))
      (allocate root).1 := by
  have hcount : (allocate root).1.length ≤ 224 := by
    rwa [← forget_length, forget_allocate, forget_length]
  refine ⟨wellNamed_allocate.mpr hnamed, ?_, fun directory hmem => ?_, fun file hmem => ?_⟩
  · rw [readVolume_diskRegions h hfat, rootDirectory_diskRegions h hfat]
    exact readEntries_rootBytes (root_storable h) hcount
  · have hpiece : (directory.extent, directoryContent casing directory) ∈
        pieces casing (allocate root).1 :=
      List.mem_append_left _ (List.mem_map_of_mem hmem)
    rw [readVolume_diskRegions h hfat]
    exact ⟨_, chain_diskRegions h hfat hpiece, readEntries_directoryContent h hmem⟩
  · have hpiece : (file.extent, file.data) ∈ pieces casing (allocate root).1 :=
      List.mem_append_right _ (List.mem_map_of_mem hmem)
    rw [readVolume_diskRegions h hfat]
    exact chain_diskRegions h hfat hpiece

/-- Files whose lengths can be rounded up are not longer than their clusters. -/
theorem length_le_clusters (hsmall : ∀ data ∈ fileContents root, data.length + 8191 < 2 ^ 31) :
    ∀ file ∈ collectFiles (allocate root).1,
      file.data.length ≤ file.extent.clusterCount.toNat * 8192 := by
  intro file hmem
  have hdata : file.data ∈ fileContents root := by
    rw [← fileContents_allocate]
    exact List.mem_map_of_mem hmem
  rw [clusterCount_file hmem, fileClusterCount_eq (hsmall _ hdata), Int.toNat_natCast,
    Int.toNat_natCast, clustersFor]
  omega

theorem Readable.within (h : Readable image root) : Within root root :=
  ⟨h.wellNamed, ⟨none, fun _ hmem => hmem⟩, fun _ hmem => hmem⟩

theorem Within.below (h : Within root nodes) (hmem : .directory shortName extent children ∈ nodes) :
    Within root children ∧ ∃ parent, ⟨parent, extent, children⟩ ∈ collectDirectories none root := by
  obtain ⟨parent, hdirectories⟩ := h.directories
  have hcollected : ⟨parent, extent, children⟩ ∈ collectDirectories parent nodes :=
    directory_collected hmem
  obtain ⟨hbelow, hfiles⟩ := collected_below hcollected
  refine ⟨⟨(wellNamed_iff.mp h.wellNamed).2 _ hmem, ⟨some extent, fun directory hdirectory => ?_⟩,
    fun file hfile => ?_⟩, parent, hdirectories _ hcollected⟩
  · exact hdirectories _ (hbelow directory hdirectory)
  · exact h.files _ (hfiles file hfile)

theorem Within.of_directoryAt (h : Within root nodes) {names : List (ShortPart 8)}
    (hat : directoryAt names nodes = some children) : Within root children := by
  induction names generalizing nodes with
  | nil =>
    obtain rfl := Option.some.inj hat
    exact h
  | cons name names ih =>
    obtain ⟨hnone, -⟩ | ⟨extent, below, hsome, hfilter⟩ := filter_directory h.wellNamed name
    · rw [directoryAt, hnone] at hat
      exact absurd hat (Option.some_ne_none _).symm
    · rw [directoryAt, hsome] at hat
      have hmem : .directory name extent below ∈ nodes :=
        List.mem_of_mem_filter (hfilter ▸ List.mem_singleton_self _)
      exact ih (h.below hmem).1 hat

theorem filter_directoryEntries (nodes : List FatNode) (name : ShortPart 8) :
    ((nodes.map entryOf).filter fun entry => entry.isDirectory && entry.name = directoryField name) =
      (nodes.filter (·.key = (name, none))).map entryOf := by
  rw [List.filter_map]
  refine congrArg _ (List.filter_congr fun node _ => ?_)
  cases node <;> simp [entryOf, FatNode.key, directoryField_inj]

theorem filter_fileEntries (nodes : List FatNode) (parts : ShortNameParts) :
    ((nodes.map entryOf).filter fun entry => !entry.isDirectory && entry.name = parts.field) =
      (nodes.filter (·.key = (parts.name, some parts.extension))).map entryOf := by
  rw [List.filter_map]
  refine congrArg _ (List.filter_congr fun node _ => ?_)
  cases node <;> simp [entryOf, FatNode.key, ShortNameParts.field_inj, ShortNameParts.ext_iff]

theorem Readable.directoriesBelow_eq (h : Readable image root) (hwithin : Within root nodes)
    (hentries : readEntries bytes = nodes.map entryOf) (names : List (ShortPart 8)) :
    (directoriesBelow image (names.map directoryField) bytes).map readEntries =
      ((directoryAt names nodes).map (List.map entryOf)).toList := by
  induction names generalizing nodes bytes with
  | nil => exact congrArg ([·]) hentries
  | cons name names ih =>
    rw [List.map_cons, directoriesBelow, hentries, filter_directoryEntries, directoryAt]
    obtain ⟨hnone, hfilter⟩ | ⟨extent, children, hsome, hfilter⟩ :=
      filter_directory hwithin.wellNamed name
    · rw [hnone, hfilter]
      rfl
    · have hmem : .directory name extent children ∈ nodes :=
        List.mem_of_mem_filter (hfilter ▸ List.mem_singleton_self _)
      obtain ⟨hbelow, parent, hcollected⟩ := hwithin.below hmem
      obtain ⟨content, hchain, hcontent⟩ := h.directories _ hcollected
      rw [hsome, hfilter, List.map_singleton, List.flatMap_singleton, Option.bind_some]
      rw [show (entryOf (.directory name extent children)).firstCluster =
        extent.startCluster.toNat from rfl, hchain, Option.toList_some, List.flatMap_singleton]
      exact ih hbelow hcontent

theorem Readable.names_of_mem (h : Readable image root) (hwithin : Within root nodes)
    (hentries : readEntries bytes = nodes.map entryOf) {names : List Bytes}
    (hmem : directory ∈ directoriesBelow image names bytes) :
    ∃ shortNames : List (ShortPart 8), names = shortNames.map directoryField := by
  induction names generalizing nodes bytes with
  | nil => exact ⟨[], rfl⟩
  | cons name names ih =>
    rw [directoriesBelow, hentries] at hmem
    simp only [List.mem_flatMap, List.mem_filter, List.mem_map, Option.mem_toList] at hmem
    obtain ⟨_, ⟨⟨node, hnode, rfl⟩, hnamed⟩, content, hchain, hmem⟩ := hmem
    cases node with
    | file => exact absurd hnamed (by simp [entryOf])
    | directory shortName extent children =>
      obtain ⟨hbelow, parent, hcollected⟩ := hwithin.below hnode
      obtain ⟨content', hchain', hcontent⟩ := h.directories _ hcollected
      obtain rfl := Option.some.inj (hchain'.symm.trans hchain)
      obtain ⟨shortNames, rfl⟩ := ih hbelow hcontent hmem
      refine ⟨shortName :: shortNames, ?_⟩
      rw [List.map_cons, List.cons.injEq]
      exact ⟨by simpa [entryOf, eq_comm] using hnamed, rfl⟩

theorem Readable.entriesAt_eq (h : Readable image root) (names : List (ShortPart 8)) :
    entriesAt image (names.map directoryField) = ((directoryAt names root).getD []).map entryOf := by
  have hfound := h.directoriesBelow_eq h.within h.rootDirectory names
  rw [entriesAt, List.flatMap_def, hfound]
  cases directoryAt names root <;> simp

theorem Readable.names_of_entry (h : Readable image root) {names : List Bytes}
    (hmem : entry ∈ entriesAt image names) :
    ∃ shortNames : List (ShortPart 8), names = shortNames.map directoryField := by
  obtain ⟨directory, hdirectory, -⟩ := List.mem_flatMap.mp hmem
  exact h.names_of_mem h.within h.rootDirectory hdirectory

end

-- ---------------------------------------------------------------------------
-- What was put in is read back
-- ---------------------------------------------------------------------------

/-- Reading an image gives these files, the last one of each path, and no others. -/
structure ReadsBack (files : List (FatPath × Bytes)) (image : Bytes) : Prop where
  directories : ∀ names name, (∃ file ∈ files, names ++ [name] <+: file.1.directories) →
    ∃ entry, subdirectoriesAt image (names.map directoryField) (directoryField name) = [entry] ∧
      ((readVolume image).chain image entry.firstCluster).isSome
  resolved : ∀ path data, lastWritten files path = some data →
    ∃ entry, filesAt image (path.directories.map directoryField) path.file.field = [entry] ∧
      entry.size = data.length ∧ readFile image entry = some data
  reachable : ∀ names, ∀ entry ∈ entriesAt image names, entry.isDirectory = false →
    ∃ path data, lastWritten files path = some data ∧
      names = path.directories.map directoryField ∧ entry.name = path.file.field

section
variable {casing : Casing} {root nodes : List FatNode} {image : Bytes}

theorem directoryAt_concat {names : List (ShortPart 8)} {name : ShortPart 8} :
    directoryAt (names ++ [name]) nodes = (directoryAt names nodes).bind (childDirectory name) := by
  induction names generalizing nodes with
  | nil => simp [directoryAt]
  | cons first names ih =>
    rw [List.cons_append, directoryAt, directoryAt, Option.bind_assoc]
    exact Option.bind_congr fun children _ => ih

theorem Readable.subdirectoriesAt_eq (h : Readable image root) {names : List (ShortPart 8)}
    {name : ShortPart 8} (hat : (directoryAt (names ++ [name]) root).isSome) :
    ∃ entry, subdirectoriesAt image (names.map directoryField) (directoryField name) = [entry] ∧
      ((readVolume image).chain image entry.firstCluster).isSome := by
  rw [directoryAt_concat] at hat
  rw [subdirectoriesAt, h.entriesAt_eq]
  cases hnodes : directoryAt names root with
  | none => simp [hnodes] at hat
  | some nodes =>
    have hwithin := h.within.of_directoryAt hnodes
    rw [hnodes, Option.bind_some] at hat
    rw [Option.getD_some, filter_directoryEntries]
    obtain ⟨hnone, -⟩ | ⟨extent, children, -, hfilter⟩ := filter_directory hwithin.wellNamed name
    · simp [hnone] at hat
    · have hmem : .directory name extent children ∈ nodes :=
        List.mem_of_mem_filter (hfilter ▸ List.mem_singleton_self _)
      obtain ⟨-, parent, hcollected⟩ := hwithin.below hmem
      obtain ⟨content, hchain, -⟩ := h.directories _ hcollected
      exact ⟨_, congrArg (List.map entryOf) hfilter, Option.isSome_of_eq_some hchain⟩

theorem Readable.filesAt_eq (h : Readable image root) {path : FatPath} {data : Bytes}
    (hfits : ∀ file ∈ collectFiles root,
      file.data.length ≤ file.extent.clusterCount.toNat * 8192)
    (hat : fileAt path root = some data) :
    ∃ entry, filesAt image (path.directories.map directoryField) path.file.field = [entry] ∧
      entry.size = data.length ∧ readFile image entry = some data := by
  obtain ⟨nodes, hnodes, hfile⟩ := Option.bind_eq_some_iff.mp hat
  have hwithin := h.within.of_directoryAt hnodes
  rw [filesAt, h.entriesAt_eq, hnodes, Option.getD_some, filter_fileEntries]
  obtain ⟨hnone, -⟩ | ⟨extent, stored, hsome, hfilter⟩ := filter_file hwithin.wellNamed path.file
  · exact absurd (hnone.symm.trans hfile) (Option.some_ne_none _).symm
  · obtain rfl := Option.some.inj (hsome.symm.trans hfile)
    have hmem : .file path.file.name path.file.extension extent stored ∈ nodes :=
      List.mem_of_mem_filter (hfilter ▸ List.mem_singleton_self _)
    have hcollected := hwithin.files _ (file_collected hmem)
    refine ⟨_, congrArg (List.map entryOf) hfilter, rfl, ?_⟩
    exact (congrArg (Option.map (·.take stored.length)) (h.files _ hcollected)).trans
      (congrArg some (take_fillTo 0 (hfits _ hcollected)))

/-- A file that a reader comes to is in the tree, at the path that led there. -/
theorem Readable.file_of_entry (h : Readable image root) {names : List Bytes}
    (hmem : entry ∈ entriesAt image names) (hfile : entry.isDirectory = false) :
    ∃ (path : FatPath) (file : FatFile), fileAt path root = some file.data ∧
      file ∈ collectFiles root ∧ names = path.directories.map directoryField ∧
        entry = entryOf (.file path.file.name path.file.extension file.extent file.data) := by
  obtain ⟨shortNames, rfl⟩ := h.names_of_entry hmem
  rw [h.entriesAt_eq] at hmem
  obtain ⟨node, hnode, rfl⟩ := List.mem_map.mp hmem
  cases hnodes : directoryAt shortNames root with
  | none => simp [hnodes] at hnode
  | some nodes =>
    rw [hnodes, Option.getD_some] at hnode
    cases node with
    | directory => exact absurd hfile (by simp [entryOf])
    | file shortName shortExtension extent data =>
      have hwithin := h.within.of_directoryAt hnodes
      refine ⟨⟨shortNames, ⟨shortName, shortExtension⟩⟩, ⟨extent, data⟩, ?_,
        hwithin.files _ (file_collected hnode), rfl, rfl⟩
      obtain ⟨-, hnone⟩ | ⟨extent', stored, hsome, hfilter⟩ :=
        filter_file hwithin.wellNamed ⟨shortName, shortExtension⟩
      · exact absurd (List.filter_eq_nil_iff.mp hnone _ hnode) (by simp [FatNode.key])
      · have hsame : FatNode.file shortName shortExtension extent data ∈
            [FatNode.file shortName shortExtension extent' stored] :=
          hfilter ▸ List.mem_filter.mpr ⟨hnode, by simp [FatNode.key]⟩
        simp only [List.mem_singleton, FatNode.file.injEq, true_and] at hsame
        rw [hsame.2]
        exact Option.bind_eq_some_iff.mpr ⟨nodes, hnodes, hsome⟩

theorem buildEfiSystemPartition_readable {bootx64 : Bytes} {runtimeFiles : List RuntimePackageFile}
    (harrays : ∀ data ∈ fileContents (buildTree casing bootx64 runtimeFiles), data.length < 2 ^ 31)
    (himage : buildEfiSystemPartition casing bootx64 runtimeFiles = .ok image) :
    Roomy (buildTree casing bootx64 runtimeFiles) ∧
      Readable image (allocate (buildTree casing bootx64 runtimeFiles)).1 := by
  have hroot := (buildEfiSystemPartition_room himage).2
  obtain ⟨hroomy, fat, hfat, rfl⟩ := buildEfiSystemPartition_image harrays himage
  exact ⟨hroomy, readable_diskRegions hroomy hfat wellNamed_buildTree hroot⟩

end

/-- From the image that the builder returns every file is read back, and nothing else. -/
theorem buildEfiSystemPartition_readsBack (casing : Casing) (bootx64 : Bytes)
    (runtimeFiles : List RuntimePackageFile) (image : Bytes)
    (hsmall : SmallFiles bootx64 runtimeFiles)
    (himage : buildEfiSystemPartition casing bootx64 runtimeFiles = .ok image) :
    ReadsBack (packageFiles casing bootx64 runtimeFiles) image := by
  obtain ⟨-, hreadable⟩ := buildEfiSystemPartition_readable (hsmall.arrays casing) himage
  refine ⟨fun names name hfiles => ?_, fun path data hwritten => ?_, fun names entry hmem hfile => ?_⟩
  · refine hreadable.subdirectoriesAt_eq ?_
    rw [isSome_directoryAt_allocate, directoryAt_buildTree]
    exact .inr hfiles
  · refine hreadable.filesAt_eq (length_le_clusters (hsmall.contents casing)) ?_
    rw [fileAt_allocate, fileAt_buildTree, hwritten]
  · obtain ⟨path, file, hat, -, hnames, rfl⟩ := hreadable.file_of_entry hmem hfile
    rw [fileAt_allocate, fileAt_buildTree] at hat
    exact ⟨path, file.data, hat, hnames, rfl⟩

theorem buildEfiSystemPartition_readsBack_note :
    ∃ image, buildEfiSystemPartition asciiCasing [0xEB] [noteFile] = .ok image ∧
      ReadsBack (packageFiles asciiCasing [0xEB] [noteFile]) image := by
  obtain ⟨image, himage⟩ := buildEfiSystemPartition_note
  exact ⟨image, himage, buildEfiSystemPartition_readsBack asciiCasing [0xEB] [noteFile] image
    smallFiles_note himage⟩

end DragonOS.Build
