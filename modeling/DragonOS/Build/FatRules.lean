import DragonOS.Build.FatKeeping

/-!
# The records of the directories

What a reader finds in the directories of an image that the builder has returned: `.` and `..`
with the clusters that they stand for, names that differ, and for an empty file a cluster that
has been cleared (`buildEfiSystemPartition_directories`).
-/

namespace DragonOS.Build

open Lib FatReader
open IsoReader (littleEndianValue)

-- ---------------------------------------------------------------------------
-- The rules
-- ---------------------------------------------------------------------------

namespace FatReader

def usedRecords : (count : Nat) → Bytes → List Bytes
  | 0, _ => []
  | count + 1, bytes =>
    if bytes.getD 0 0 = 0 then [] else bytes.take 32 :: usedRecords count (bytes.drop 32)

def recordsOf (directory : Bytes) : List Bytes := usedRecords (directory.length / 32) directory

/-- A directory that is reached from the root, with its first cluster; the root has none. -/
inductive Directory (image : Bytes) : (cluster : Nat) → (bytes : Bytes) → Prop
  | root : Directory image 0 ((readVolume image).rootDirectory image)
  | child {cluster bytes entry content} : Directory image cluster bytes →
      entry ∈ readEntries bytes → entry.isDirectory = true →
      (readVolume image).chain image entry.firstCluster = some content →
      Directory image entry.firstCluster content

def isNameByte (byte : UInt8) : Bool :=
  (65 ≤ byte && byte ≤ 90) || (48 ≤ byte && byte ≤ 57)

def LegalField (field : Bytes) : Prop := ∀ byte ∈ field.dropWhile isNameByte, byte = 0x20

/-- The record `.` or `..`, with the start of its name. -/
structure IsSpecial (start : Bytes) (number : Nat) (record : Bytes) : Prop where
  name : slice record 0 start.length = start
  attributes : record.getD 11 0 = 0x10
  firstCluster : littleEndianValue (slice record 26 2) = number

structure RecordsFollow (emptyFile : Entry → Prop) (records : List Bytes) : Prop where
  legal : ∀ record ∈ records, LegalField (slice record 0 8) ∧ LegalField (slice record 8 3)
  unique : (records.map (slice · 0 11)).Nodup
  empty : ∀ record ∈ records, (readEntry record).isDirectory = false →
    (readEntry record).size = 0 → emptyFile (readEntry record)

structure DirectoriesFollow (dot dotDot : Bytes) (emptyFile : Entry → Prop) (image : Bytes) :
    Prop where
  root : RecordsFollow emptyFile (recordsOf ((readVolume image).rootDirectory image))
  below : ∀ cluster bytes, Directory image cluster bytes → ∀ entry ∈ readEntries bytes,
    entry.isDirectory = true → ∃ content,
      (readVolume image).chain image entry.firstCluster = some content ∧
      IsSpecial dot entry.firstCluster (slice content 0 32) ∧
      IsSpecial dotDot cluster (slice content 32 32) ∧
      RecordsFollow emptyFile ((recordsOf content).drop 2)

/-- The names `.` and `..` are padded with spaces, and an empty file has no cluster. -/
def FollowsRules (image : Bytes) : Prop :=
  DirectoriesFollow (asciiBytes ".          ") (asciiBytes "..         ")
    (fun entry => entry.firstCluster = 0) image

/-- Of the names `.` and `..` only the start is given, and an empty file has one cleared
cluster. -/
def KeepsForm (image : Bytes) : Prop :=
  DirectoriesFollow (asciiBytes ". ") (asciiBytes "..")
    (fun entry => (readVolume image).chain image entry.firstCluster =
      some (List.replicate 8192 0)) image

theorem usedRecords_flatten {records : List Bytes}
    (hrecords : ∀ record ∈ records, record.length = 32 ∧ record.getD 0 0 ≠ 0) {count : Nat}
    (hcount : records.length ≤ count) (rest : Nat) :
    usedRecords count (records.flatten ++ List.replicate rest 0) = records := by
  induction records generalizing count with
  | nil =>
    cases count with
    | zero => rfl
    | succ count => exact if_pos (getD_replicate_self _ _ _)
  | cons record records ih =>
    obtain ⟨⟨hlength, hfirst⟩, hothers⟩ := List.forall_mem_cons.mp hrecords
    obtain ⟨count, rfl⟩ := Nat.exists_eq_succ_of_ne_zero
      (Nat.ne_of_gt (Nat.lt_of_lt_of_le (Nat.succ_pos _) hcount))
    rw [List.flatten_cons, List.append_assoc, usedRecords, if_neg, List.take_left' hlength,
      List.drop_left' hlength, ih hothers (Nat.le_of_succ_le_succ hcount)]
    rwa [List.getD_append _ _ _ _ (by omega)]

end FatReader

-- ---------------------------------------------------------------------------
-- The records of nodes
-- ---------------------------------------------------------------------------

section
variable {casing : Casing} {nodes : List FatNode} {emptyFile : Entry → Prop}

theorem isNameByte_toUInt8 {unit : UInt16} (h : isNameUnit unit) :
    isNameByte unit.toUInt8 = true := by
  obtain ⟨-, -, hsame⟩ := nameByte_bounds h
  simp only [isNameUnit, Bool.or_eq_true, Bool.and_eq_true, decide_eq_true_eq,
    UInt16.le_iff_toNat_le, UInt16.reduceToNat] at h
  simp only [isNameByte, Bool.or_eq_true, Bool.and_eq_true, decide_eq_true_eq,
    UInt8.le_iff_toNat_le, UInt8.reduceToNat, hsame]
  exact h

theorem ShortPart.legalField (part : ShortPart limit) : LegalField part.field := by
  intro byte hbyte
  have hkept : ∀ byte ∈ part.units.map UInt16.toUInt8, isNameByte byte = true := by
    rw [List.forall_mem_map]
    exact fun unit hunit => isNameByte_toUInt8 (part.allowed unit hunit)
  rw [ShortPart.field, fillTo_of_le _ part.length_bytes, List.dropWhile_append_of_pos hkept]
    at hbyte
  exact (List.mem_replicate.mp ((List.dropWhile_suffix _).subset hbyte)).2

theorem legalField_blank (length : Nat) : LegalField (List.replicate length 0x20) :=
  fun _ hbyte => (List.mem_replicate.mp ((List.dropWhile_suffix _).subset hbyte)).2

/-- The field of the extension: that of a directory is blank. -/
def extensionField : Option (ShortPart 3) → Bytes
  | none => List.replicate 3 0x20
  | some extension => extension.field

theorem extensionField_inj {first second : Option (ShortPart 3)}
    (h : extensionField first = extensionField second) : first = second := by
  have hblank (extension : ShortPart 3) : extension.field ≠ List.replicate 3 0x20 := by
    intro heq
    have hunits := extension.takeWhile_field
    rw [heq] at hunits
    exact extension.ne_nil (List.map_eq_nil_iff.mp hunits.symm)
  cases first with
  | none =>
    cases second with
    | none => rfl
    | some extension => exact absurd h.symm (hblank extension)
  | some first =>
    cases second with
    | none => exact absurd h (hblank first)
    | some second => exact congrArg some (ShortPart.field_inj.mp h)

def keyField (key : ShortPart 8 × Option (ShortPart 3)) : Bytes :=
  key.1.field ++ extensionField key.2

theorem keyField_injective : Function.Injective keyField := by
  rintro ⟨name, extension⟩ ⟨name', extension'⟩ h
  obtain ⟨hname, hextension⟩ := List.append_inj h
    (name.length_field.trans name'.length_field.symm)
  exact Prod.ext (ShortPart.field_inj.mp hname) (extensionField_inj hextension)

theorem name_entryOf (node : FatNode) : (entryOf node).name = keyField node.key := by
  cases node <;> rfl

theorem name_nodeBytes (node : FatNode) :
    slice (nodeBytes casing node) 0 8 = node.key.1.field ∧
      slice (nodeBytes casing node) 8 3 = extensionField node.key.2 := by
  have hslices (name extension : Text) (attributes : UInt8) (firstCluster : UInt16) (size : UInt32) :
      slice (directoryEntry casing name extension attributes firstCluster size) 0 8 =
          shortNameField casing 8 name ∧
        slice (directoryEntry casing name extension attributes firstCluster size) 8 3 =
          shortNameField casing 3 extension := by
    have hname : (shortNameField casing 8 name).length = 8 := length_asciiPadded ..
    have hextension : (shortNameField casing 3 extension).length = 3 := length_asciiPadded ..
    constructor
    · exact slice_parts [] (shortNameField casing 3 extension ++ [attributes] ++
        List.replicate 14 0 ++ littleEndian16 firstCluster ++ littleEndian32 size)
        (by simp [directoryEntry]) rfl hname
    · exact slice_parts (shortNameField casing 8 name) ([attributes] ++ List.replicate 14 0 ++
        littleEndian16 firstCluster ++ littleEndian32 size) (by simp [directoryEntry]) hname hextension
  cases node with
  | directory shortName extent children =>
    have h := hslices shortName.units [] 0x10 (UInt16.ofNat extent.startCluster.toNat) 0
    rwa [shortNameField_units, shortNameField_nil] at h
  | file shortName shortExtension extent data =>
    have h := hslices shortName.units shortExtension.units 0x20
      (UInt16.ofNat extent.startCluster.toNat) (UInt32.ofNat data.length)
    rwa [shortNameField_units, shortNameField_units] at h

theorem recordsFollow_nodes (hnamed : WellNamed nodes) (hstorable : ∀ node ∈ nodes, node.Storable)
    (hempty : ∀ shortName shortExtension extent,
      .file shortName shortExtension extent [] ∈ nodes →
        emptyFile (entryOf (.file shortName shortExtension extent []))) :
    RecordsFollow emptyFile (nodes.map (nodeBytes casing)) where
  legal := by
    rw [List.forall_mem_map]
    intro node _
    obtain ⟨hname, hextension⟩ := @name_nodeBytes casing node
    rw [hname, hextension]
    refine ⟨node.key.1.legalField, ?_⟩
    cases node.key.2 with
    | none => exact legalField_blank 3
    | some extension => exact extension.legalField
  unique := by
    have hfields : (nodes.map (nodeBytes casing)).map (slice · 0 11) =
        (nodes.map FatNode.key).map keyField := by
      rw [List.map_map, List.map_map]
      refine List.map_congr_left fun node hnode => ?_
      exact (congrArg Entry.name (readEntry_nodeBytes (hstorable node hnode))).trans
        (name_entryOf node)
    rw [hfields]
    exact (wellNamed_iff.mp hnamed).1.map keyField_injective
  empty := by
    rw [List.forall_mem_map]
    intro node hnode
    rw [readEntry_nodeBytes (hstorable node hnode)]
    cases node with
    | directory => exact fun hdirectory => absurd hdirectory (by simp [entryOf])
    | file shortName shortExtension extent data =>
      intro _ hsize
      obtain rfl : data = [] := List.length_eq_zero_iff.mp hsize
      exact hempty shortName shortExtension extent hnode

theorem length_nodes_records (nodes : List FatNode) :
    ∀ record ∈ nodes.map (nodeBytes casing), record.length = 32 ∧ record.getD 0 0 ≠ 0 := by
  rw [List.forall_mem_map]
  exact fun node _ => ⟨length_nodeBytes casing node, (isNamed_nodeBytes node).1⟩

theorem recordsOf_rootBytes (hroot : nodes.length ≤ 224) :
    recordsOf (rootBytes casing nodes) = nodes.map (nodeBytes casing) := by
  have hlength := length_flatMap_nodeBytes casing nodes
  rw [recordsOf, rootBytes, length_fillTo, fillTo_of_le 0 (by omega), List.flatMap_def]
  exact usedRecords_flatten (length_nodes_records nodes) (by rw [List.length_map]; exact hroot) _

theorem recordsOf_directoryContent (directory : FatDirectory) {length : Nat}
    (hroom : 32 * (directory.children.length + 2) ≤ length) :
    recordsOf (fillTo 0 length (directoryContent casing directory)) =
      specialDirectoryEntry 0x20 (UInt16.ofNat directory.extent.startCluster.toNat) ::
        specialDirectoryEntry 0x2E (parentNumber directory.parent) ::
          directory.children.map (nodeBytes casing) := by
  have hlength := length_directoryContent casing directory
  have hflatten : directoryContent casing directory =
      (specialDirectoryEntry 0x20 (UInt16.ofNat directory.extent.startCluster.toNat) ::
        specialDirectoryEntry 0x2E (parentNumber directory.parent) ::
          directory.children.map (nodeBytes casing)).flatten := by
    rw [directoryContent, List.flatMap_def, List.flatten_cons, List.flatten_cons, List.append_assoc]
  rw [recordsOf, length_fillTo, fillTo_of_le 0 (by omega), hflatten]
  refine usedRecords_flatten ?_ ?_ _
  · refine List.forall_mem_cons.mpr ⟨?_, List.forall_mem_cons.mpr ⟨?_, length_nodes_records _⟩⟩
    · exact ⟨length_specialDirectoryEntry, by simp [specialDirectoryEntry]⟩
    · exact ⟨length_specialDirectoryEntry, by simp [specialDirectoryEntry]⟩
  · rw [List.length_cons, List.length_cons, List.length_map]
    omega

theorem slice_directoryContent (directory : FatDirectory) {length : Nat}
    (hroom : 32 * (directory.children.length + 2) ≤ length) :
    slice (fillTo 0 length (directoryContent casing directory)) 0 32 =
        specialDirectoryEntry 0x20 (UInt16.ofNat directory.extent.startCluster.toNat) ∧
      slice (fillTo 0 length (directoryContent casing directory)) 32 32 =
        specialDirectoryEntry 0x2E (parentNumber directory.parent) := by
  have hlength := length_directoryContent casing directory
  have hself : (specialDirectoryEntry 0x20
      (UInt16.ofNat directory.extent.startCluster.toNat)).length = 32 := length_specialDirectoryEntry
  have habove : (specialDirectoryEntry 0x2E (parentNumber directory.parent)).length = 32 :=
    length_specialDirectoryEntry
  rw [fillTo_of_le 0 (by omega), directoryContent]
  generalize List.replicate _ (0 : UInt8) = cleared
  constructor
  · exact slice_parts [] (specialDirectoryEntry 0x2E (parentNumber directory.parent) ++
      directory.children.flatMap (nodeBytes casing) ++ cleared) (by simp) rfl hself
  · exact slice_parts (specialDirectoryEntry 0x20 _)
      (directory.children.flatMap (nodeBytes casing) ++ cleared) (by simp) hself habove

theorem isSpecial_specialDirectoryEntry (second : UInt8) (cluster : UInt16) :
    IsSpecial [0x2E, second] cluster.toNat (specialDirectoryEntry second cluster) where
  name := rfl
  attributes := rfl
  firstCluster := by
    have hslice : slice (specialDirectoryEntry second cluster) 26 2 = littleEndian16 cluster := rfl
    rw [hslice, IsoReader.littleEndianValue_littleEndian16]

theorem not_isSpecial_padded (cluster : UInt16) :
    ¬ IsSpecial (asciiBytes ".          ") number (specialDirectoryEntry 0x20 cluster) := by
  intro h
  have hpadded : asciiBytes ".          " = 0x2E :: List.replicate 10 0x20 := by decide
  have hname := h.name
  rw [hpadded] at hname
  have hthird : (0 : UInt8) = 0x20 := congrArg (fun name => List.getD name 2 0) hname
  exact absurd hthird (by decide)

end

-- ---------------------------------------------------------------------------
-- The directories of an image
-- ---------------------------------------------------------------------------

def directorySpan (casing : Casing) (directory : FatDirectory) : Bytes :=
  fillTo 0 (directory.extent.clusterCount.toNat * 8192) (directoryContent casing directory)

def IsStored (casing : Casing) (root : List FatNode) (cluster : Nat) (bytes : Bytes) : Prop :=
  cluster = 0 ∧ bytes = rootBytes casing root ∨
    ∃ directory ∈ collectDirectories none root,
      cluster = directory.extent.startCluster.toNat ∧ bytes = directorySpan casing directory

section
variable {casing : Casing} {root : List FatNode} {fat bytes : Bytes}

theorem toNat_startCluster (h : Roomy root) (hmem : extent ∈ extents (allocate root).1) :
    (UInt16.ofNat extent.startCluster.toNat).toNat = extent.startCluster.toNat := by
  obtain ⟨hlow, hhigh⟩ := h.number hmem
  exact UInt16.toNat_ofNat_of_lt' (show extent.startCluster.toNat < 2 ^ 16 by omega)

theorem IsStored.child (h : Roomy root) (hroot : (allocate root).1.length ≤ 224)
    (hstored : IsStored casing (allocate root).1 cluster bytes)
    (hentry : entry ∈ readEntries bytes) (hdirectory : entry.isDirectory = true) :
    ∃ directory ∈ collectDirectories none (allocate root).1,
      entry.firstCluster = directory.extent.startCluster.toNat ∧
      (parentNumber directory.parent).toNat = cluster := by
  obtain ⟨rfl, rfl⟩ | ⟨directory, hmem, rfl, rfl⟩ := hstored
  · rw [readEntries_rootBytes (root_storable h) hroot] at hentry
    obtain ⟨node, hnode, rfl⟩ := List.mem_map.mp hentry
    cases node with
    | file => exact absurd hdirectory (by simp [entryOf])
    | directory shortName extent children =>
      exact ⟨_, directory_collected hnode, rfl, rfl⟩
  · rw [directorySpan, readEntries_directoryContent h hmem] at hentry
    obtain ⟨node, hnode, rfl⟩ := List.mem_map.mp hentry
    cases node with
    | file => exact absurd hdirectory (by simp [entryOf])
    | directory shortName extent children =>
      exact ⟨_, (collected_below hmem).1 _ (directory_collected hnode), rfl,
        toNat_startCluster h (directory_extent_mem hmem)⟩

theorem chain_directory (h : Roomy root) (hfat : IsTable root fat)
    (hmem : directory ∈ collectDirectories none (allocate root).1) :
    (readVolume (putRegions clearedDisk (diskRegions casing (allocate root).1 fat))).chain
      (putRegions clearedDisk (diskRegions casing (allocate root).1 fat))
      directory.extent.startCluster.toNat = some (directorySpan casing directory) := by
  rw [readVolume_diskRegions h hfat]
  exact chain_diskRegions h hfat (List.mem_append_left _ (List.mem_map_of_mem hmem))

theorem isStored_of_directory (h : Roomy root) (hfat : IsTable root fat)
    (hroot : (allocate root).1.length ≤ 224)
    (hreached : Directory (putRegions clearedDisk (diskRegions casing (allocate root).1 fat))
      cluster bytes) : IsStored casing (allocate root).1 cluster bytes := by
  induction hreached with
  | root =>
    refine .inl ⟨rfl, ?_⟩
    rw [readVolume_diskRegions h hfat, rootDirectory_diskRegions h hfat]
  | child _ hentry hdirectory hchain ih =>
    obtain ⟨directory, hmem, hcluster, -⟩ := ih.child h hroot hentry hdirectory
    rw [hcluster, chain_directory h hfat hmem] at hchain
    exact .inr ⟨directory, hmem, hcluster, (Option.some.inj hchain).symm⟩

theorem chain_emptyFile (h : Roomy root) (hfat : IsTable root fat)
    (hmem : ⟨extent, []⟩ ∈ collectFiles (allocate root).1) :
    (readVolume (putRegions clearedDisk (diskRegions casing (allocate root).1 fat))).chain
      (putRegions clearedDisk (diskRegions casing (allocate root).1 fat))
      extent.startCluster.toNat = some (List.replicate 8192 0) := by
  have hpiece : (extent, ([] : Bytes)) ∈ pieces casing (allocate root).1 :=
    List.mem_append_right _ (List.mem_map.mpr ⟨_, hmem, rfl⟩)
  have hone : fileClusterCount [] = 1 := by decide
  have hcount : extent.clusterCount = 1 := by
    rw [clusterCount_file hmem, hone]
    rfl
  have hsize : (1 : Int).toNat * 8192 = 8192 := rfl
  rw [readVolume_diskRegions h hfat, chain_diskRegions h hfat hpiece, hcount, hsize,
    fillTo_of_le 0 (Nat.zero_le _), List.nil_append, List.length_nil, Nat.sub_zero]

theorem wellNamed_children {nodes : List FatNode} (h : WellNamed nodes)
    (hmem : directory ∈ collectDirectories parent nodes) : WellNamed directory.children := by
  induction nodes using forestInduction generalizing parent with
  | nil => exact absurd hmem List.not_mem_nil
  | directory shortName extent children rest hchildren hrest =>
    obtain ⟨hhere, -, hothers⟩ := h
    simp only [collectDirectories_directory, List.mem_cons, List.mem_append] at hmem
    obtain rfl | hmem | hmem := hmem
    · exact hhere
    · exact hchildren hhere hmem
    · exact hrest hothers hmem
  | file shortName shortExtension extent data rest hrest => exact hrest h.2.2 hmem

theorem keepsForm_diskRegions (h : Roomy root) (hfat : IsTable root fat) (hnamed : WellNamed root)
    (hroot : (allocate root).1.length ≤ 224) :
    KeepsForm (putRegions clearedDisk (diskRegions casing (allocate root).1 fat)) := by
  have hrootNamed := wellNamed_allocate.mpr hnamed
  constructor
  case root =>
    rw [readVolume_diskRegions h hfat, rootDirectory_diskRegions h hfat, recordsOf_rootBytes hroot,
      ← @readVolume_diskRegions casing _ _ h hfat]
    exact recordsFollow_nodes hrootNamed (root_storable h) fun _ _ extent hnode =>
      chain_emptyFile h hfat (file_collected hnode)
  case below =>
    intro cluster bytes hreached entry hentry hdirectory
    obtain ⟨directory, hmem, hcluster, hparent⟩ :=
      (isStored_of_directory h hfat hroot hreached).child h hroot hentry hdirectory
    obtain ⟨hbelow, hfiles⟩ := collected_below hmem
    have hlength := length_directoryContent casing directory
    have hroom : 32 * (directory.children.length + 2) ≤
        directory.extent.clusterCount.toNat * 8192 := by
      rw [h.clusterCount hmem, clustersFor, Int.toNat_natCast]
      omega
    refine ⟨directorySpan casing directory, hcluster ▸ chain_directory h hfat hmem, ?_, ?_, ?_⟩
    · have hself := isSpecial_specialDirectoryEntry 0x20
        (UInt16.ofNat directory.extent.startCluster.toNat)
      rw [toNat_startCluster h (directory_extent_mem hmem)] at hself
      rw [directorySpan, (slice_directoryContent directory hroom).1, hcluster]
      exact hself
    · rw [directorySpan, (slice_directoryContent directory hroom).2, ← hparent]
      exact isSpecial_specialDirectoryEntry 0x2E _
    · rw [directorySpan, recordsOf_directoryContent directory hroom]
      exact recordsFollow_nodes (wellNamed_children hrootNamed hmem) (h.storable hbelow hfiles)
        fun _ _ extent hnode => chain_emptyFile h hfat (hfiles _ (file_collected hnode))

/-- The nine bytes behind `. ` are not spaces. -/
theorem not_followsRules_diskRegions (h : Roomy root) (hfat : IsTable root fat)
    (hroot : (allocate root).1.length ≤ 224)
    (hmem : .directory shortName extent children ∈ (allocate root).1) :
    ¬ FollowsRules (putRegions clearedDisk (diskRegions casing (allocate root).1 fat)) := by
  intro hrules
  have hentries := @readEntries_rootBytes casing _ (root_storable h) hroot
  have hrootDirectory : (readVolume (putRegions clearedDisk
      (diskRegions casing (allocate root).1 fat))).rootDirectory (putRegions clearedDisk
        (diskRegions casing (allocate root).1 fat)) = rootBytes casing (allocate root).1 := by
    rw [readVolume_diskRegions h hfat, rootDirectory_diskRegions h hfat]
  have hentry : entryOf (.directory shortName extent children) ∈
      readEntries ((readVolume (putRegions clearedDisk
        (diskRegions casing (allocate root).1 fat))).rootDirectory (putRegions clearedDisk
          (diskRegions casing (allocate root).1 fat))) := by
    rw [hrootDirectory, hentries]
    exact List.mem_map_of_mem hmem
  obtain ⟨content, hchain, hself, -⟩ := hrules.below _ _ .root _ hentry rfl
  have hcollected : ⟨none, extent, children⟩ ∈ collectDirectories none (allocate root).1 :=
    directory_collected hmem
  obtain rfl := Option.some.inj ((chain_directory h hfat hcollected).symm.trans hchain)
  have hlength := length_directoryContent casing ⟨none, extent, children⟩
  have hcount : extent.clusterCount = clustersFor (32 * (children.length + 2)) :=
    h.clusterCount hcollected
  have hroom : 32 * (children.length + 2) ≤ extent.clusterCount.toNat * 8192 := by
    rw [hcount, clustersFor, Int.toNat_natCast]
    omega
  rw [directorySpan, (slice_directoryContent ⟨none, extent, children⟩ hroom).1] at hself
  exact not_isSpecial_padded _ hself

theorem length_allocate : (allocate root).1.length = root.length := by
  rw [← forget_length, forget_allocate, forget_length]

theorem Readable.emptyFile_cluster {image : Bytes} (hroomy : Roomy root)
    (h : Readable image (allocate root).1) (hat : fileAt ⟨[], parts⟩ root = some []) :
    ∃ entry ∈ readEntries ((readVolume image).rootDirectory image),
      entry.isDirectory = false ∧ entry.size = 0 ∧ entry.firstCluster ≠ 0 := by
  rw [← fileAt_allocate] at hat
  obtain ⟨nodes, hnodes, hfile⟩ := Option.bind_eq_some_iff.mp hat
  obtain rfl := Option.some.inj hnodes
  obtain ⟨hnone, -⟩ | ⟨extent, data, hsome, hfilter⟩ := filter_file h.wellNamed parts
  · exact absurd (hnone.symm.trans hfile) (Option.some_ne_none _).symm
  · obtain rfl := Option.some.inj (hsome.symm.trans hfile)
    have hmem : .file parts.name parts.extension extent [] ∈ (allocate root).1 :=
      List.mem_of_mem_filter (hfilter ▸ List.mem_singleton_self _)
    have hextent : extent ∈ extents (allocate root).1 :=
      file_extent_mem (file_collected hmem)
    obtain ⟨chain, -, rfl, hlow, -⟩ := hroomy.chain hextent
    refine ⟨entryOf _, h.rootDirectory ▸ List.mem_map_of_mem hmem, rfl, rfl, ?_⟩
    have hstart : (entryOf (.file parts.name parts.extension (extentOf chain) [])).firstCluster =
        chain.start := Int.toNat_natCast _
    omega

theorem breaksRules_of_emptyFile {bootx64 : Bytes} {runtimeFiles : List RuntimePackageFile}
    (hroomy : Roomy (buildTree casing bootx64 runtimeFiles))
    (hroot : (buildTree casing bootx64 runtimeFiles).length ≤ 224)
    (hdirectory : (directoryAt [name] (buildTree casing bootx64 runtimeFiles)).isSome)
    (hat : fileAt ⟨[], parts⟩ (buildTree casing bootx64 runtimeFiles) = some []) :
    ∃ image, buildEfiSystemPartition casing bootx64 runtimeFiles = .ok image ∧
      ¬ FollowsRules image ∧ ∃ entry ∈ readEntries ((readVolume image).rootDirectory image),
        entry.isDirectory = false ∧ entry.size = 0 ∧ entry.firstCluster ≠ 0 := by
  obtain ⟨fat, hfat, himage⟩ := buildEfiSystemPartition_ok hroomy hroot
  obtain ⟨-, hreadable⟩ := buildEfiSystemPartition_readable hroomy.arrays himage
  refine ⟨_, himage, ?_, hreadable.emptyFile_cluster hroomy hat⟩
  rw [← isSome_directoryAt_allocate, directoryAt] at hdirectory
  obtain ⟨hnone, -⟩ | ⟨extent, children, -, hfilter⟩ := filter_directory hreadable.wellNamed name
  · rw [hnone] at hdirectory
    cases hdirectory
  · exact not_followsRules_diskRegions hroomy hfat (by rwa [length_allocate])
      (List.mem_of_mem_filter (hfilter ▸ List.mem_singleton_self _))

end

/-- In every image that is returned `.` and `..` have the right clusters, the other names are
legal and differ, and an empty file has one cluster. -/
theorem buildEfiSystemPartition_directories (casing : Casing) (bootx64 : Bytes)
    (runtimeFiles : List RuntimePackageFile) (harrays : AllShorter (2 ^ 31) bootx64 runtimeFiles)
    (image : Bytes) (himage : buildEfiSystemPartition casing bootx64 runtimeFiles = .ok image) :
    KeepsForm image := by
  have hroot := (buildEfiSystemPartition_room himage).2
  obtain ⟨hroomy, fat, hfat, rfl⟩ := buildEfiSystemPartition_image (harrays.contents casing) himage
  exact keepsForm_diskRegions hroomy hfat wellNamed_buildTree (by rwa [length_allocate])

def emptyFile : RuntimePackageFile := ⟨text "EMPTY.TXT", []⟩

/-- A file in a directory, and an empty one in the root. -/
theorem buildEfiSystemPartition_directories_noteAndEmpty :
    ∃ image, buildEfiSystemPartition asciiCasing [0xEB] [noteFile, emptyFile] = .ok image ∧
      KeepsForm image ∧ ∃ entry ∈ readEntries ((readVolume image).rootDirectory image),
        entry.isDirectory = false ∧ entry.size = 0 := by
  have hsmall : SmallFiles [0xEB] [noteFile, emptyFile] := ⟨by decide, by simp [noteFile, emptyFile]⟩
  have hroomy : Roomy (buildTree asciiCasing [0xEB] [noteFile, emptyFile]) :=
    hsmall.roomy (by decide +kernel)
  have hefi : (directoryAt [normalizeName asciiCasing (text "EFI")]
      (buildTree asciiCasing [0xEB] [noteFile, emptyFile])).isSome := by decide +kernel
  have hat : fileAt ⟨[], normalizeFile asciiCasing (text "EMPTY.TXT")⟩
      (buildTree asciiCasing [0xEB] [noteFile, emptyFile]) = some [] := by decide +kernel
  obtain ⟨image, himage, -, entry, hentry, hfile, hsize, -⟩ :=
    breaksRules_of_emptyFile hroomy (by decide +kernel) hefi hat
  exact ⟨image, himage, buildEfiSystemPartition_directories asciiCasing [0xEB]
    [noteFile, emptyFile] (by decide) image himage, entry, hentry, hfile, hsize⟩

theorem emptyFile_breaksRules : ∃ image,
    buildEfiSystemPartition asciiCasing [0xEB] [emptyFile] = .ok image ∧ ¬ FollowsRules image ∧
      ∃ entry ∈ readEntries ((readVolume image).rootDirectory image),
        entry.isDirectory = false ∧ entry.size = 0 ∧ entry.firstCluster ≠ 0 := by
  have hsmall : SmallFiles [0xEB] [emptyFile] :=
    ⟨by decide, List.forall_mem_singleton.mpr (by decide)⟩
  have hroomy : Roomy (buildTree asciiCasing [0xEB] [emptyFile]) := hsmall.roomy (by decide +kernel)
  have hefi : (directoryAt [normalizeName asciiCasing (text "EFI")]
      (buildTree asciiCasing [0xEB] [emptyFile])).isSome := by decide +kernel
  have hat : fileAt ⟨[], normalizeFile asciiCasing (text "EMPTY.TXT")⟩
      (buildTree asciiCasing [0xEB] [emptyFile]) = some [] := by decide +kernel
  exact breaksRules_of_emptyFile hroomy (by decide +kernel) hefi hat

end DragonOS.Build
