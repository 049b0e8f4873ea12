import DragonOS.Build.FatRegions
import Mathlib.Data.List.Nodup

/-!
# The structure of the file allocation table

Decoding the table of an image gives one chain for every directory below the root and
one for every file, without a cluster in two of them or in none.
-/

namespace DragonOS.Build

open Lib

/-- The first copy of the table is copy zero. -/
def fatCopy (image : Bytes) (copy : Nat) : Bytes := slice image ((1 + copy * 16) * 512) 8192

/-- The clusters of a chain; the table has no more entries than the fuel. -/
def decodeChain (image : Bytes) (start : Nat) : Option (List Nat) :=
  follow (entry12 (fatCopy image 0)) (0xFF8 ≤ ·) 5461 start

def storedBytes (root : List FatNode) : List Nat :=
  (directoryLengths root).map (fun children => 32 * (children + 2)) ++
    (fileContents root).map List.length

/-- The chains of an image, in the order of the extents in the tree. -/
structure FatStructure (root : List FatNode) (image : Bytes) (chains : List (List Nat)) : Prop where
  decoded : (extents (allocate root).1).map
    (fun extent => decodeChain image extent.startCluster.toNat) = chains.map some
  lengths : chains.map List.length = (storedBytes root).map clustersFor
  acyclic : ∀ chain ∈ chains, chain.Nodup
  disjoint : chains.Pairwise List.Disjoint
  ends : ∀ chain ∈ chains, chain.getLast?.map (entry12 (fatCopy image 0)) = some 0xFFF
  covers : ∀ cluster, (∃ chain ∈ chains, cluster ∈ chain) ↔
    2 ≤ cluster ∧ (cluster : Int) < (allocate root).2
  free : ∀ cluster : Nat, (allocate root).2 ≤ cluster → entry12 (fatCopy image 0) cluster = 0
  copies : fatCopy image 1 = fatCopy image 0
  onDisk : ∀ chain ∈ chains, ∀ cluster ∈ chain, clusterOffset cluster + 8192 ≤ 32768 * 512

section
variable {casing : Casing} {root : List FatNode} {fat : Bytes} {chain : Chain}

theorem fatCopy_diskRegions (h : Roomy root) (hfat : IsTable root fat) (hcopy : copy < 2) :
    fatCopy (putRegions clearedDisk (diskRegions casing (allocate root).1 fat)) copy = fat := by
  have hmem : ((1 + copy * 16) * 512, fat) ∈ diskRegions casing (allocate root).1 fat := by
    obtain rfl | rfl : copy = 0 ∨ copy = 1 := by omega
    · simp [diskRegions]
    · simp [diskRegions]
  have hslice := slice_putRegions (h.inOrder_diskRegions hfat) hmem
  rwa [hfat.length_eq] at hslice

theorem Roomy.bounds (h : Roomy root) (hchain : chain ∈ layChains 2 (clusterCounts root)) :
    2 ≤ chain.start ∧ chain.start + chain.count ≤ 2047 ∧ 0 < chain.count := by
  have hbounds := mem_layChains_bounds hchain
  have hclusters := h.clusters
  have hcount := List.mem_map_of_mem (f := Chain.count) hchain
  rw [map_count_layChains] at hcount
  have hpositive := clusterCounts_pos root _ hcount
  rw [neededClusters] at hclusters
  omega

theorem follow_table (h : Roomy root) (hfat : IsTable root fat)
    (hchain : chain ∈ layChains 2 (clusterCounts root)) :
    follow (entry12 fat) (0xFF8 ≤ ·) 5461 chain.start = some chain.blocks := by
  obtain ⟨hlow, hhigh, hcount⟩ := h.bounds hchain
  refine Chain.follow_eq (hfat.linked chain hchain) hcount (by decide) (fun block hblock => ?_)
    (by omega)
  exact decide_eq_false (by omega)

theorem last_block {table : Nat → Nat} {chain : Chain} (h : chain.LinkedIn table terminator)
    (hcount : 0 < chain.count) : chain.blocks.getLast?.map table = some terminator := by
  have hlast := h (chain.count - 1) (by omega)
  rw [Chain.link, if_pos (by omega)] at hlast
  rw [Chain.blocks, List.getLast?_range', if_neg (by omega), Option.map_some, ← hlast]
  congr 2
  omega

theorem clusterCounts_eq (hsmall : ∀ data ∈ fileContents root, data.length + 8191 < 2 ^ 31) :
    clusterCounts root = (storedBytes root).map clustersFor := by
  rw [clusterCounts, storedBytes, List.map_append, List.map_map, List.map_map]
  refine congrArg _ (List.map_congr_left fun data hdata => ?_)
  rw [fileClusterCount_eq (hsmall data hdata), Int.toNat_natCast, Function.comp_apply]

theorem fatStructure_diskRegions (h : Roomy root) (hfat : IsTable root fat)
    (hsmall : ∀ data ∈ fileContents root, data.length + 8191 < 2 ^ 31) :
    FatStructure root (putRegions clearedDisk (diskRegions casing (allocate root).1 fat))
      ((layChains 2 (clusterCounts root)).map Chain.blocks) := by
  have hfirst := @fatCopy_diskRegions casing root fat 0 h hfat (by decide)
  have hsecond := @fatCopy_diskRegions casing root fat 1 h hfat (by decide)
  have hnext := h.laid.next_eq
  have hflatten : ((layChains 2 (clusterCounts root)).map Chain.blocks).flatten =
      List.range' 2 (neededClusters root) := flatMap_blocks_layChains 2 (clusterCounts root)
  have hnodup := List.nodup_flatten.mp (hflatten ▸ List.nodup_range')
  refine ⟨?_, ?_, hnodup.1, hnodup.2, ?_, fun cluster => ?_, fun cluster hcluster => ?_,
    hsecond.trans hfirst.symm, ?_⟩
  · rw [h.laid.extents_eq, List.map_map, List.map_map]
    refine List.map_congr_left fun chain hchain => ?_
    show decodeChain _ chain.start = some chain.blocks
    rw [decodeChain, hfirst, follow_table h hfat hchain]
  · have hlengths : (layChains 2 (clusterCounts root)).map (List.length ∘ Chain.blocks) =
        (layChains 2 (clusterCounts root)).map Chain.count :=
      List.map_congr_left fun chain _ => List.length_range'
    rw [← clusterCounts_eq hsmall, List.map_map, hlengths, map_count_layChains]
  · rw [List.forall_mem_map]
    intro chain hchain
    rw [hfirst]
    exact last_block (hfat.linked chain hchain) (h.bounds hchain).2.2
  · rw [← List.mem_flatten, hflatten, List.mem_range'_1, hnext]
    omega
  · rw [hfirst]
    exact hfat.free cluster (by omega)
  · rw [List.forall_mem_map]
    intro chain hchain cluster hcluster
    obtain ⟨hlow, hhigh, -⟩ := h.bounds hchain
    rw [Chain.blocks, List.mem_range'_1] at hcluster
    rw [clusterOffset]
    omega

end

/-- Neither the loader nor a file is so long that rounding its length up wraps. -/
structure SmallFiles (bootx64 : Bytes) (runtimeFiles : List RuntimePackageFile) : Prop where
  boot : bootx64.length < 2 ^ 31 - 8192
  files : ∀ runtimeFile ∈ runtimeFiles, runtimeFile.data.length < 2 ^ 31 - 8192

theorem SmallFiles.contents (h : SmallFiles bootx64 runtimeFiles) (casing : Casing) :
    ∀ data ∈ fileContents (buildTree casing bootx64 runtimeFiles), data.length + 8191 < 2 ^ 31 := by
  intro data hdata
  obtain rfl | ⟨runtimeFile, hmem, rfl⟩ := mem_fileContents_buildTree hdata
  · have := h.boot
    omega
  · have := h.files runtimeFile hmem
    omega

theorem SmallFiles.arrays (h : SmallFiles bootx64 runtimeFiles) (casing : Casing) :
    ∀ data ∈ fileContents (buildTree casing bootx64 runtimeFiles), data.length < 2 ^ 31 :=
  fun data hdata => Nat.lt_of_le_of_lt (Nat.le_add_right _ _) (h.contents casing data hdata)

theorem SmallFiles.neededClusters_eq (h : SmallFiles bootx64 runtimeFiles) (casing : Casing) :
    neededClusters (buildTree casing bootx64 runtimeFiles) =
      ((storedBytes (buildTree casing bootx64 runtimeFiles)).map clustersFor).sum := by
  rw [neededClusters, clusterCounts_eq (h.contents casing)]

theorem SmallFiles.roomy (h : SmallFiles bootx64 runtimeFiles)
    (hneeded : ((storedBytes (buildTree casing bootx64 runtimeFiles)).map clustersFor).sum ≤ 2045) :
    Roomy (buildTree casing bootx64 runtimeFiles) :=
  ⟨(h.neededClusters_eq casing).trans_le hneeded, h.arrays casing⟩

/-- Whatever the builder returns has a table of disjoint chains, one for every directory
and every file and as long as they need, and what needs more clusters than there are is
refused. -/
theorem buildEfiSystemPartition_fatStructure (casing : Casing) (bootx64 : Bytes)
    (runtimeFiles : List RuntimePackageFile) (hsmall : SmallFiles bootx64 runtimeFiles) :
    (∀ image, buildEfiSystemPartition casing bootx64 runtimeFiles = .ok image →
      ∃ chains, FatStructure (buildTree casing bootx64 runtimeFiles) image chains) ∧
    (2045 < ((storedBytes (buildTree casing bootx64 runtimeFiles)).map clustersFor).sum →
      ∃ exception, buildEfiSystemPartition casing bootx64 runtimeFiles = .error exception) := by
  constructor
  · intro image himage
    obtain ⟨hroomy, fat, hfat, rfl⟩ := buildEfiSystemPartition_image (hsmall.arrays casing) himage
    exact ⟨_, fatStructure_diskRegions hroomy hfat (hsmall.contents casing)⟩
  · intro hneeded
    cases hbuild : buildEfiSystemPartition casing bootx64 runtimeFiles with
    | error exception => exact ⟨exception, rfl⟩
    | ok image =>
      have hroom := (buildEfiSystemPartition_room hbuild).1
      rw [hsmall.neededClusters_eq] at hroom
      exact absurd hneeded (Nat.not_lt.mpr hroom)

-- ---------------------------------------------------------------------------
-- A note
-- ---------------------------------------------------------------------------

def noteFile : RuntimePackageFile := ⟨text "DRAGON/NOTE.TXT", [0x68, 0x69]⟩

theorem smallFiles_note : SmallFiles [0xEB] [noteFile] :=
  ⟨by decide, List.forall_mem_singleton.mpr (by decide)⟩

theorem buildEfiSystemPartition_note :
    ∃ image, buildEfiSystemPartition asciiCasing [0xEB] [noteFile] = .ok image := by
  have hroomy : Roomy (buildTree asciiCasing [0xEB] [noteFile]) :=
    smallFiles_note.roomy (by decide +kernel)
  obtain ⟨fat, -, hbuild⟩ := buildEfiSystemPartition_ok hroomy (by decide +kernel)
  exact ⟨_, hbuild⟩

theorem buildEfiSystemPartition_fatStructure_note :
    ∃ image chains, buildEfiSystemPartition asciiCasing [0xEB] [noteFile] = .ok image ∧
      FatStructure (buildTree asciiCasing [0xEB] [noteFile]) image chains := by
  obtain ⟨image, himage⟩ := buildEfiSystemPartition_note
  obtain ⟨chains, hchains⟩ :=
    (buildEfiSystemPartition_fatStructure asciiCasing [0xEB] [noteFile] smallFiles_note).1 image himage
  exact ⟨image, chains, himage, hchains⟩

end DragonOS.Build
