import DragonOS.Build.FatLinks

/-!
# The regions of the partition

The partition is a cleared disk with regions for the fields of the boot sector, for the
two copies of the table, for the root directory and for the clusters of every directory
and file (`buildEfiSystemPartition_ok`). What fits and what does not is decided by the
tree alone (`buildEfiSystemPartition_room`).
-/

namespace DragonOS.Build

open Lib

-- ---------------------------------------------------------------------------
-- Entries
-- ---------------------------------------------------------------------------

def FatNode.extent : FatNode → Extent
  | .directory _ extent _ => extent
  | .file _ _ extent _ => extent

def FatNode.Storable : FatNode → Prop
  | .directory _ extent _ => 0 ≤ extent.startCluster ∧ extent.startCluster < 2 ^ 16
  | .file _ _ extent data =>
    (0 ≤ extent.startCluster ∧ extent.startCluster < 2 ^ 16) ∧ data.length < 2 ^ 32

section
variable (casing : Casing)

def nodeBytes : FatNode → Bytes
  | .directory shortName extent _ =>
    directoryEntry casing shortName.units [] 0x10 (UInt16.ofNat extent.startCluster.toNat) 0
  | .file shortName shortExtension extent data =>
    directoryEntry casing shortName.units shortExtension.units 0x20
      (UInt16.ofNat extent.startCluster.toNat) (UInt32.ofNat data.length)

@[simp] theorem length_directoryEntry :
    (directoryEntry casing name extension attributes firstCluster size).length = 32 := by
  simp [directoryEntry, shortNameField]

@[simp] theorem length_specialDirectoryEntry :
    (specialDirectoryEntry second cluster).length = 32 := by
  simp [specialDirectoryEntry]

@[simp] theorem length_nodeBytes (node : FatNode) : (nodeBytes casing node).length = 32 := by
  cases node <;> exact length_directoryEntry casing

theorem length_flatMap_nodeBytes (nodes : List FatNode) :
    (nodes.flatMap (nodeBytes casing)).length = 32 * nodes.length := by
  induction nodes with
  | nil => rfl
  | cons node rest ih =>
    rw [List.flatMap_cons, List.length_append, length_nodeBytes, ih, List.length_cons]
    omega

variable {casing}

theorem nodeEntry_ok {node : FatNode} (h : node.Storable) :
    nodeEntry casing node = .ok (nodeBytes casing node) := by
  cases node with
  | directory shortName extent children =>
    have hcluster := checkedUShort_ok.mpr ⟨h.1, h.2, rfl⟩
    rw [nodeEntry, hcluster]
    rfl
  | file shortName shortExtension extent data =>
    have hcluster := checkedUShort_ok.mpr ⟨h.1.1, h.1.2, rfl⟩
    have hsize : checkedUInt data.length = .ok (UInt32.ofNat data.length) :=
      checkedUInt_ok.mpr ⟨Int.natCast_nonneg _, Int.ofNat_lt.mpr h.2, rfl⟩
    rw [nodeEntry, hcluster, hsize]
    rfl

theorem writeSlice_cleared {front entry : Bytes} {content : Except Exception Bytes} {rest : Nat}
    (hcontent : content = .ok entry) (hentry : entry.length = 32) (hrest : 32 ≤ rest) :
    writeSlice (front ++ List.replicate rest 0) front.length 32 content =
      .ok (front ++ entry ++ List.replicate (rest - 32) 0) := by
  have hroom : ¬ ¬ ((0 : Int) ≤ front.length ∧
      (front.length : Int) + 32 ≤ (front ++ List.replicate rest (0 : UInt8)).length) := by
    rw [List.length_append, List.length_replicate]
    omega
  refine bind_ok.mpr ⟨(), throwIf_ok.mpr hroom, ?_⟩
  rw [hcontent, ok_bind, writeAt_cleared (by omega), hentry]

theorem writeNodeEntries_ok {nodes : List FatNode} {front : Bytes} {index rest : Nat}
    (hstorable : ∀ node ∈ nodes, node.Storable) (hfront : front.length = index * 32)
    (hroom : 32 * nodes.length ≤ rest) :
    writeNodeEntries casing (front ++ List.replicate rest 0) index nodes =
      .ok (front ++ nodes.flatMap (nodeBytes casing) ++
        List.replicate (rest - 32 * nodes.length) 0) := by
  induction nodes generalizing front index rest with
  | nil => rw [writeNodeEntries, List.flatMap_nil, List.append_nil]; rfl
  | cons node nodes ih =>
    obtain ⟨hnode, hnodes⟩ := List.forall_mem_cons.mp hstorable
    rw [List.length_cons] at hroom
    have hplace : (index : Int) * 32 = front.length := by omega
    have hnext : (front ++ nodeBytes casing node).length = (index + 1) * 32 := by
      rw [List.length_append, length_nodeBytes, hfront, Nat.succ_mul]
    rw [writeNodeEntries, hplace,
      writeSlice_cleared (nodeEntry_ok hnode) (length_nodeBytes casing node) (by omega), ok_bind,
      ih hnodes hnext (by omega), List.flatMap_cons, List.length_cons]
    simp only [List.append_assoc]
    rw [show rest - 32 - 32 * nodes.length = rest - 32 * (nodes.length + 1) by omega]

theorem length_of_writeSlice {content : Except Exception Bytes}
    (h : writeSlice span offset length content = .ok after) : after.length = span.length := by
  simp only [writeSlice, bind_ok] at h
  obtain ⟨-, -, bytes, -, h⟩ := h
  exact length_of_writeAt h

theorem room_of_writeNodeEntries {nodes : List FatNode} {index : Nat}
    (h : writeNodeEntries casing span index nodes = .ok after) (hindex : index * 32 ≤ span.length) :
    (index + nodes.length) * 32 ≤ span.length := by
  induction nodes generalizing span index with
  | nil => exact hindex
  | cons node nodes ih =>
    rw [writeNodeEntries, bind_ok] at h
    obtain ⟨next, hwrite, h⟩ := h
    have hlength := length_of_writeSlice hwrite
    simp only [writeSlice, bind_ok, throwIf_ok, not_not] at hwrite
    obtain ⟨-, ⟨-, hroom⟩, -⟩ := hwrite
    have hrest := ih h (by rw [hlength]; omega)
    rw [List.length_cons]
    omega

end

-- ---------------------------------------------------------------------------
-- One chain of clusters
-- ---------------------------------------------------------------------------

def diskLength : Nat := 2 ^ 24

def clusterOffset (cluster : Nat) : Nat := (47 + (cluster - 2) * 16) * 512

theorem clusterOffset_add {start : Nat} (h : 2 ≤ start) (i : Nat) :
    clusterOffset (start + i) = clusterOffset start + i * 8192 := by
  simp only [clusterOffset]
  omega

theorem clusterOffset_le {cluster : Nat} (h : cluster ≤ 2047) : clusterOffset cluster ≤ diskLength := by
  simp only [clusterOffset, diskLength]
  omega

theorem getClusterSpan_ok {disk : Bytes} {cluster : Nat} (hlow : 2 ≤ cluster)
    (hhigh : cluster ≤ 2046) (hdisk : disk.length = diskLength) :
    getClusterSpan disk cluster = .ok (clusterOffset cluster : Int) := by
  have hsector : int32 (firstDataSector + int32 (int32 (cluster - 2) * sectorsPerCluster)) =
      47 + (cluster - 2) * 16 := by
    have hfirst : firstDataSector = 47 := rfl
    have hsectors : sectorsPerCluster = 16 := rfl
    have hindex : int32 ((cluster : Int) - 2) = cluster - 2 := int32_eq (by omega) (by omega)
    have hproduct : int32 (((cluster : Int) - 2) * 16) = (cluster - 2) * 16 :=
      int32_eq (by omega) (by omega)
    rw [hfirst, hsectors, hindex, hproduct, int32_eq (by omega) (by omega)]
  have hoffset : int32 ((47 + ((cluster : Int) - 2) * 16) * bytesPerSector) = clusterOffset cluster := by
    have hbytes : bytesPerSector = 512 := rfl
    rw [hbytes, int32_eq (by omega) (by omega), clusterOffset]
    omega
  have hend := clusterOffset_le (show cluster + 1 ≤ 2047 by omega)
  rw [clusterOffset_add hlow] at hend
  have hroom : ¬ ¬ ((0 : Int) ≤ clusterOffset cluster ∧
      clusterOffset cluster + clusterSizeBytes ≤ disk.length) := by
    rw [hdisk, clusterSizeBytes_eq]
    omega
  simp only [getClusterSpan, hsector, hoffset]
  exact bind_ok.mpr ⟨(), throwIf_ok.mpr hroom, rfl⟩

/-- The part of `data` that goes to cluster `i` of its chain. -/
theorem writeCluster_ok {start count i : Nat} {data disk : Bytes} (hlow : 2 ≤ start)
    (hhigh : start + count ≤ 2047) (hi : i < count) (hdisk : disk.length = diskLength) :
    writeCluster data start disk i =
      .ok (overwrite disk (clusterOffset (start + i)) (fillTo 0 8192 (slice data (i * 8192) 8192))) := by
  have hcluster : int32 ((start : Int) + i) = ((start + i : Nat) : Int) := by
    rw [int32_eq (by omega) (by omega), Nat.cast_add]
  have hsource : int32 (i * clusterSizeBytes) = ((i * 8192 : Nat) : Int) := by
    rw [clusterSizeBytes_eq, int32_eq (by omega) (by omega), Nat.cast_mul]
    rfl
  have hend := clusterOffset_le (show start + i + 1 ≤ 2047 by omega)
  rw [clusterOffset_add (show 2 ≤ start + i by omega)] at hend
  have hzeros : (List.replicate clusterSizeBytes.toNat (0 : UInt8)).length = 8192 :=
    List.length_replicate
  have hspan : clusterOffset (start + i) + (List.replicate clusterSizeBytes.toNat (0 : UInt8)).length ≤
      disk.length := by
    rw [hzeros, hdisk]
    omega
  have hclear : writeAt disk (clusterOffset (start + i)) (List.replicate clusterSizeBytes.toNat 0) =
      .ok (overwrite disk (clusterOffset (start + i)) (List.replicate clusterSizeBytes.toNat 0)) :=
    writeAt_ok.mpr ⟨Int.natCast_nonneg _, by omega, rfl⟩
  have hpart : (slice data (i * 8192) 8192).length = min 8192 (data.length - i * 8192) := by
    rw [slice, List.length_take, List.length_drop]
  have hwrite (chunk : Bytes) (hchunk : chunk.length ≤ 8192) :
      overwrite (overwrite disk (clusterOffset (start + i)) (List.replicate clusterSizeBytes.toNat 0))
        (clusterOffset (start + i)) chunk =
      overwrite disk (clusterOffset (start + i)) (fillTo 0 8192 chunk) := by
    rw [overwrite_front hspan (by rwa [hzeros]), fillTo_of_le 0 hchunk, List.drop_replicate]
    rfl
  rw [writeCluster, hcluster, getClusterSpan_ok (by omega) (by omega) hdisk, ok_bind, hclear, ok_bind,
    hsource]
  by_cases hbeyond : data.length ≤ i * 8192
  · have hnone : slice data (i * 8192) 8192 = [] := List.eq_nil_of_length_eq_zero (by omega)
    simp only [ge_iff_le, Nat.cast_le, if_pos hbeyond]
    rw [hnone, fillTo_of_le 0 (Nat.zero_le _)]
    rfl
  · have hchunk : min clusterSizeBytes ((data.length : Int) - (i * 8192 : Nat)) =
        ((slice data (i * 8192) 8192).length : Int) := by
      rw [clusterSizeBytes_eq]
      omega
    have hroom : ¬ ¬ ((0 : Int) ≤ (i * 8192 : Nat) ∧
        ((i * 8192 : Nat) : Int) + (slice data (i * 8192) 8192).length ≤ data.length) := by omega
    have hlength := length_overwrite hspan
    simp only [ge_iff_le, Nat.cast_le, if_neg hbeyond, hchunk, Int.toNat_natCast]
    refine bind_ok.mpr ⟨(), throwIf_ok.mpr hroom, writeAt_ok.mpr ⟨Int.natCast_nonneg _, ?_, ?_⟩⟩
    · rw [slice_length_slice, hlength]
      omega
    · rw [slice_length_slice, Int.toNat_natCast, hwrite _ (by omega)]

theorem part_within {offset count i part length : Nat} (h : offset + count * part ≤ length)
    (hi : i < count) : offset + i * part + part ≤ length := by
  have hnext := Nat.mul_le_mul_right part hi
  rw [Nat.succ_mul] at hnext
  rw [Nat.add_assoc]
  exact Nat.le_trans (Nat.add_le_add_left hnext offset) h

theorem writeFileToClusterChain_ok {start count : Nat} {data disk : Bytes} (hlow : 2 ≤ start)
    (hhigh : start + count ≤ 2047) (hdisk : disk.length = diskLength) :
    writeFileToClusterChain disk data ⟨start, count⟩ =
      .ok (overwrite disk (clusterOffset start) (fillTo 0 (count * 8192) data)) := by
  have hend := clusterOffset_le hhigh
  rw [clusterOffset_add hlow] at hend
  have hstart : overwrite disk (clusterOffset start) (fillTo 0 (0 * 8192) data) = disk := by
    rw [Nat.zero_mul]
    exact overwrite_nil disk _
  have hstep : ∀ i state, i < count →
      state = overwrite disk (clusterOffset start) (fillTo 0 (i * 8192) data) →
      ∃ next, writeCluster data start state i = .ok next ∧
        next = overwrite disk (clusterOffset start) (fillTo 0 ((i + 1) * 8192) data) := by
    intro i state hi hstate
    have hnext := part_within hend hi
    have hfirst : clusterOffset start + (fillTo 0 (i * 8192) data).length ≤ disk.length := by
      simpa only [length_fillTo, hdisk] using Nat.le_trans (Nat.le_add_right _ _) hnext
    have hlength : state.length = diskLength := by rw [hstate, length_overwrite hfirst, hdisk]
    have hboth : clusterOffset start + (fillTo 0 (i * 8192) data).length +
        (fillTo 0 8192 (slice data (i * 8192) 8192)).length ≤ disk.length := by
      simpa only [length_fillTo, hdisk] using hnext
    have happend := overwrite_append hboth
    rw [length_fillTo, ← fillTo_add, ← Nat.succ_mul] at happend
    refine ⟨_, writeCluster_ok hlow hhigh hi hlength, ?_⟩
    rw [hstate, clusterOffset_add hlow, happend]
  obtain ⟨result, hresult, rfl⟩ := foldlM_range_returns _ hstart.symm hstep
  exact hresult

-- ---------------------------------------------------------------------------
-- All chains
-- ---------------------------------------------------------------------------

section
variable (casing : Casing)

def parentNumber : Option Extent → UInt16
  | none => 0
  | some parent => UInt16.ofNat parent.startCluster.toNat

def directoryContent (directory : FatDirectory) : Bytes :=
  specialDirectoryEntry 0x20 (UInt16.ofNat directory.extent.startCluster.toNat) ++
    specialDirectoryEntry 0x2E (parentNumber directory.parent) ++
      directory.children.flatMap (nodeBytes casing)

def pieces (root : List FatNode) : List (Extent × Bytes) :=
  (collectDirectories none root).map (fun directory =>
    (directory.extent, directoryContent casing directory)) ++
  (collectFiles root).map fun file => (file.extent, file.data)

def pieceRegion (piece : Extent × Bytes) : Nat × Bytes :=
  (clusterOffset piece.1.startCluster.toNat, fillTo 0 (piece.1.clusterCount.toNat * 8192) piece.2)

def directoryRegion (directory : FatDirectory) : Nat × Bytes :=
  pieceRegion (directory.extent, directoryContent casing directory)

def fileRegion (file : FatFile) : Nat × Bytes := pieceRegion (file.extent, file.data)

theorem map_pieceRegion_pieces (root : List FatNode) :
    (pieces casing root).map pieceRegion =
      (collectDirectories none root).map (directoryRegion casing) ++
        (collectFiles root).map fileRegion := by
  rw [pieces, List.map_append, List.map_map, List.map_map]
  rfl

theorem extents_pieces (root : List FatNode) : (pieces casing root).map Prod.fst = extents root := by
  simp only [pieces, extents, List.map_append, List.map_map, Function.comp_def]

theorem length_directoryContent (directory : FatDirectory) :
    (directoryContent casing directory).length = 32 * (directory.children.length + 2) := by
  rw [directoryContent, List.length_append, List.length_append, length_specialDirectoryEntry,
    length_specialDirectoryEntry, length_flatMap_nodeBytes]
  omega

theorem inOrder_pieces {pieces : List (Extent × Bytes)} {counts : List Nat} {first : Nat}
    (h : pieces.map Prod.fst = (layChains first counts).map extentOf) (hfirst : 2 ≤ first) :
    InOrder (clusterOffset first) (clusterOffset (first + counts.sum)) (pieces.map pieceRegion) := by
  induction counts generalizing first pieces with
  | nil =>
    obtain rfl := List.map_eq_nil_iff.mp h
    exact Nat.le_refl _
  | cons count counts ih =>
    obtain ⟨piece, rest, rfl, hpiece, hrest⟩ := List.map_eq_cons_iff.mp h
    have hregion : pieceRegion piece = (clusterOffset first, fillTo 0 (count * 8192) piece.2) := by
      rw [pieceRegion, hpiece]
      rfl
    rw [List.map_cons, hregion]
    refine ⟨Nat.le_refl _, ?_⟩
    simp only [length_fillTo]
    rw [← clusterOffset_add hfirst, List.sum_cons, ← Nat.add_assoc]
    exact ih hrest (by omega)

end

/-- The clusters of the tree are on the disk, and its files are arrays. -/
structure Roomy (root : List FatNode) : Prop where
  clusters : neededClusters root ≤ 2045
  arrays : ∀ data ∈ fileContents root, data.length < 2 ^ 31

section
variable {casing : Casing} {root : List FatNode}

theorem Roomy.laid (h : Roomy root) : Laid root := by
  have := h.clusters
  exact laid_of_few (by omega)

theorem Roomy.chain (h : Roomy root) (hmem : extent ∈ extents (allocate root).1) :
    ∃ chain ∈ layChains 2 (clusterCounts root), extent = extentOf chain ∧ 2 ≤ chain.start ∧
      chain.start + chain.count ≤ 2047 := by
  rw [h.laid.extents_eq, List.mem_map] at hmem
  obtain ⟨chain, hchain, rfl⟩ := hmem
  have hbounds := mem_layChains_bounds hchain
  have hclusters := h.clusters
  rw [neededClusters] at hclusters
  exact ⟨chain, hchain, rfl, hbounds.1, by omega⟩

theorem Roomy.number (h : Roomy root) (hmem : extent ∈ extents (allocate root).1) :
    0 ≤ extent.startCluster ∧ extent.startCluster < 2 ^ 16 := by
  obtain ⟨chain, -, rfl, hlow, hhigh⟩ := h.chain hmem
  simp only [extentOf]
  omega

theorem directory_extent_mem (h : directory ∈ collectDirectories none root) :
    directory.extent ∈ extents root :=
  List.mem_append_left _ (List.mem_map_of_mem h)

theorem file_extent_mem (h : file ∈ collectFiles root) : file.extent ∈ extents root :=
  List.mem_append_right _ (List.mem_map_of_mem h)

theorem Roomy.length_data (h : Roomy root) (hfile : file ∈ collectFiles (allocate root).1) :
    file.data.length < 2 ^ 31 := by
  refine h.arrays _ ?_
  rw [← fileContents_allocate]
  exact List.mem_map_of_mem hfile

theorem Roomy.storable (h : Roomy root) {nodes : List FatNode}
    (hdirectories : ∀ directory ∈ collectDirectories parent nodes,
      directory ∈ collectDirectories none (allocate root).1)
    (hfiles : ∀ file ∈ collectFiles nodes, file ∈ collectFiles (allocate root).1) :
    ∀ node ∈ nodes, node.Storable := by
  intro node hnode
  cases node with
  | directory shortName extent children =>
    exact h.number (directory_extent_mem (hdirectories _ (directory_collected hnode)))
  | file shortName shortExtension extent data =>
    have hmem := hfiles _ (file_collected hnode)
    have hlength := h.length_data hmem
    exact ⟨h.number (file_extent_mem hmem), by simp only at hlength; omega⟩

theorem Roomy.parentCluster_ok (h : Roomy root)
    (hmem : directory ∈ collectDirectories none (allocate root).1) :
    parentCluster directory.parent = .ok (parentNumber directory.parent) := by
  obtain hparent | ⟨above, habove, hparent⟩ := parent_collected hmem
  · rw [hparent]
    rfl
  · obtain ⟨hlow, hhigh⟩ := h.number (directory_extent_mem habove)
    rw [hparent]
    exact checkedUShort_ok.mpr ⟨hlow, hhigh, rfl⟩

theorem Roomy.clusterCount (h : Roomy root)
    (hmem : directory ∈ collectDirectories none (allocate root).1) :
    directory.extent.clusterCount = clustersFor (32 * (directory.children.length + 2)) := by
  refine clusterCount_directory ?_ hmem
  have hlength := length_le_sum (clusterCounts_pos root)
  have hclusters := h.clusters
  rw [h.laid.extents_eq, List.length_map, length_layChains]
  rw [neededClusters] at hclusters
  omega

/-- The entries `.` and `..` are written like the others. -/
theorem directoryBytes_eq {directory : FatDirectory} {length : Nat}
    (hsize : int32 (directory.extent.clusterCount * clusterSizeBytes) = (length : Int))
    (hstart : checkedUShort directory.extent.startCluster =
      .ok (UInt16.ofNat directory.extent.startCluster.toNat))
    (hparent : parentCluster directory.parent = .ok (parentNumber directory.parent))
    (hstorable : ∀ node ∈ directory.children, node.Storable)
    (hroom : 32 * (directory.children.length + 2) ≤ length) :
    directoryBytes casing directory = .ok (fillTo 0 length (directoryContent casing directory)) := by
  have hnew : newArray UInt8 length = .ok ([] ++ List.replicate length 0) :=
    newArray_ok.mpr ⟨Int.natCast_nonneg _, rfl⟩
  have hself : (do
      let cluster ← checkedUShort directory.extent.startCluster
      pure (specialDirectoryEntry 0x20 cluster) : Except Exception Bytes) =
        .ok (specialDirectoryEntry 0x20 (UInt16.ofNat directory.extent.startCluster.toNat)) := by
    rw [hstart]
    rfl
  have habove : (do
      let cluster ← parentCluster directory.parent
      pure (specialDirectoryEntry 0x2E cluster) : Except Exception Bytes) =
        .ok (specialDirectoryEntry 0x2E (parentNumber directory.parent)) := by
    rw [hparent]
    rfl
  have hchildren := length_directoryContent casing directory
  unfold directoryBytes
  rw [hsize]
  refine bind_ok.mpr ⟨_, hnew, ?_⟩
  refine bind_ok.mpr ⟨_, writeSlice_cleared hself length_specialDirectoryEntry (by omega), ?_⟩
  refine bind_ok.mpr ⟨_, writeSlice_cleared habove length_specialDirectoryEntry (by omega), ?_⟩
  rw [writeNodeEntries_ok hstorable (by simp) (by omega), fillTo_of_le 0 (by omega), hchildren,
    directoryContent, List.nil_append]
  rw [show length - 32 - 32 - 32 * directory.children.length =
    length - 32 * (directory.children.length + 2) by omega]

theorem Roomy.directoryBytes_ok (h : Roomy root)
    (hmem : directory ∈ collectDirectories none (allocate root).1) :
    directoryBytes casing directory = .ok
      (fillTo 0 (directory.extent.clusterCount.toNat * 8192) (directoryContent casing directory)) := by
  obtain ⟨hbelow, hfiles⟩ := collected_below hmem
  obtain ⟨chain, -, hextent, hlow, hhigh⟩ := h.chain (directory_extent_mem hmem)
  obtain ⟨hnonneg, hword⟩ := h.number (directory_extent_mem hmem)
  have hcount := h.clusterCount hmem
  refine directoryBytes_eq ?_ (checkedUShort_ok.mpr ⟨hnonneg, hword, rfl⟩) (h.parentCluster_ok hmem)
    (h.storable hbelow hfiles) ?_
  · rw [hextent]
    simp only [extentOf, clusterSizeBytes_eq, Int.toNat_natCast]
    rw [int32_eq (by omega) (by omega)]
    omega
  · rw [hcount, clustersFor, Int.toNat_natCast]
    omega

theorem Roomy.inOrder (h : Roomy root) :
    InOrder (clusterOffset 2) diskLength ((pieces casing (allocate root).1).map pieceRegion) := by
  have hclusters := h.clusters
  rw [neededClusters] at hclusters
  exact (inOrder_pieces ((extents_pieces casing _).trans h.laid.extents_eq) (Nat.le_refl 2)).weaken
    (clusterOffset_le (by omega))

theorem Roomy.writeFile_ok (h : Roomy root) (hmem : file ∈ collectFiles (allocate root).1)
    (hdisk : disk.length = diskLength) :
    writeFileToClusterChain disk file.data file.extent =
      .ok (overwrite disk (fileRegion file).1 (fileRegion file).2) := by
  obtain ⟨chain, -, heq, hlow, hhigh⟩ := h.chain (file_extent_mem hmem)
  simp only [fileRegion, pieceRegion, heq, extentOf, Int.toNat_natCast]
  exact writeFileToClusterChain_ok hlow hhigh hdisk

theorem Roomy.writeDirectory_ok (h : Roomy root)
    (hmem : directory ∈ collectDirectories none (allocate root).1)
    (hdisk : disk.length = diskLength) :
    writeDirectoryClusters casing disk directory =
      .ok (overwrite disk (directoryRegion casing directory).1 (directoryRegion casing directory).2) := by
  obtain ⟨chain, -, heq, hlow, hhigh⟩ := h.chain (directory_extent_mem hmem)
  rw [writeDirectoryClusters, h.directoryBytes_ok hmem, ok_bind]
  simp only [directoryRegion, pieceRegion, heq, extentOf, Int.toNat_natCast]
  have hfilled := fillTo_self 0 (fillTo 0 (chain.count * 8192) (directoryContent casing directory))
  rw [length_fillTo] at hfilled
  rw [writeFileToClusterChain_ok hlow hhigh hdisk, hfilled]

theorem Roomy.writeAll_ok (h : Roomy root) (hdisk : disk.length = diskLength) :
    writeAll casing disk (allocate root).1 =
      .ok (putRegions disk ((pieces casing (allocate root).1).map pieceRegion)) := by
  have hinOrder := @Roomy.inOrder casing root h
  rw [map_pieceRegion_pieces, ← hdisk] at hinOrder
  rw [map_pieceRegion_pieces, putRegions_append]
  have hlength := length_putRegions hinOrder.left
  have hdirectories : (collectDirectories none (allocate root).1).foldlM
      (writeDirectoryClusters casing) disk = .ok (putRegions disk
        ((collectDirectories none (allocate root).1).map (directoryRegion casing))) := by
    refine foldlM_putRegions (fun directory hmem => ?_) fun directory hmem state hstate => ?_
    · exact (hinOrder.bounds (List.mem_append_left _ (List.mem_map_of_mem hmem))).2
    · exact h.writeDirectory_ok hmem (hstate.trans hdisk)
  refine bind_ok.mpr ⟨_, hdirectories, ?_⟩
  refine foldlM_putRegions (fun file hmem => ?_) fun file hmem state hstate => ?_
  · rw [hlength]
    exact (hinOrder.bounds (List.mem_append_right _ (List.mem_map_of_mem hmem))).2
  · exact h.writeFile_ok hmem (hstate.trans (hlength.trans hdisk))

-- ---------------------------------------------------------------------------
-- The table
-- ---------------------------------------------------------------------------

/-- The bytes of a table that links these chains and no other cluster. -/
structure IsTable (root : List FatNode) (fat : Bytes) : Prop where
  length_eq : fat.length = 8192
  linked : ∀ chain ∈ layChains 2 (clusterCounts root), chain.LinkedIn (entry12 fat) 0xFFF
  free : ∀ cluster, 2 + neededClusters root ≤ cluster → entry12 fat cluster = 0

theorem linkValue_mod (h : start + count ≤ 2047) (hi : i < count) :
    (linkValue start count i).toNat % 4096 = Chain.link 0xFFF ⟨start, count⟩ i := by
  rw [linkValue, Chain.link]
  split
  next => rfl
  next hlast =>
    rw [UInt16.toNat_ofNat_of_lt' (show start + i + 1 < 2 ^ 16 by omega)]
    exact Nat.mod_eq_of_lt (by omega)

def startEntries (needed : Nat) : List UInt16 :=
  overwrite (overwrite (List.replicate (needed + 3) 0) 0 [0xFF0]) 1 [0xFFF]

theorem length_startEntries (needed : Nat) : (startEntries needed).length = needed + 3 := by
  rw [startEntries, length_overwrite, length_overwrite, List.length_replicate]
  · simp
  · rw [length_overwrite] <;> simp

theorem getD_startEntries (needed : Nat) (hj : 2 ≤ j) : (startEntries needed).getD j 0 = 0 := by
  have hfirst : (overwrite (List.replicate (needed + 3) (0 : UInt16)) 0 [0xFF0]).length = needed + 3 := by
    rw [length_overwrite] <;> simp
  rw [startEntries, getD_overwrite_singleton (by omega), if_neg (by omega),
    getD_overwrite_singleton (by simp), if_neg (by omega), getD_replicate_self]

theorem Roomy.isTable (h : Roomy root) {after : List UInt16} {fatBytes : Bytes}
    (hlength : fatBytes.length = 8192)
    (hchains : LinkedChains (startEntries (neededClusters root)) 2 (clusterCounts root) after)
    (hfat : writeFat12Entries fatBytes after = .ok fat) : IsTable root fat := by
  have hwritten := writeFat12Entries_spec hfat
  have hclusters := h.clusters
  refine ⟨hwritten.length_eq.trans hlength, fun chain hchain i hi => ?_, fun cluster hcluster => ?_⟩
  · have hbounds := mem_layChains_bounds hchain
    rw [neededClusters] at hclusters
    rw [hwritten.entry, hchains.linked chain hchain i hi]
    exact linkValue_mod (by omega) hi
  · rw [neededClusters] at hcluster
    rw [hwritten.entry, hchains.beside cluster (.inr hcluster), getD_startEntries _ (by omega)]
    rfl

theorem Roomy.table_ok (h : Roomy root) {fatBytes : Bytes} (hlength : fatBytes.length = 8192) :
    ∃ after fat, linkAll (startEntries (neededClusters root)) (allocate root).1 = .ok after ∧
      writeFat12Entries fatBytes after = .ok fat ∧ IsTable root fat := by
  have hclusters := h.clusters
  have hentries := length_startEntries (neededClusters root)
  have hsum : neededClusters root = (clusterCounts root).sum := rfl
  obtain ⟨after, hafter, hafterLength, hchains⟩ := linkChains_returns
    (show 2 + (clusterCounts root).sum < 2 ^ 16 by omega)
    (show 2 + (clusterCounts root).sum ≤ (startEntries (neededClusters root)).length by omega)
  rw [hentries] at hafterLength
  have hroom : ∀ i < after.length, i + i / 2 + 2 ≤ fatBytes.length := fun i hi => by omega
  obtain ⟨fat, hfat⟩ := writeFat12Entries_returns (by omega) hroom
  refine ⟨after, fat, ?_, hfat, h.isTable hlength hchains hfat⟩
  rw [linkAll_eq, h.laid.extents_eq]
  exact hafter

-- ---------------------------------------------------------------------------
-- The whole partition
-- ---------------------------------------------------------------------------

def rootBytes (casing : Casing) (root : List FatNode) : Bytes :=
  fillTo 0 7168 (root.flatMap (nodeBytes casing))

def diskRegions (casing : Casing) (root : List FatNode) (fat : Bytes) : List (Nat × Bytes) :=
  bootSectorFields ++ (512, fat) :: (8704, fat) :: (16896, rootBytes casing root) ::
    (pieces casing root).map pieceRegion

def clearedDisk : Bytes := List.replicate diskLength 0

theorem length_clearedDisk : clearedDisk.length = diskLength := List.length_replicate

theorem inOrder_bootSectorFields : InOrder 0 512 bootSectorFields := by
  simp [bootSectorFields, InOrder]

theorem Roomy.inOrder_diskRegions (h : Roomy root) (hfat : IsTable root fat) :
    InOrder 0 clearedDisk.length (diskRegions casing (allocate root).1 fat) := by
  have hroot : 16896 + (rootBytes casing (allocate root).1).length = clusterOffset 2 := by
    rw [rootBytes, length_fillTo]
    rfl
  have hlength := hfat.length_eq
  rw [length_clearedDisk]
  refine inOrder_bootSectorFields.append ⟨Nat.le_refl 512, ?_, ?_, ?_⟩
  · simp only
    omega
  · simp only
    omega
  · simp only [hroot]
    exact h.inOrder

theorem writeRootDirectory_ok (hstorable : ∀ node ∈ root, node.Storable) (hroot : root.length ≤ 224)
    (hdisk : disk.length = diskLength) :
    writeRootDirectory casing disk root = .ok (overwrite disk 16896 (rootBytes casing root)) := by
  have hspan : List.replicate (rootDirectorySectors * bytesPerSector).toNat (0 : UInt8) =
      [] ++ List.replicate 7168 0 := rfl
  have hlength := length_flatMap_nodeBytes casing root
  have hentries : writeNodeEntries casing ([] ++ List.replicate 7168 0) 0 root =
      .ok (rootBytes casing root) := by
    rw [writeNodeEntries_ok hstorable rfl (by omega), rootBytes, fillTo_of_le 0 (by omega), hlength,
      List.nil_append]
  have hroom : (16896 : Int) + (rootBytes casing root).length ≤ disk.length := by
    rw [rootBytes, length_fillTo, hdisk, diskLength]
    decide
  unfold writeRootDirectory
  rw [hspan]
  exact bind_ok.mpr ⟨_, hentries, writeAt_ok.mpr ⟨by decide, hroom, rfl⟩⟩

theorem writeFatCopies_ok {fatBytes : Bytes} (hnew : fatBytes = List.replicate 8192 0)
    (hfat : writeFat12Entries fatBytes entries = .ok fat) (hlength : fat.length = 8192)
    (hdisk : disk.length = diskLength) :
    writeFatCopies disk entries = .ok (overwrite (overwrite disk 512 fat) 8704 fat) := by
  have hroom : (512 : Int) + fat.length ≤ disk.length := by
    rw [hlength, hdisk, diskLength]
    decide
  have hroom' : (8704 : Int) + fat.length ≤ (overwrite disk 512 fat).length := by
    rw [length_overwrite (by omega), hlength, hdisk, diskLength]
    decide
  unfold writeFatCopies
  refine bind_ok.mpr ⟨fatBytes, newArray_ok.mpr ⟨by decide, hnew⟩, bind_ok.mpr ⟨fat, hfat, ?_⟩⟩
  have hfirst : reservedSectors * bytesPerSector = 512 := rfl
  have hsecond : (512 : Int) + fat.length = 8704 := by
    rw [hlength]
    decide
  simp only [hfirst, hsecond]
  exact bind_ok.mpr ⟨_, writeAt_ok.mpr ⟨by decide, hroom, rfl⟩,
    writeAt_ok.mpr ⟨by decide, hroom', rfl⟩⟩

theorem dataEnd_eq (h : Laid root) (hfew : neededClusters root < 2 ^ 25) :
    int32 (firstDataSector + int32 (int32 ((allocate root).2 - 2) * sectorsPerCluster)) =
      47 + neededClusters root * 16 := by
  have hfirst : firstDataSector = 47 := rfl
  have hsectors : sectorsPerCluster = 16 := rfl
  have hneeded : int32 ((allocate root).2 - 2) = neededClusters root := by
    rw [h.next_eq, int32_eq (by omega) (by omega)]
    omega
  have hproduct : int32 ((neededClusters root : Int) * 16) = neededClusters root * 16 :=
    int32_eq (by omega) (by omega)
  rw [hfirst, hsectors, hneeded, hproduct, int32_eq (by omega) (by omega)]

theorem startEntries_ok (h : Laid root) (hclusters : neededClusters root < 2 ^ 25) :
    ∃ fatEntries fatEntries', newArray UInt16 (int32 ((allocate root).2 + 1)) = .ok fatEntries ∧
      writeAt fatEntries 0 [0xFF0] = .ok fatEntries' ∧
      writeAt fatEntries' 1 [0xFFF] = .ok (startEntries (neededClusters root)) := by
  have hlength : int32 ((allocate root).2 + 1) = ((neededClusters root + 3 : Nat) : Int) := by
    rw [h.next_eq, int32_eq (by omega) (by omega)]
    omega
  have hnew : newArray UInt16 (int32 ((allocate root).2 + 1)) =
      .ok (List.replicate (neededClusters root + 3) 0) :=
    newArray_ok.mpr ⟨by omega, by rw [hlength, Int.toNat_natCast]⟩
  refine ⟨_, _, hnew, writeAt_ok.mpr ⟨by decide, ?_, rfl⟩, writeAt_ok.mpr ⟨by decide, ?_, rfl⟩⟩
  · rw [List.length_replicate, List.length_singleton]
    omega
  · rw [length_overwrite, List.length_replicate, List.length_singleton]
    · omega
    · simp

theorem root_storable (h : Roomy root) : ∀ node ∈ (allocate root).1, node.Storable :=
  h.storable (fun _ hmem => hmem) fun _ hmem => hmem

theorem buildEfiSystemPartition_ok (h : Roomy (buildTree casing bootx64 runtimeFiles))
    (hroot : (buildTree casing bootx64 runtimeFiles).length ≤ 224) :
    ∃ fat, IsTable (buildTree casing bootx64 runtimeFiles) fat ∧
      buildEfiSystemPartition casing bootx64 runtimeFiles = .ok (putRegions clearedDisk
        (diskRegions casing (allocate (buildTree casing bootx64 runtimeFiles)).1 fat)) := by
  unfold buildEfiSystemPartition
  generalize buildTree casing bootx64 runtimeFiles = root at *
  have hclusters := h.clusters
  obtain ⟨entries, entries', hnew, hzero, hone⟩ := startEntries_ok h.laid (by omega)
  have hblank : (List.replicate 8192 (0 : UInt8)).length = 8192 := List.length_replicate
  obtain ⟨after, fat, hlink, hfat, htable⟩ := h.table_ok hblank
  refine ⟨fat, htable, ?_⟩
  have hcleared : newArray UInt8 (totalSectors * bytesPerSector) = .ok clearedDisk :=
    newArray_ok.mpr ⟨by decide, congrArg (List.replicate · 0) (by decide)⟩
  have hboot : writeBootSector clearedDisk = .ok (putRegions clearedDisk bootSectorFields) :=
    writeFields_ok (inOrder_bootSectorFields.weaken (by rw [length_clearedDisk, diskLength]; decide))
  have hlength : (putRegions clearedDisk bootSectorFields).length = diskLength := by
    rw [length_putRegions (inOrder_bootSectorFields.weaken _), length_clearedDisk]
    rw [length_clearedDisk, diskLength]
    decide
  have hlength0 : (overwrite (putRegions clearedDisk bootSectorFields) 512 fat).length =
      diskLength := by
    rw [length_overwrite, hlength]
    rw [hlength, htable.length_eq, diskLength]
    decide
  have hlength1 : (overwrite (overwrite (putRegions clearedDisk bootSectorFields) 512 fat)
      8704 fat).length = diskLength := by
    rw [length_overwrite, hlength0]
    rw [hlength0, htable.length_eq, diskLength]
    decide
  have hlength2 : (overwrite (overwrite (overwrite (putRegions clearedDisk bootSectorFields) 512 fat)
      8704 fat) 16896 (rootBytes casing (allocate root).1)).length = diskLength := by
    rw [length_overwrite, hlength1]
    rw [hlength1, rootBytes, length_fillTo, diskLength]
    decide
  have hcount : (allocate root).1.length ≤ 224 := by
    rwa [← forget_length, forget_allocate, forget_length]
  have hspace : ¬ int32 (firstDataSector +
      int32 (int32 ((allocate root).2 - 2) * sectorsPerCluster)) > totalSectors := by
    have htotal : totalSectors = 32768 := rfl
    rw [dataEnd_eq h.laid (by omega), htotal]
    omega
  have hcopies := writeFatCopies_ok rfl hfat htable.length_eq hlength
  have hrooted : writeRootDirectory casing _ (allocate root).1 = .ok _ :=
    writeRootDirectory_ok (root_storable h) hcount hlength1
  have hall : writeAll casing _ (allocate root).1 = .ok _ := h.writeAll_ok hlength2
  rw [diskRegions, putRegions_append, putRegions_cons, putRegions_cons, putRegions_cons]
  refine bind_ok.mpr ⟨_, hcleared, ?_⟩
  refine bind_ok.mpr ⟨(), throwIf_ok.mpr hspace, ?_⟩
  refine bind_ok.mpr ⟨_, hnew, bind_ok.mpr ⟨_, hzero, bind_ok.mpr ⟨_, hone, ?_⟩⟩⟩
  refine bind_ok.mpr ⟨_, hlink, bind_ok.mpr ⟨_, hboot, bind_ok.mpr ⟨_, hcopies, ?_⟩⟩⟩
  exact bind_ok.mpr ⟨_, hrooted, hall⟩

theorem buildEfiSystemPartition_room
    (h : buildEfiSystemPartition casing bootx64 runtimeFiles = .ok image) :
    neededClusters (buildTree casing bootx64 runtimeFiles) ≤ 2045 ∧
      (buildTree casing bootx64 runtimeFiles).length ≤ 224 := by
  unfold buildEfiSystemPartition at h
  generalize buildTree casing bootx64 runtimeFiles = root at *
  simp only [bind_ok, throwIf_ok] at h
  obtain ⟨disk, -, -, hspace, entries, hnew, entries', hzero, start, hone, after, hlink, boot, -,
    tables, htables, rooted, hrooted, -⟩ := h
  constructor
  · simp only [writeFatCopies, bind_ok] at htables
    obtain ⟨fatBytes, hfatBytes, fat, hfat, -⟩ := htables
    obtain ⟨-, rfl⟩ := newArray_ok.mp hfatBytes
    have hwritten := writeFat12Entries_spec hfat
    rw [List.length_replicate] at hwritten
    have hfew : neededClusters root ≤ 5459 := by
      refine few_of_linked hlink fun j hj hused => ?_
      have hfits := hwritten.fits_of_used hj hused
      have hsize : (sectorsPerFat * bytesPerSector).toNat = 8192 := rfl
      omega
    have htotal : totalSectors = 32768 := rfl
    rw [dataEnd_eq (laid_of_few (by omega)) (by omega), htotal] at hspace
    omega
  · simp only [writeRootDirectory, bind_ok] at hrooted
    obtain ⟨span, hspan, -⟩ := hrooted
    have hroom := room_of_writeNodeEntries hspan (Nat.zero_le _)
    rw [← forget_length, forget_allocate, forget_length, List.length_replicate] at hroom
    have hsize : (rootDirectorySectors * bytesPerSector).toNat = 7168 := rfl
    omega

theorem buildEfiSystemPartition_image
    (harrays : ∀ data ∈ fileContents (buildTree casing bootx64 runtimeFiles), data.length < 2 ^ 31)
    (h : buildEfiSystemPartition casing bootx64 runtimeFiles = .ok image) :
    Roomy (buildTree casing bootx64 runtimeFiles) ∧
      ∃ fat, IsTable (buildTree casing bootx64 runtimeFiles) fat ∧
        image = putRegions clearedDisk
          (diskRegions casing (allocate (buildTree casing bootx64 runtimeFiles)).1 fat) := by
  obtain ⟨hclusters, hroot⟩ := buildEfiSystemPartition_room h
  have hroomy : Roomy (buildTree casing bootx64 runtimeFiles) := ⟨hclusters, harrays⟩
  obtain ⟨fat, htable, hbuild⟩ := buildEfiSystemPartition_ok hroomy hroot
  exact ⟨hroomy, fat, htable, Except.ok.inj (h.symm.trans hbuild)⟩

end

end DragonOS.Build
