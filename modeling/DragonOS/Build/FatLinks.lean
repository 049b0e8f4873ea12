import DragonOS.Build.FatChains
import DragonOS.Lib.Chains

/-!
# Linking all chains

`linked_exact` follows the loops that link the table: entries that can be packed into
sixteen sectors leave no room for a number to wrap, so the chains lie one behind another
from the first cluster on.
-/

namespace DragonOS.Build

open Lib

-- ---------------------------------------------------------------------------
-- Linking all chains
-- ---------------------------------------------------------------------------

theorem linkAll_eq (fatEntries : List UInt16) (root : List FatNode) :
    linkAll fatEntries root = (extents root).foldlM linkClusterChain fatEntries := by
  rw [linkAll, extents, List.foldlM_append, List.foldlM_map]
  refine congrArg _ (funext fun fatEntries => ?_)
  rw [List.foldlM_map]

theorem clusterSizeBytes_eq : clusterSizeBytes = 8192 := rfl

theorem divideRoundUp_le (value : Int) : divideRoundUp value clusterSizeBytes ≤ 2 ^ 18 := by
  have hword : int32 (value + clusterSizeBytes - 1) < 2 ^ 31 := by
    have := Int.bmod_lt (x := value + clusterSizeBytes - 1) (m := 2 ^ 32) (by decide)
    rw [int32]
    omega
  rw [divideRoundUp, clusterSizeBytes_eq]
  rw [clusterSizeBytes_eq] at hword
  generalize int32 (value + 8192 - 1) = rounded at hword ⊢
  rcases Int.le_total 0 rounded with hsign | hsign
  · rw [Int.tdiv_eq_ediv_of_nonneg hsign]
    omega
  · have hmirror := Int.tdiv_nonneg (Int.neg_nonneg.mpr hsign) (show (0 : Int) ≤ 8192 by decide)
    rw [Int.neg_tdiv] at hmirror
    omega

theorem directoryClusterCount_bounds (children : List FatNode) :
    1 ≤ directoryClusterCount children ∧ directoryClusterCount children ≤ 2 ^ 18 :=
  ⟨le_max_left .., max_le (by decide) (divideRoundUp_le _)⟩

theorem fileClusterCount_bounds (data : Bytes) :
    1 ≤ fileClusterCount data ∧ fileClusterCount data ≤ 2 ^ 18 :=
  ⟨le_max_left .., max_le (by decide) (divideRoundUp_le _)⟩

theorem clusterCount_bounds (h : extent ∈ extents (allocate root).1) :
    1 ≤ extent.clusterCount ∧ extent.clusterCount ≤ 2 ^ 18 := by
  obtain ⟨hdirectories, hfiles⟩ := @clusterCount_allocate root
  rw [extents, List.mem_append] at h
  obtain h | h := h
  · obtain ⟨directory, hmem, rfl⟩ := List.mem_map.mp h
    rw [hdirectories directory hmem]
    exact directoryClusterCount_bounds _
  · obtain ⟨file, hmem, rfl⟩ := List.mem_map.mp h
    rw [hfiles file hmem]
    exact fileClusterCount_bounds _

-- ---------------------------------------------------------------------------
-- What a link leaves behind
-- ---------------------------------------------------------------------------

theorem ofNat_ne_zero {value : Nat} (hpositive : 0 < value) (hsmall : value < 2 ^ 16) :
    UInt16.ofNat value ≠ 0 := by
  intro hzero
  have hvalue := congrArg UInt16.toNat hzero
  rw [UInt16.toNat_ofNat_of_lt' hsmall] at hvalue
  exact absurd hvalue (Nat.ne_of_gt hpositive)

/-- No link takes another away: every number that is written is positive. -/
theorem linkCluster_keeps (h : linkCluster extent entries i = .ok after)
    (hused : entries.getD j 0 ≠ 0) : after.getD j 0 ≠ 0 := by
  simp only [linkCluster, bind_ok, writeAt_ok, List.length_singleton] at h
  obtain ⟨value, hvalue, hcluster, hfits, rfl⟩ := h
  have hpositive : value ≠ 0 := by
    have hword : int32 (extent.startCluster + i) < 2 ^ 31 := by
      have := Int.bmod_lt (x := extent.startCluster + i) (m := 2 ^ 32) (by decide)
      rw [int32]
      omega
    generalize int32 (extent.startCluster + i) = cluster at *
    rw [chainValue] at hvalue
    split at hvalue
    next =>
      obtain rfl := Except.ok.inj hvalue
      decide
    next =>
      obtain ⟨hlow, hhigh, rfl⟩ := checkedUShort_ok.mp hvalue
      have hnext : int32 (cluster + 1) = cluster + 1 := by
        by_cases hlast : cluster + 1 < 2 ^ 31
        · exact int32_eq (by omega) hlast
        · rw [int32_wrap (by omega) (by omega)] at hlow
          omega
      rw [hnext] at hhigh ⊢
      exact ofNat_ne_zero (by omega) (by omega)
  rw [getD_overwrite_singleton (by omega)]
  split
  · exact hpositive
  · exact hused

theorem linkClusterChain_keeps (h : linkClusterChain entries extent = .ok after)
    (hused : entries.getD j 0 ≠ 0) : after.getD j 0 ≠ 0 :=
  foldlM_range_invariant (fun _ entries => entries.getD j 0 ≠ 0) hused
    (fun _ _ _ _ hstate hstep => linkCluster_keeps hstep hstate) h

theorem linkAll_keeps {extents : List Extent}
    (h : extents.foldlM linkClusterChain entries = .ok after) (hused : entries.getD j 0 ≠ 0) :
    after.getD j 0 ≠ 0 := by
  induction extents generalizing entries with
  | nil =>
    obtain rfl := pure_ok.mp h
    exact hused
  | cons extent rest ih =>
    rw [List.foldlM_cons, bind_ok] at h
    obtain ⟨linked, hlinked, hrest⟩ := h
    exact ih hrest (linkClusterChain_keeps hlinked hused)

theorem linkValue_ne_zero {start count i : Nat} (hrange : start + count < 2 ^ 31)
    (h : linkClusterChain entries ⟨start, count⟩ = .ok after) (hi : i < count) :
    linkValue start count i ≠ 0 := by
  have hall := foldlM_range_invariant
    (fun done (_ : List UInt16) => ∀ i < done, linkValue start count i ≠ 0)
    (fun _ hnone => absurd hnone (Nat.not_lt_zero _)) (fun done state next hdone hstate hstep => ?_) h
  · exact hall i hi
  · obtain ⟨-, hsmall, -⟩ := (linkCluster_ok hrange hdone).mp hstep
    intro i hi
    obtain hlast | hbefore := Nat.eq_or_lt_of_le (Nat.le_of_lt_succ hi)
    · subst hlast
      rw [linkValue]
      split
      · decide
      · exact ofNat_ne_zero (Nat.succ_pos _) (by omega)
    · exact hstate i hbefore

-- ---------------------------------------------------------------------------
-- The chains lie one behind another
-- ---------------------------------------------------------------------------

def extentOf (chain : Chain) : Extent := ⟨chain.start, chain.count⟩

/-- The entries once the chains of the given lengths have been linked, the first from
`first` on. -/
structure LinkedChains (entries : List UInt16) (first : Nat) (counts : List Nat)
    (after : List UInt16) : Prop where
  linked : ∀ chain ∈ layChains first counts, ∀ i < chain.count,
    after.getD (chain.start + i) 0 = linkValue chain.start chain.count i
  beside : ∀ j, j < first ∨ first + counts.sum ≤ j → after.getD j 0 = entries.getD j 0

theorem linkedChains_nil : LinkedChains entries first [] entries :=
  ⟨fun _ h => absurd h List.not_mem_nil, fun _ _ => rfl⟩

theorem linkedChains_cons {counts : List Nat} (hlink : LinkedUpTo entries first count count linked)
    (hrest : LinkedChains linked (first + count) counts after) :
    LinkedChains entries first (count :: counts) after := by
  refine ⟨fun chain hchain i hi => ?_, fun j hj => ?_⟩
  · obtain rfl | hchain := List.mem_cons.mp hchain
    · simp only at hi ⊢
      rw [hrest.beside _ (.inl (by omega)), hlink.entry_eq, if_pos (by omega),
        Nat.add_sub_cancel_left]
    · exact hrest.linked chain hchain i hi
  · rw [List.sum_cons] at hj
    rw [hrest.beside j (by omega), hlink.entry_eq, if_neg (by omega)]

theorem linked_exact (first : Nat) {chains : List Extent} (hnumbered : Numbered first chains last)
    (hcounts : ∀ extent ∈ chains, 1 ≤ extent.clusterCount ∧ extent.clusterCount ≤ 2 ^ 18)
    (hlink : chains.foldlM linkClusterChain entries = .ok after) (hlow : 2 ≤ first)
    (hhigh : first ≤ 5461) (hfits : ∀ j, 2 ≤ j → after.getD j 0 ≠ 0 → j ≤ 5460) :
    ∃ counts : List Nat, chains = (layChains first counts).map extentOf ∧
      last = ((first + counts.sum : Nat) : Int) ∧ first + counts.sum ≤ 5461 ∧
      LinkedChains entries first counts after := by
  induction chains generalizing first entries with
  | nil =>
    obtain rfl := pure_ok.mp hlink
    exact ⟨[], rfl, hnumbered.symm, hhigh, linkedChains_nil⟩
  | cons extent rest ih =>
    obtain ⟨hstart, hnumbered⟩ := hnumbered
    obtain ⟨hextent, hrest⟩ := List.forall_mem_cons.mp hcounts
    rw [List.foldlM_cons, bind_ok] at hlink
    obtain ⟨linked, hlinked, hlink⟩ := hlink
    obtain ⟨start, count⟩ := extent
    simp only at hstart hextent hnumbered
    obtain ⟨count, rfl⟩ := Int.eq_ofNat_of_zero_le (show 0 ≤ count by omega)
    obtain rfl := hstart
    have hrange : first + count < 2 ^ 31 := by omega
    have hspec := linkClusterChain_spec hrange hlinked
    -- The last cluster of this chain is in the table, whatever is linked after it.
    have hroom : first + (count - 1) ≤ 5460 := by
      refine hfits _ (by omega) (linkAll_keeps hlink ?_)
      rw [hspec.entry_eq, if_pos (by omega), Nat.add_sub_cancel_left]
      exact linkValue_ne_zero hrange hlinked (by omega)
    rw [int32_eq (by omega) (by omega), ← Nat.cast_add] at hnumbered
    obtain ⟨counts, rfl, hlast, hsum, hchains⟩ := ih (first + count) hnumbered hrest hlink (by omega) (by omega)
    refine ⟨count :: counts, rfl, ?_, ?_, linkedChains_cons hspec hchains⟩
    · rw [hlast, List.sum_cons, Nat.add_assoc]
    · rw [List.sum_cons]
      omega

-- ---------------------------------------------------------------------------
-- How many clusters are needed
-- ---------------------------------------------------------------------------

/-- What it takes to hold that many bytes; an empty file takes a cluster too. -/
def clustersFor (bytes : Nat) : Nat := max 1 ((bytes + 8191) / 8192)

theorem directoryClusterCount_eq {children : List FatNode} (h : children.length < 2 ^ 25) :
    directoryClusterCount children = clustersFor (32 * (children.length + 2)) := by
  have hentries : int32 (int32 (children.length + 2) * 32) = 32 * (children.length + 2) := by
    have hsum : int32 ((children.length : Int) + 2) = children.length + 2 :=
      int32_eq (by omega) (by omega)
    rw [hsum, int32_eq (by omega) (by omega)]
    omega
  simp only [directoryClusterCount, hentries, clustersFor]
  rw [divideRoundUp_eq (by omega) (by decide) (by rw [clusterSizeBytes_eq]; omega), clusterSizeBytes_eq]
  omega

theorem fileClusterCount_eq {data : Bytes} (h : data.length + 8191 < 2 ^ 31) :
    fileClusterCount data = clustersFor data.length := by
  simp only [fileClusterCount, clustersFor]
  rw [divideRoundUp_eq (by omega) (by decide) (by rw [clusterSizeBytes_eq]; omega), clusterSizeBytes_eq]
  omega

def clusterCounts (root : List FatNode) : List Nat :=
  (directoryLengths root).map (fun children => clustersFor (32 * (children + 2))) ++
    (fileContents root).map fun data => (fileClusterCount data).toNat

theorem clusterCounts_allocate : clusterCounts (allocate root).1 = clusterCounts root := by
  rw [clusterCounts, directoryLengths_allocate, fileContents_allocate, clusterCounts]

theorem length_clusterCounts : (clusterCounts root).length = (extents root).length := by
  simp only [clusterCounts, extents, directoryLengths, fileContents, List.length_append, List.length_map]

theorem length_le_sum {counts : List Nat} (h : ∀ count ∈ counts, 1 ≤ count) :
    counts.length ≤ counts.sum := by
  induction counts with
  | nil => exact Nat.le_refl 0
  | cons count rest ih =>
    obtain ⟨hcount, hrest⟩ := List.forall_mem_cons.mp h
    have := ih hrest
    rw [List.length_cons, List.sum_cons]
    omega

theorem clusterCounts_pos (root : List FatNode) : ∀ count ∈ clusterCounts root, 1 ≤ count := by
  intro count hcount
  rw [clusterCounts, List.mem_append] at hcount
  obtain hcount | hcount := hcount
  · obtain ⟨children, -, rfl⟩ := List.mem_map.mp hcount
    exact le_max_left ..
  · obtain ⟨data, -, rfl⟩ := List.mem_map.mp hcount
    have := (fileClusterCount_bounds data).1
    omega

theorem clusterCount_directory (hfew : (extents (allocate root).1).length < 2 ^ 25)
    (h : directory ∈ collectDirectories none (allocate root).1) :
    directory.extent.clusterCount = clustersFor (32 * (directory.children.length + 2)) := by
  rw [extents, List.length_append, List.length_map, List.length_map] at hfew
  have hchildren := children_le_collected h
  have hsmall : directory.children.length < 2 ^ 25 := by omega
  rw [clusterCount_allocate.1 directory h, directoryClusterCount_eq hsmall]

theorem clusterCount_file (h : file ∈ collectFiles (allocate root).1) :
    file.extent.clusterCount = (fileClusterCount file.data).toNat := by
  have hpositive := (fileClusterCount_bounds file.data).1
  rw [clusterCount_allocate.2 file h]
  omega

theorem clusterCount_extents (hfew : (extents (allocate root).1).length < 2 ^ 25) :
    (extents (allocate root).1).map Extent.clusterCount = (clusterCounts root).map Nat.cast := by
  have hdirectories : ((collectDirectories none (allocate root).1).map (·.extent.clusterCount)) =
      ((collectDirectories none (allocate root).1).map fun directory =>
        ((clustersFor (32 * (directory.children.length + 2)) : Nat) : Int)) :=
    List.map_congr_left fun _ h => clusterCount_directory hfew h
  have hfiles : (collectFiles (allocate root).1).map (·.extent.clusterCount) =
      (collectFiles (allocate root).1).map fun file =>
        (((fileClusterCount file.data).toNat : Nat) : Int) :=
    List.map_congr_left fun _ h => clusterCount_file h
  rw [← clusterCounts_allocate, extents, clusterCounts, directoryLengths, fileContents]
  simp only [List.map_append, List.map_map, Function.comp_def, hdirectories, hfiles]

theorem numbered_exact {counts : List Nat} {first : Nat} {chains : List Extent}
    (hnumbered : Numbered first chains last)
    (hcounts : chains.map Extent.clusterCount = counts.map Nat.cast)
    (hrange : first + counts.sum < 2 ^ 31) :
    chains = (layChains first counts).map extentOf ∧ last = ((first + counts.sum : Nat) : Int) := by
  induction chains generalizing first counts with
  | nil =>
    obtain rfl := List.map_eq_nil_iff.mp hcounts.symm
    exact ⟨rfl, hnumbered.symm⟩
  | cons extent rest ih =>
    obtain ⟨hstart, hnumbered⟩ := hnumbered
    obtain ⟨count, counts, rfl, hcount, hcounts⟩ := List.map_eq_cons_iff.mp hcounts.symm
    rw [List.sum_cons] at hrange ⊢
    rw [← hcount, int32_eq (by omega) (by omega), ← Nat.cast_add] at hnumbered
    obtain ⟨rfl, rfl⟩ := ih hnumbered hcounts.symm (by omega)
    refine ⟨?_, by rw [Nat.add_assoc]⟩
    rw [layChains, List.map_cons, extentOf, hcount, ← hstart]

def neededClusters (root : List FatNode) : Nat := (clusterCounts root).sum

structure Laid (root : List FatNode) : Prop where
  extents_eq : extents (allocate root).1 = (layChains 2 (clusterCounts root)).map extentOf
  next_eq : (allocate root).2 = ((2 + neededClusters root : Nat) : Int)

theorem laid_of_few (h : neededClusters root < 2 ^ 25) : Laid root := by
  have hlength := length_le_sum (clusterCounts_pos root)
  rw [← clusterCounts_allocate, length_clusterCounts, clusterCounts_allocate, ← neededClusters]
    at hlength
  have hfew : (extents (allocate root).1).length < 2 ^ 25 := by omega
  have hrange : 2 + (clusterCounts root).sum < 2 ^ 31 := by rw [← neededClusters]; omega
  obtain ⟨hextents, hnext⟩ := numbered_exact numbered_allocate (clusterCount_extents hfew) hrange
  exact ⟨hextents, hnext⟩

/-- A table that could be packed shows that there are few clusters. -/
theorem few_of_linked (hlink : linkAll entries (allocate root).1 = .ok after)
    (hfits : ∀ j, 2 ≤ j → after.getD j 0 ≠ 0 → j ≤ 5460) : neededClusters root ≤ 5459 := by
  rw [linkAll_eq] at hlink
  obtain ⟨counts, hextents, -, hsum, -⟩ := linked_exact 2 numbered_allocate
    (fun _ => clusterCount_bounds) hlink (by decide) (by decide) hfits
  have hcounts : (extents (allocate root).1).map Extent.clusterCount = counts.map Nat.cast := by
    rw [hextents, List.map_map, ← map_count_layChains 2 counts, List.map_map, map_count_layChains]
    rfl
  have hpositive : ∀ count ∈ counts, 1 ≤ count := by
    intro count hcount
    have hmem := List.mem_map_of_mem (f := (Nat.cast : Nat → Int)) hcount
    rw [← hcounts, List.mem_map] at hmem
    obtain ⟨extent, hextent, heq⟩ := hmem
    have := (clusterCount_bounds hextent).1
    omega
  have hlength := length_le_sum hpositive
  have hfew : (extents (allocate root).1).length < 2 ^ 25 := by
    rw [hextents, List.length_map, length_layChains]
    omega
  rw [clusterCount_extents hfew] at hcounts
  have hsame := (List.map_injective_iff.mpr Nat.cast_injective) hcounts
  rw [neededClusters, hsame]
  omega

theorem linkChains_returns {counts : List Nat} {first : Nat}
    (hrange : first + counts.sum < 2 ^ 16) (hfits : first + counts.sum ≤ entries.length) :
    ∃ after, ((layChains first counts).map extentOf).foldlM linkClusterChain entries = .ok after ∧
      after.length = entries.length ∧ LinkedChains entries first counts after := by
  induction counts generalizing first entries with
  | nil => exact ⟨entries, rfl, rfl, linkedChains_nil⟩
  | cons count counts ih =>
    rw [List.sum_cons] at hrange hfits
    have hrange' : first + count < 2 ^ 16 := by omega
    have hfits' : first + count ≤ entries.length := by omega
    obtain ⟨linked, hlinked⟩ := linkClusterChain_returns hrange' hfits'
    have hspec := linkClusterChain_spec (by omega) hlinked
    have hroom : first + count + counts.sum ≤ linked.length := by
      rw [hspec.length_eq]
      omega
    obtain ⟨after, hafter, hlength, hchains⟩ := ih (by omega) hroom
    refine ⟨after, ?_, hlength.trans hspec.length_eq, linkedChains_cons hspec hchains⟩
    rw [layChains, List.map_cons, List.foldlM_cons]
    exact bind_ok.mpr ⟨linked, hlinked, hafter⟩

end DragonOS.Build
