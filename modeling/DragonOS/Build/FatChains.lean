import DragonOS.Build.FatImage

/-!
# The chains in the file allocation table

A build that returns has linked every extent inside the table: the numbering has
not wrapped, the extents lie one behind the other, and the 12-bit table holds the
entries of the 16-bit one.
-/

namespace DragonOS.Build

open Lib

-- ---------------------------------------------------------------------------
-- The 12-bit table
-- ---------------------------------------------------------------------------

def packedEntry (fat : Bytes) (i : Nat) (value : UInt16) : Bytes :=
  let value := value &&& 0x0FFF
  if i % 2 = 0 then [value.toUInt8, joinHalves (fat.getD (i + i / 2 + 1) 0) (value >>> 8).toUInt8]
  else [joinHalves (value <<< 4).toUInt8 (fat.getD (i + i / 2) 0), (value >>> 4).toUInt8]

theorem setFat12Entry_eq {fat : Bytes} (h : i + i / 2 + 2 ≤ fat.length) :
    setFat12Entry fat i value = .ok (overwrite fat (i + i / 2) (packedEntry fat i value)) := by
  have hread : ∀ offset, offset < fat.length → fat[offset]? = some (fat.getD offset 0) := by
    intro offset hoffset
    rw [List.getD_eq_getElem?_getD, List.getElem?_eq_getElem hoffset, Option.getD_some]
  have hpair : ∀ low high : UInt8, overwrite (overwrite fat (i + i / 2) [low]) (i + i / 2 + 1) [high] =
      overwrite fat (i + i / 2) [low, high] := fun low high => overwrite_append h
  have hsingle : ∀ low : UInt8, (overwrite fat (i + i / 2) [low]).length = fat.length :=
    fun low => length_overwrite (by rw [List.length_singleton]; omega)
  unfold setFat12Entry packedEntry
  simp only
  split
  · simp only [bind_ok, writeAt_ok, readAt_ok, Int.toNat_natCast, List.length_singleton]
    refine ⟨_, ⟨by omega, by omega, rfl⟩, fat.getD (i + i / 2 + 1) 0, ?_, by omega, ?_, ?_⟩
    · rw [getElem?_overwrite (by rw [List.length_singleton]; omega),
        if_neg (by rw [List.length_singleton]; omega), hread _ (by omega)]
    · rw [hsingle]
      omega
    · rw [hpair]
  · simp only [bind_ok, writeAt_ok, readAt_ok, Int.toNat_natCast, List.length_singleton]
    refine ⟨_, hread _ (by omega), _, ⟨by omega, by omega, rfl⟩, by omega, ?_, ?_⟩
    · rw [hsingle]
      omega
    · rw [hpair]

theorem fits_of_setFat12Entry {fat : Bytes} (h : setFat12Entry fat i value = .ok after) :
    i + i / 2 + 2 ≤ fat.length := by
  unfold setFat12Entry at h
  simp only at h
  split at h
  · simp only [bind_ok, writeAt_ok] at h
    obtain ⟨middle, ⟨-, hfirst, rfl⟩, next, -, -, hsecond, -⟩ := h
    rw [length_overwrite (by simp only [List.length_singleton] at hfirst ⊢; omega)] at hsecond
    simp only [List.length_singleton] at hsecond
    omega
  · simp only [bind_ok, writeAt_ok] at h
    obtain ⟨first, -, middle, ⟨-, hfirst, rfl⟩, -, hsecond, -⟩ := h
    rw [length_overwrite (by simp only [List.length_singleton] at hfirst ⊢; omega)] at hsecond
    simp only [List.length_singleton] at hsecond
    omega

theorem length_packedEntry {fat : Bytes} : (packedEntry fat i value).length = 2 := by
  simp only [packedEntry]
  split <;> rfl

theorem entry12_setFat12Entry {fat : Bytes} (h : setFat12Entry fat i value = .ok after) :
    after.length = fat.length ∧ entry12 after i = value.toNat % 4096 ∧
      ∀ j, j ≠ i → entry12 after j = entry12 fat j := by
  have hfits := fits_of_setFat12Entry h
  rw [setFat12Entry_eq hfits] at h
  obtain rfl := Except.ok.inj h
  have hmasked : (value &&& 0x0FFF).toNat = value.toNat % 4096 := by
    rw [UInt16.toNat_and]
    exact Nat.and_two_pow_sub_one_eq_mod value.toNat 12
  refine ⟨length_overwrite (by rwa [length_packedEntry]), ?_⟩
  simp only [packedEntry]
  split
  next heven =>
    have hhigh := toNat_joinHalves (fat.getD (i + i / 2 + 1) 0) ((value &&& 0x0FFF) >>> 8).toUInt8
    have hlow : (value &&& 0x0FFF).toUInt8.toNat = value.toNat % 4096 % 256 := by
      rw [UInt16.toNat_toUInt8, hmasked]
    rw [toUInt8_shiftRight_eight, hmasked] at hhigh
    refine ⟨?_, fun j hj => entry12_overwrite_of_ne hfits hj ?_ ?_⟩
    · rw [entry12_overwrite_self hfits, if_pos heven, joinHalves, hhigh, hlow]
      omega
    · intro _
      rw [joinHalves, hhigh]
      omega
    · exact fun hodd => absurd heven hodd
  next hodd =>
    have hlow := toNat_joinHalves ((value &&& 0x0FFF) <<< 4).toUInt8 (fat.getD (i + i / 2) 0)
    have hhigh := toUInt8_shiftRight_four (value &&& 0x0FFF)
    rw [hmasked] at hhigh
    rw [toUInt8_shiftLeft_four, hmasked] at hlow
    refine ⟨?_, fun j hj => entry12_overwrite_of_ne hfits hj ?_ ?_⟩
    · rw [entry12_overwrite_self hfits, if_neg hodd, joinHalves, hhigh, hlow]
      omega
    · exact fun heven => absurd heven hodd
    · intro _
      rw [joinHalves, hlow]
      omega

theorem getD_replicate_self (value : α) (length k : Nat) :
    (List.replicate length value).getD k value = value := by
  rw [List.getD_eq_getElem?_getD, List.getElem?_replicate]
  split <;> rfl

theorem entry12_zeros : entry12 (List.replicate length 0) j = 0 := by
  simp only [entry12, getD_replicate_self]
  split <;> rfl

theorem writeUsedEntry_spec {fat : Bytes} (h : writeUsedEntry entries fat i = .ok after)
    (hunset : entry12 fat i = 0) :
    after.length = fat.length ∧ (entries.getD i 0 ≠ 0 → i + i / 2 + 2 ≤ fat.length) ∧
      ∀ j, entry12 after j = if j = i then (entries.getD i 0).toNat % 4096 else entry12 fat j := by
  simp only [writeUsedEntry, bind_ok, readAt_ok] at h
  obtain ⟨value, hvalue, h⟩ := h
  rw [List.getD_eq_getElem?_getD, hvalue, Option.getD_some]
  split at h
  next hused =>
    obtain ⟨hlength, hset, hother⟩ := entry12_setFat12Entry h
    refine ⟨hlength, fun _ => fits_of_setFat12Entry h, fun j => ?_⟩
    split
    next heq => rw [heq, hset]
    next hne => exact hother j hne
  next hfree =>
    obtain rfl := pure_ok.mp h
    refine ⟨rfl, fun hused => absurd hused hfree, fun j => ?_⟩
    split
    next heq =>
      rw [heq, hunset, not_not.mp hfree]
      rfl
    next => rfl

structure WrittenUpTo (entries : List UInt16) (size done : Nat) (fat : Bytes) : Prop where
  length_eq : fat.length = size
  entry_eq : ∀ j, entry12 fat j = if j < done then (entries.getD j 0).toNat % 4096 else 0
  fits : ∀ j, 2 ≤ j → j < done → entries.getD j 0 ≠ 0 → j + j / 2 + 2 ≤ size

theorem writtenUpTo_two (hfat0 : setFat12Entry (List.replicate size 0) 0 value0 = .ok fat0)
    (hvalue0 : entries[0]? = some value0) (hfat1 : setFat12Entry fat0 1 value1 = .ok fat1)
    (hvalue1 : entries[1]? = some value1) : WrittenUpTo entries size 2 fat1 := by
  obtain ⟨hlength0, hset0, hother0⟩ := entry12_setFat12Entry hfat0
  obtain ⟨hlength1, hset1, hother1⟩ := entry12_setFat12Entry hfat1
  rw [List.length_replicate] at hlength0
  refine ⟨hlength1.trans hlength0, fun j => ?_, fun j hlow hhigh => absurd hhigh (by omega)⟩
  obtain rfl | rfl | hj : j = 0 ∨ j = 1 ∨ 2 ≤ j := by omega
  · rw [hother1 0 (by decide), hset0, if_pos (by decide), List.getD_eq_getElem?_getD, hvalue0]
    rfl
  · rw [hset1, if_pos (by decide), List.getD_eq_getElem?_getD, hvalue1]
    rfl
  · rw [hother1 j (by omega), hother0 j (by omega), entry12_zeros, if_neg (by omega)]

theorem writtenUpTo_succ (h : WrittenUpTo entries size done fat)
    (hstep : writeUsedEntry entries fat done = .ok next) :
    WrittenUpTo entries size (done + 1) next := by
  have hunset : entry12 fat done = 0 := by rw [h.entry_eq, if_neg (Nat.lt_irrefl done)]
  obtain ⟨hnext, hused, hset⟩ := writeUsedEntry_spec hstep hunset
  refine ⟨hnext.trans h.length_eq, fun j => ?_, fun j hlow hhigh hvalue => ?_⟩
  · rw [hset j, h.entry_eq j]
    by_cases hj : j = done
    · rw [if_pos hj, if_pos (by omega), hj]
    · rw [if_neg hj]
      by_cases hbefore : j < done
      · rw [if_pos hbefore, if_pos (by omega)]
      · rw [if_neg hbefore, if_neg (by omega)]
  · by_cases hj : j = done
    · rw [hj, ← h.length_eq]
      exact hused (hj ▸ hvalue)
    · exact h.fits j hlow (by omega) hvalue

/-- The 12-bit table holds the entries of the 16-bit one, which has to fit. -/
theorem writeFat12Entries_spec (h : writeFat12Entries fatBytes entries = .ok fat) :
    WrittenUpTo entries fatBytes.length entries.length fat := by
  simp only [writeFat12Entries, bind_ok, readAt_ok] at h
  obtain ⟨value0, hvalue0, fat0, hfat0, value1, hvalue1, fat1, hfat1, hloop⟩ := h
  have htwo : 2 ≤ entries.length := (List.getElem?_eq_some_iff.mp hvalue1).1
  have hwritten := foldlM_range_invariant
    (fun done fat => WrittenUpTo entries fatBytes.length (2 + done) fat)
    (writtenUpTo_two hfat0 hvalue0 hfat1 hvalue1)
    (fun _ _ _ _ hfat hstep => writtenUpTo_succ hfat hstep) hloop
  rwa [Nat.add_sub_cancel' htwo] at hwritten

theorem WrittenUpTo.entry (h : WrittenUpTo entries size entries.length fat) (j : Nat) :
    entry12 fat j = (entries.getD j 0).toNat % 4096 := by
  rw [h.entry_eq]
  split
  next => rfl
  next hj =>
    rw [List.getD_eq_getElem?_getD, List.getElem?_eq_none (by omega)]
    rfl

theorem WrittenUpTo.fits_of_used (h : WrittenUpTo entries size entries.length fat) (hj : 2 ≤ j)
    (hused : entries.getD j 0 ≠ 0) : j + j / 2 + 2 ≤ size := by
  refine h.fits j hj ?_ hused
  by_contra hbeyond
  rw [List.getD_eq_getElem?_getD, List.getElem?_eq_none (by omega)] at hused
  exact hused rfl

theorem writeFat12Entries_returns {fatBytes : Bytes} {entries : List UInt16}
    (htwo : 2 ≤ entries.length) (hfits : ∀ i < entries.length, i + i / 2 + 2 ≤ fatBytes.length) :
    ∃ fat, writeFat12Entries fatBytes entries = .ok fat := by
  have hset (i : Nat) (value : UInt16) (fat : Bytes) (hi : i < entries.length)
      (hfat : fat.length = fatBytes.length) :
      ∃ next, setFat12Entry fat i value = .ok next ∧ next.length = fatBytes.length := by
    have hroom : i + i / 2 + 2 ≤ fat.length := by
      rw [hfat]
      exact hfits i hi
    refine ⟨_, setFat12Entry_eq hroom, ?_⟩
    rw [length_overwrite (by rwa [length_packedEntry]), hfat]
  obtain ⟨fat0, hfat0, hlength0⟩ := hset 0 (entries[0]) (List.replicate fatBytes.length 0)
    (by omega) List.length_replicate
  obtain ⟨fat1, hfat1, hlength1⟩ := hset 1 (entries[1]) fat0 (by omega) hlength0
  have hstep : ∀ i fat, i < entries.length - 2 → fat.length = fatBytes.length →
      ∃ next, writeUsedEntry entries fat (2 + i) = .ok next ∧ next.length = fatBytes.length := by
    intro i fat hi hfat
    have hread := List.getElem?_eq_getElem (show 2 + i < entries.length by omega)
    simp only [writeUsedEntry, readAt, hread, ok_bind]
    split
    · exact hset _ _ fat (by omega) hfat
    · exact ⟨fat, rfl, hfat⟩
  obtain ⟨fat, hfat, -⟩ := foldlM_range_returns
    (fun _ (fat : Bytes) => fat.length = fatBytes.length) hlength1 hstep
  refine ⟨fat, ?_⟩
  simp only [writeFat12Entries, bind_ok, readAt_ok]
  exact ⟨_, List.getElem?_eq_getElem (by omega), fat0, hfat0, _,
    List.getElem?_eq_getElem (by omega), fat1, hfat1, hfat⟩

theorem entry12_writeFat12Entries {fatBytes : Bytes} {entries : List UInt16}
    (htwo : 2 ≤ entries.length) (hfits : ∀ i < entries.length, i + i / 2 + 2 ≤ fatBytes.length) :
    ∃ fat, writeFat12Entries fatBytes entries = .ok fat ∧ fat.length = fatBytes.length ∧
      ∀ k, entry12 fat k = if k < entries.length then (entries.getD k 0).toNat % 4096 else 0 := by
  obtain ⟨fat, hfat⟩ := writeFat12Entries_returns htwo hfits
  have hwritten := writeFat12Entries_spec hfat
  exact ⟨fat, hfat, hwritten.length_eq, hwritten.entry_eq⟩

/-- What is set is read back, next to what was there; and what is written to a table is what
the table holds. -/
theorem fat12_readsBack :
    (∀ (fat : Bytes) (i j : Nat) (value : UInt16), i + i / 2 + 2 ≤ fat.length →
      j + j / 2 + 2 ≤ fat.length → ∃ after, setFat12Entry fat i value = .ok after ∧
        after.length = fat.length ∧
        entry12 after j = if i = j then value.toNat % 4096 else entry12 fat j) ∧
    ∀ (fatBytes : Bytes) (entries : List UInt16), 2 ≤ entries.length →
      (∀ i < entries.length, i + i / 2 + 2 ≤ fatBytes.length) →
      ∃ fat, writeFat12Entries fatBytes entries = .ok fat ∧ fat.length = fatBytes.length ∧
        ∀ k, entry12 fat k = if k < entries.length then (entries.getD k 0).toNat % 4096 else 0 := by
  refine ⟨fun fat i j value hi _ => ?_, fun fatBytes entries => entry12_writeFat12Entries⟩
  have hset : setFat12Entry fat i value = .ok _ := setFat12Entry_eq hi
  obtain ⟨hlength, hself, hother⟩ := entry12_setFat12Entry hset
  refine ⟨_, hset, hlength, ?_⟩
  split
  next heq => rw [← heq, hself]
  next hne => exact hother j (Ne.symm hne)

theorem fat12_readsBack_pair :
    (∃ after, setFat12Entry [1, 2, 3] 0 0xFABC = .ok after ∧ after.length = 3 ∧
      entry12 after 1 = if 0 = 1 then (0xFABC : UInt16).toNat % 4096 else entry12 [1, 2, 3] 1) ∧
    ∃ fat, writeFat12Entries [1, 2, 3] [0xFF8, 0x1ABC] = .ok fat ∧ fat.length = 3 ∧
      ∀ k, entry12 fat k =
        if k < 2 then (([0xFF8, 0x1ABC] : List UInt16).getD k 0).toNat % 4096 else 0 :=
  ⟨fat12_readsBack.1 [1, 2, 3] 0 1 0xFABC (by decide) (by decide),
    fat12_readsBack.2 [1, 2, 3] [0xFF8, 0x1ABC] (by decide) (by decide)⟩

-- ---------------------------------------------------------------------------
-- Linking one chain
-- ---------------------------------------------------------------------------

def linkValue (start count i : Nat) : UInt16 :=
  if i + 1 = count then 0xFFF else UInt16.ofNat (start + i + 1)

theorem linkCluster_ok {start count i : Nat} (hrange : start + count < 2 ^ 31) (hi : i < count) :
    linkCluster ⟨start, count⟩ entries i = .ok after ↔
      start + i < entries.length ∧ (i + 1 = count ∨ start + i + 1 < 2 ^ 16) ∧
        after = overwrite entries (start + i) [linkValue start count i] := by
  have hcluster : int32 ((start : Int) + i) = ((start + i : Nat) : Int) := by
    rw [int32_eq (by omega) (by omega)]
    rfl
  have hnext : int32 (((start + i : Nat) : Int) + 1) = ((start + i + 1 : Nat) : Int) := by
    rw [int32_eq (by omega) (by omega)]
    rfl
  simp only [linkCluster, chainValue, hcluster, hnext, bind_ok, writeAt_ok, List.length_singleton,
    Int.toNat_natCast, linkValue]
  by_cases hlast : i + 1 = count
  · rw [if_pos (by omega), if_pos hlast]
    constructor
    · rintro ⟨value, hvalue, -, hfits, rfl⟩
      obtain rfl := Except.ok.inj hvalue
      exact ⟨by omega, .inl hlast, rfl⟩
    · rintro ⟨hfits, -, rfl⟩
      exact ⟨0xFFF, rfl, by omega, by omega, rfl⟩
  · rw [if_neg (by omega), if_neg hlast]
    constructor
    · rintro ⟨value, hvalue, -, hfits, rfl⟩
      obtain ⟨-, hsmall, rfl⟩ := checkedUShort_ok.mp hvalue
      exact ⟨by omega, .inr (by omega), rfl⟩
    · rintro ⟨hfits, hsmall, rfl⟩
      exact ⟨_, checkedUShort_ok.mpr ⟨by omega, by omega, rfl⟩, by omega, by omega, rfl⟩

structure LinkedUpTo (entries : List UInt16) (start count done : Nat) (after : List UInt16) :
    Prop where
  length_eq : after.length = entries.length
  fits : done = 0 ∨ start + done ≤ entries.length
  entry_eq : ∀ j, after.getD j 0 =
    if start ≤ j ∧ j < start + done then linkValue start count (j - start) else entries.getD j 0

theorem linkedUpTo_succ (h : LinkedUpTo entries start count done state)
    (hfits : start + done < state.length) :
    LinkedUpTo entries start count (done + 1)
      (overwrite state (start + done) [linkValue start count done]) := by
  have hlength := h.length_eq
  refine ⟨?_, .inr (by omega), fun j => ?_⟩
  · rw [length_overwrite (by rw [List.length_singleton]; omega), hlength]
  · rw [getD_overwrite_singleton hfits, h.entry_eq]
    by_cases hj : j = start + done
    · rw [if_pos hj, if_pos (by omega), hj, Nat.add_sub_cancel_left]
    · rw [if_neg hj]
      by_cases hbefore : start ≤ j ∧ j < start + done
      · rw [if_pos hbefore, if_pos (by omega)]
      · rw [if_neg hbefore, if_neg (by omega)]

theorem linkedUpTo_zero : LinkedUpTo entries start count 0 entries :=
  ⟨rfl, .inl rfl, fun _ => by rw [if_neg (by omega)]⟩

theorem linkClusterChain_spec {start count : Nat} (hrange : start + count < 2 ^ 31)
    (h : linkClusterChain entries ⟨start, count⟩ = .ok after) :
    LinkedUpTo entries start count count after := by
  refine foldlM_range_invariant (LinkedUpTo entries start count) linkedUpTo_zero ?_ h
  intro i state next hi hstate hstep
  obtain ⟨hfits, -, rfl⟩ := (linkCluster_ok hrange hi).mp hstep
  exact linkedUpTo_succ hstate hfits

theorem linkClusterChain_returns {start count : Nat} (hrange : start + count < 2 ^ 16)
    (hfits : start + count ≤ entries.length) :
    ∃ after, linkClusterChain entries ⟨start, count⟩ = .ok after := by
  have hstep : ∀ i state, i < count → LinkedUpTo entries start count i state →
      ∃ next, linkCluster ⟨start, count⟩ state i = .ok next ∧
        LinkedUpTo entries start count (i + 1) next := by
    intro i state hi hstate
    have hlength : start + i < state.length := by
      rw [hstate.length_eq]
      omega
    exact ⟨_, (linkCluster_ok (by omega) hi).mpr ⟨hlength, .inr (by omega), rfl⟩,
      linkedUpTo_succ hstate hlength⟩
  obtain ⟨after, hafter, -⟩ := foldlM_range_returns _ linkedUpTo_zero hstep
  exact ⟨after, hafter⟩

end DragonOS.Build
