import DragonOS.Boot.Drawing
import DragonOS.Lib.Loops

/-!
# Filling and copying words

What `fillPixels32` and `copyPixels32` do to memory, whether or not the
pointers allow pairs. Both rest on two facts about the shared loops: every
effect is a single or a pair inside the range (`mem_transferPixels32`), and
every word of the range is handled (`transferPixels32_covers`).
-/

namespace DragonOS.Boot

open Lib

section
variable {aligned : Prop} [Decidable aligned] {pair single : UInt32 → Effect UInt32 Remark}

theorem pairCount_bounds (count : UInt32) :
    (count >>> 1) &&& (~~~7 : UInt32) ≤ count >>> 1 ∧ (count >>> 1) <<< 1 ≤ count := by
  have := count.toNat_lt
  rw [UInt32.le_iff_toNat_le, UInt32.le_iff_toNat_le,
    toNat_shiftLeft_one (by rw [toNat_shiftRight_one]; omega), toNat_and_not_seven,
    toNat_shiftRight_one]
  omega

/-- The turns of eight pairs and the pairs left over are all the pairs. -/
theorem transferPixels32_aligned (h : aligned) :
    transferPixels32 aligned pair single count =
      (upTo (count >>> 1)).map pair ++ (fromTo ((count >>> 1) <<< 1) count).map single := by
  obtain ⟨hbulk, -⟩ := pairCount_bounds count
  have hblocks := upTo_blocks 8 ((count >>> 1) &&& ~~~7)
    (by rw [toNat_and_not_seven]; exact Nat.dvd_mul_left _ _)
  rw [transferPixels32, if_pos h, ← upTo_append_fromTo hbulk, List.map_append, ← hblocks,
    List.map_flatMap]
  simp only [List.map_map, Function.comp_def]

theorem mem_transferPixels32 (h : effect ∈ transferPixels32 aligned pair single count) :
    (∃ index, index < count ∧ effect = single index) ∨
      (∃ index, index < count >>> 1 ∧ effect = pair index) := by
  obtain ⟨-, htail⟩ := pairCount_bounds count
  by_cases haligned : aligned
  · simp only [transferPixels32_aligned haligned, List.mem_append, List.mem_map, mem_upTo,
      mem_fromTo htail] at h
    rcases h with ⟨index, hindex, rfl⟩ | ⟨index, ⟨-, hindex⟩, rfl⟩
    · exact .inr ⟨index, hindex, rfl⟩
    · exact .inl ⟨index, hindex, rfl⟩
  · simp only [transferPixels32, if_neg haligned, List.mem_map, mem_upTo] at h
    obtain ⟨index, hindex, rfl⟩ := h
    exact .inl ⟨index, hindex, rfl⟩

theorem transferPixels32_covers (aligned : Prop) [Decidable aligned]
    (pair single : UInt32 → Effect UInt32 Remark) (hk : k < count.toNat) :
    (∃ index, index.toNat = k ∧ single index ∈ transferPixels32 aligned pair single count) ∨
      (∃ index, (2 * index.toNat = k ∨ 2 * index.toNat + 1 = k) ∧
        pair index ∈ transferPixels32 aligned pair single count) := by
  obtain ⟨-, htail⟩ := pairCount_bounds count
  have hcount := count.toNat_lt
  have hword : ∀ n, n < 2 ^ 32 → (UInt32.ofNat n).toNat = n := fun n hn =>
    UInt32.toNat_ofNat_of_lt' hn
  by_cases haligned : aligned
  · rw [transferPixels32_aligned haligned]
    by_cases hpair : k / 2 < (count >>> 1).toNat
    · refine .inr ⟨UInt32.ofNat (k / 2), by rw [hword _ (by omega)]; omega, ?_⟩
      refine List.mem_append_left _ (List.mem_map_of_mem ?_)
      rw [mem_upTo, UInt32.lt_iff_toNat_lt, hword _ (by omega)]
      exact hpair
    · refine .inl ⟨UInt32.ofNat k, hword _ (by omega), ?_⟩
      refine List.mem_append_right _ (List.mem_map_of_mem ?_)
      rw [mem_fromTo htail, UInt32.le_iff_toNat_le, UInt32.lt_iff_toNat_lt, hword _ (by omega),
        toNat_shiftLeft_one (by rw [toNat_shiftRight_one]; omega)]
      omega
  · refine .inl ⟨UInt32.ofNat k, hword _ (by omega), ?_⟩
    rw [transferPixels32, if_neg haligned]
    refine List.mem_map_of_mem ?_
    rw [mem_upTo, UInt32.lt_iff_toNat_lt, hword _ (by omega)]
    exact hk

theorem two_mul_lt_of_lt_half {index count : UInt32} (h : index < count >>> 1) :
    2 * index.toNat + 1 < count.toNat := by
  rw [UInt32.lt_iff_toNat_lt, toNat_shiftRight_one] at h
  omega

theorem mem_written_transferPixels32
    (hsingle : ∀ index, (single index).writes = [destination + index.toNat])
    (hpair : ∀ index, (pair index).writes =
      [destination + 2 * index.toNat, destination + 2 * index.toNat + 1]) :
    a ∈ written (transferPixels32 aligned pair single count) ↔
      destination ≤ a ∧ a < destination + count.toNat := by
  rw [mem_written]
  constructor
  · rintro ⟨effect, he, ha⟩
    rcases mem_transferPixels32 he with ⟨index, hindex, rfl⟩ | ⟨index, hindex, rfl⟩
    · rw [hsingle, List.mem_singleton] at ha
      rw [UInt32.lt_iff_toNat_lt] at hindex
      omega
    · have := two_mul_lt_of_lt_half hindex
      rw [hpair, List.mem_cons, List.mem_singleton] at ha
      omega
  · rintro ⟨hd, ha⟩
    have hk : a - destination < count.toNat := by omega
    rcases transferPixels32_covers aligned pair single hk with
      ⟨index, hindex, hmem⟩ | ⟨index, hindex, hmem⟩
    · refine ⟨_, hmem, ?_⟩
      rw [hsingle, List.mem_singleton]
      omega
    · refine ⟨_, hmem, ?_⟩
      rw [hpair, List.mem_cons, List.mem_singleton]
      omega

end

-- ---------------------------------------------------------------------------
-- Filling
-- ---------------------------------------------------------------------------

theorem mem_fillPixels32 (h : effect ∈ fillPixels32 destination count color) :
    (∃ k < count.toNat, effect = .store (destination + k) color) ∨
      (∃ k, k + 1 < count.toNat ∧ effect = .storePair (destination + k) color) := by
  rcases mem_transferPixels32 h with ⟨index, hindex, rfl⟩ | ⟨index, hindex, rfl⟩
  · exact .inl ⟨_, UInt32.lt_iff_toNat_lt.mp hindex, rfl⟩
  · exact .inr ⟨_, two_mul_lt_of_lt_half hindex, rfl⟩

theorem mem_written_fillPixels32 :
    a ∈ written (fillPixels32 destination count color) ↔
      destination ≤ a ∧ a < destination + count.toNat :=
  mem_written_transferPixels32 (fun _ => rfl) (fun _ => rfl)

theorem applyAll_fillPixels32 (memory : Memory UInt32) :
    applyAll (fillPixels32 destination count color) memory a =
      if destination ≤ a ∧ a < destination + count.toNat then color else memory a := by
  rw [applyAll_yields memory (fun _ => color) (fun _ => True) (fun _ _ => trivial) ?_ (fun _ _ => rfl)]
  · simp only [mem_written_fillPixels32]
  · intro effect he
    rcases mem_fillPixels32 he with ⟨k, hk, rfl⟩ | ⟨k, hk, rfl⟩
    · exact Effect.yields_store rfl
    · exact Effect.yields_storePair rfl rfl

-- ---------------------------------------------------------------------------
-- Copying
-- ---------------------------------------------------------------------------

theorem mem_copyPixels32 (h : effect ∈ copyPixels32 destination source count) :
    (∃ k < count.toNat, effect = .copy (destination + k) (source + k)) ∨
      (∃ k, k + 1 < count.toNat ∧ effect = .copyPair (destination + k) (source + k)) := by
  rcases mem_transferPixels32 h with ⟨index, hindex, rfl⟩ | ⟨index, hindex, rfl⟩
  · exact .inl ⟨_, UInt32.lt_iff_toNat_lt.mp hindex, rfl⟩
  · exact .inr ⟨_, two_mul_lt_of_lt_half hindex, rfl⟩

theorem mem_written_copyPixels32 :
    a ∈ written (copyPixels32 destination source count) ↔
      destination ≤ a ∧ a < destination + count.toNat :=
  mem_written_transferPixels32 (fun _ => rfl) (fun _ => rfl)

/-- A copy whose writes stay in `W` and whose reads stay out of it writes what
the source held at first. -/
theorem copyPixels32_yields {memory target : Memory UInt32} {W : Nat → Prop}
    (hs : ∀ k < count.toNat, ¬ W (source + k))
    (ht : ∀ k < count.toNat, target (destination + k) = memory (source + k))
    (h : effect ∈ copyPixels32 destination source count) : effect.Yields memory W target := by
  rcases mem_copyPixels32 h with ⟨k, hk, rfl⟩ | ⟨k, hk, rfl⟩
  · exact Effect.yields_copy (hs k hk) (ht k hk)
  · exact Effect.yields_copyPair (hs k (by omega)) (hs (k + 1) hk) (ht k (by omega)) (ht (k + 1) hk)

theorem applyAll_copyPixels32 (memory : Memory UInt32)
    (hdisjoint : destination + count.toNat ≤ source ∨ source + count.toNat ≤ destination) :
    applyAll (copyPixels32 destination source count) memory a =
      if destination ≤ a ∧ a < destination + count.toNat then memory (source + (a - destination))
      else memory a := by
  rw [applyAll_yields memory (fun a => memory (source + (a - destination)))
    (fun a => destination ≤ a ∧ a < destination + count.toNat) (fun a ha => mem_written_copyPixels32.mp ha) ?_ (fun _ _ => rfl)]
  · simp only [mem_written_copyPixels32]
  · intro effect he
    refine copyPixels32_yields (fun k hk => by omega) (fun k hk => ?_) he
    rw [Nat.add_sub_cancel_left]

theorem apply_copyPixels32_self (h : effect ∈ copyPixels32 destination destination count)
    (memory : Memory UInt32) : effect.apply memory = memory := by
  rcases mem_copyPixels32 h with ⟨k, hk, rfl⟩ | ⟨k, hk, rfl⟩ <;> simp [Effect.apply]

end DragonOS.Boot
