import DragonOS.Boot.Transfer

/-!
# Copying forward

`transferLoops` is the body of `FillPixels32` and `CopyPixels32` with the
machine's own counters: enough turns give the effects of `transferPixels32`, so
no index wraps. Pairs exist only when both word addresses are even. Then the
distance of the ranges is even, a pair never reads its second word where it
wrote its first, and copying by pairs is copying word by word, however the
ranges overlap.
-/

namespace DragonOS.Boot

open Lib

-- ---------------------------------------------------------------------------
-- The loops with their counters
-- ---------------------------------------------------------------------------

/-- `none` when `fuel` turns are not enough for one of the loops. -/
def transferLoops (aligned : Prop) [Decidable aligned] (pair single : UInt32 → Effect UInt32 Remark)
    (fuel : Nat) (count : UInt32) : Option Draw :=
  if aligned then do
    let pairCount := count >>> 1
    let bulkPairCount := pairCount &&& ~~~7
    let (bulk, pairIndex) ← countLoop 8 bulkPairCount fuel 0
    let (pairs, _) ← countLoop 1 pairCount fuel pairIndex
    let (singles, _) ← countLoop 1 count fuel (pairCount <<< 1)
    some ((bulk.flatMap fun pairIndex => (upTo 8).map fun k => pair (pairIndex + k)) ++
      pairs.map pair ++ singles.map single)
  else do
    let (singles, _) ← countLoop 1 count fuel 0
    some (singles.map single)

def fillLoops (destination : Nat) (fuel : Nat) (count color : UInt32) : Option Draw :=
  transferLoops (destination % 2 = 0)
    (fun pairIndex => .storePair (destination + 2 * pairIndex.toNat) color)
    (fun index => .store (destination + index.toNat) color) fuel count

def copyLoops (destination source : Nat) (fuel : Nat) (count : UInt32) : Option Draw :=
  transferLoops (destination % 2 = 0 ∧ source % 2 = 0)
    (fun pairIndex =>
      .copyPair (destination + 2 * pairIndex.toNat) (source + 2 * pairIndex.toNat))
    (fun index => .copy (destination + index.toNat) (source + index.toNat)) fuel count

section
variable {aligned : Prop} [Decidable aligned] {pair single : UInt32 → Effect UInt32 Remark}
  {count : UInt32}

/-- The loops return, and no counter wraps on the way. -/
theorem transferLoops_eq (hfuel : count.toNat < fuel) :
    transferLoops aligned pair single fuel count =
      some (transferPixels32 aligned pair single count) := by
  obtain ⟨hbulk, htail⟩ := pairCount_bounds count
  have hpairs := toNat_shiftRight_one count
  unfold transferLoops transferPixels32
  split
  · have height := toNat_and_not_seven (count >>> 1)
    have hfirst := countLoop_eq 8 0 ((count >>> 1) &&& ~~~7) ((count >>> 1).toNat / 8) fuel
      (by decide)
      (by rw [height]; simp [Nat.mul_comm]) (by omega)
    have hturns : (((count >>> 1) &&& ~~~7) / 8).toNat = (count >>> 1).toNat / 8 := by
      rw [UInt32.toNat_div, height]
      exact Nat.mul_div_cancel _ (by decide)
    simp only [hfirst, countLoop_one fuel hbulk (by omega),
      countLoop_one fuel htail (by omega), Option.bind_eq_bind, Option.bind_some, upTo,
      hturns, List.flatMap_map]
    simp [UInt32.ofNat_mul]
  · have hplain := countLoop_one fuel (UInt32.zero_le : 0 ≤ count) (by simpa using hfuel)
    simp [hplain, fromTo]

-- ---------------------------------------------------------------------------
-- Pairs as two words
-- ---------------------------------------------------------------------------

theorem applyAll_map_pairs {indices : List UInt32}
    (h : ∀ index ∈ indices, ∀ memory, (pair index).apply memory =
      (single (2 * index + 1)).apply ((single (2 * index)).apply memory))
    (memory : Memory UInt32) :
    applyAll (indices.map pair) memory =
      applyAll ((indices.flatMap fun index => (upTo 2).map (2 * index + ·)).map single) memory := by
  induction indices generalizing memory with
  | nil => rfl
  | cons index indices ih =>
    have htwo : (upTo 2).map (2 * index + ·) = [2 * index, 2 * index + 1] := by
      rw [show upTo 2 = [0, 1] from rfl]
      simp
    rw [List.map_cons, applyAll_cons, h index (by simp),
      ih fun i hi => h i (List.mem_cons_of_mem _ hi), List.flatMap_cons, htwo]
    rfl

theorem applyAll_transferPixels32
    (h : aligned → ∀ index < count >>> 1, ∀ memory, (pair index).apply memory =
      (single (2 * index + 1)).apply ((single (2 * index)).apply memory))
    (memory : Memory UInt32) :
    applyAll (transferPixels32 aligned pair single count) memory =
      applyAll ((upTo count).map single) memory := by
  by_cases haligned : aligned
  · obtain ⟨-, htail⟩ := pairCount_bounds count
    have hpairs := toNat_shiftRight_one count
    have hcount := count.toNat_lt
    have hdouble := toNat_shiftLeft_one (a := count >>> 1) (by omega)
    have hhalf : ((count >>> 1) <<< 1) / (2 : UInt32) = count >>> 1 := by
      rw [← UInt32.toNat_inj, UInt32.toNat_div, hdouble]
      exact Nat.mul_div_cancel_left _ (by decide)
    have hblocks := upTo_blocks 2 ((count >>> 1) <<< 1)
      (by rw [hdouble]; exact Nat.dvd_mul_right _ _)
    rw [hhalf] at hblocks
    rw [transferPixels32_aligned haligned, applyAll_append,
      applyAll_map_pairs (fun index hi => h haligned index (mem_upTo.mp hi)), hblocks,
      ← applyAll_append, ← List.map_append, upTo_append_fromTo htail]
  · rw [transferPixels32, if_neg haligned]

end

-- ---------------------------------------------------------------------------
-- The plain loops
-- ---------------------------------------------------------------------------

def forwardCopy (destination source count : Nat) : Draw :=
  (List.range count).map fun index => .copy (destination + index) (source + index)

theorem applyAll_copyPixels32_forward (destination source : Nat) (count : UInt32)
    (memory : Memory UInt32) :
    applyAll (copyPixels32 destination source count) memory =
      applyAll (forwardCopy destination source count.toNat) memory := by
  have hplain : (upTo count).map (fun index =>
      (.copy (destination + index.toNat) (source + index.toNat) : Effect UInt32 Remark)) =
        forwardCopy destination source count.toNat := by
    rw [upTo, List.map_map, forwardCopy]
    refine List.map_congr_left fun index hindex => ?_
    have := count.toNat_lt
    rw [List.mem_range] at hindex
    rw [Function.comp_apply, UInt32.toNat_ofNat_of_lt' (by rw [UInt32.size]; omega)]
  rw [copyPixels32, applyAll_transferPixels32, hplain]
  intro haligned index hindex m
  obtain ⟨hdestination, hsource⟩ := haligned
  have hbound := two_mul_lt_of_lt_half hindex
  have := count.toNat_lt
  have heven : (2 * index).toNat = 2 * index.toNat := toNat_mul_of_lt (by
    simp only [UInt32.reduceToNat]; omega)
  have hodd : (2 * index + 1).toNat = 2 * index.toNat + 1 := by
    rw [toNat_add_of_lt (by simp only [UInt32.reduceToNat]; omega), heven, UInt32.toNat_one]
  -- The distance of the addresses is even, so it is not one.
  rw [Effect.apply_copyPair (by omega), heven, hodd]
  rfl

/-- Both operations are the plain loops, for every count, alignment and overlap. -/
theorem transfer_eq_plain (destination source fuel : Nat) (count color : UInt32)
    (hfuel : count.toNat < fuel) :
    fillLoops destination fuel count color = some (fillPixels32 destination count color) ∧
    copyLoops destination source fuel count = some (copyPixels32 destination source count) ∧
    ∀ memory : Memory UInt32,
      applyAll (copyPixels32 destination source count) memory =
        applyAll (forwardCopy destination source count.toNat) memory ∧
      ∀ a, applyAll (fillPixels32 destination count color) memory a =
        if destination ≤ a ∧ a < destination + count.toNat then color else memory a :=
  ⟨transferLoops_eq hfuel, transferLoops_eq hfuel, fun memory =>
    ⟨applyAll_copyPixels32_forward destination source count memory,
      fun _ => applyAll_fillPixels32 memory⟩⟩

/-- Twenty-one words moved up by two, onto themselves. -/
theorem transfer_eq_plain_overlapping :
    fillLoops 4 22 21 7 = some (fillPixels32 4 21 7) ∧
    copyLoops 4 2 22 21 = some (copyPixels32 4 2 21) ∧
    ∀ memory : Memory UInt32,
      applyAll (copyPixels32 4 2 21) memory = applyAll (forwardCopy 4 2 21) memory ∧
      ∀ a, applyAll (fillPixels32 4 21 7) memory a =
        if 4 ≤ a ∧ a < 4 + 21 then 7 else memory a :=
  transfer_eq_plain 4 2 22 21 7 (by decide)

end DragonOS.Boot
