import DragonOS.Lib.Words
import Mathlib.Data.List.Nodup

/-!
# Loops that count in steps

`upTo` and `fromTo` list the values a counter takes. They can be split at any
value (`upTo_append_fromTo`) and into blocks of one length (`upTo_blocks`).
`countLoop` runs a loop the way the machine does, with a counter that wraps. A
bound that the steps meet exactly is reached before the counter can wrap
(`countLoop_eq`).
-/

namespace DragonOS.Lib

-- ---------------------------------------------------------------------------
-- Splitting a range
-- ---------------------------------------------------------------------------

theorem nodup_upTo (count : UInt32) : (upTo count).Nodup := by
  refine List.Nodup.map_on (fun first hfirst second hsecond h => ?_) List.nodup_range
  have hcount := count.toNat_lt
  rw [List.mem_range] at hfirst hsecond
  have hwords := congrArg UInt32.toNat h
  rwa [UInt32.toNat_ofNat_of_lt' (by rw [UInt32.size]; omega),
    UInt32.toNat_ofNat_of_lt' (by rw [UInt32.size]; omega)] at hwords

theorem upTo_append_fromTo (h : first ≤ last) : upTo first ++ fromTo first last = upTo last := by
  have hle := UInt32.le_iff_toNat_le.mp h
  have hlast : last.toNat = first.toNat + (last - first).toNat := by
    rw [UInt32.toNat_sub_of_le _ _ h]
    omega
  rw [fromTo, upTo, upTo, upTo, hlast, List.range_add, List.map_append, List.map_map, List.map_map]
  congr 1
  refine List.map_congr_left fun k _ => ?_
  simp [UInt32.ofNat_add]

theorem range_blocks (m n : Nat) :
    ((List.range n).flatMap fun block => (List.range m).map (m * block + ·)) =
      List.range (m * n) := by
  induction n with
  | zero => rfl
  | succ n ih =>
    rw [List.range_succ, List.flatMap_append, ih, Nat.mul_add_one, List.range_add]
    simp

/-- A range whose length is a multiple of `m` is its blocks of `m` values. -/
theorem upTo_blocks (m last : UInt32) (h : m.toNat ∣ last.toNat) :
    ((upTo (last / m)).flatMap fun block => (upTo m).map (m * block + ·)) = upTo last := by
  rw [upTo, upTo, upTo, UInt32.toNat_div]
  conv_rhs => rw [← Nat.mul_div_cancel' h, ← range_blocks]
  rw [List.flatMap_map, List.map_flatMap]
  refine List.flatMap_congr fun block _ => ?_
  rw [List.map_map, List.map_map]
  refine List.map_congr_left fun k _ => ?_
  simp [UInt32.ofNat_add, UInt32.ofNat_mul]

-- ---------------------------------------------------------------------------
-- The machine's counter
-- ---------------------------------------------------------------------------

/-- The values of `i` in `for (; i < last; i += step)`, and the value it has
after the loop; `none` when `fuel` tests of the condition are too few. -/
def countLoop (step last : UInt32) : (fuel : Nat) → UInt32 → Option (List UInt32 × UInt32)
  | 0, _ => none
  | fuel + 1, i =>
    if i < last then (countLoop step last fuel (i + step)).map (Prod.map (i :: ·) id)
    else some ([], i)

/-- When `turns` steps lead to the bound exactly, the loop makes that many and
the counter is exact in each of them. -/
theorem countLoop_eq (step first last : UInt32) (turns fuel : Nat) (hstep : 0 < step.toNat)
    (hlast : first.toNat + step.toNat * turns = last.toNat) (hfuel : turns < fuel) :
    countLoop step last fuel first =
      some ((List.range turns).map fun turn => UInt32.ofNat (first.toNat + step.toNat * turn),
        last) := by
  induction turns generalizing first fuel with
  | zero =>
    obtain ⟨fuel, rfl⟩ : ∃ k, fuel = k + 1 := ⟨fuel - 1, by omega⟩
    obtain rfl : first = last := UInt32.toNat_inj.mp (by simpa using hlast)
    simp [countLoop]
  | succ turns ih =>
    obtain ⟨fuel, rfl⟩ : ∃ k, fuel = k + 1 := ⟨fuel - 1, by omega⟩
    rw [Nat.mul_add_one] at hlast
    have hbound := last.toNat_lt
    have hnext : (first + step).toNat = first.toNat + step.toNat := toNat_add_of_lt (by omega)
    have hlt : first < last := by
      rw [UInt32.lt_iff_toNat_lt]
      omega
    rw [countLoop, if_pos hlt, ih (first + step) fuel (by omega) (by omega), hnext, List.range_succ_eq_map]
    simp only [Option.map_some, Prod.map_apply, id_eq, List.map_cons, List.map_map, Nat.mul_zero,
      Nat.add_zero, UInt32.ofNat_toNat, Option.some.injEq, Prod.mk.injEq, List.cons.injEq, true_and,
      and_true]
    refine List.map_congr_left fun turn _ => ?_
    rw [Function.comp_apply, Nat.mul_succ]
    congr 1
    omega

theorem countLoop_one (fuel : Nat) (h : first ≤ last) (hfuel : last.toNat - first.toNat < fuel) :
    countLoop 1 last fuel first = some (fromTo first last, last) := by
  have hle := UInt32.le_iff_toNat_le.mp h
  have hsteps : first.toNat + UInt32.toNat 1 * (last.toNat - first.toNat) = last.toNat := by
    rw [UInt32.toNat_one]
    omega
  rw [countLoop_eq 1 first last _ fuel (by decide) hsteps hfuel, fromTo, upTo, UInt32.toNat_sub_of_le _ _ h, List.map_map]
  simp [Function.comp_def, UInt32.ofNat_add]

end DragonOS.Lib
