import Mathlib.Algebra.Order.Ring.Int
import Mathlib.Tactic.Common

/-!
# Machine words

Counted loops over 32-bit counters and the order of signed words.
-/

namespace DragonOS.Lib

/-- The values of `i` in `for (i = 0; i < count; i++)`. -/
def upTo (count : UInt32) : List UInt32 := (List.range count.toNat).map UInt32.ofNat

/-- The values of `i` in `for (i = first; i < last; i++)`. -/
def fromTo (first last : UInt32) : List UInt32 := (upTo (last - first)).map (first + ·)

/-- The values of `i` in `for (i = first; i <= last; i++)`, for a `last` below
the largest signed word. -/
def signedFromTo (first last : Int32) : List Int32 :=
  (List.range (last.toInt - first.toInt + 1).toNat).map fun i : Nat =>
    Int32.ofInt (first.toInt + i)

@[simp] theorem mem_upTo : i ∈ upTo count ↔ i < count := by
  simp only [upTo, List.mem_map, List.mem_range, UInt32.lt_iff_toNat_lt]
  constructor
  · rintro ⟨k, hk, rfl⟩
    rwa [UInt32.toNat_ofNat_of_lt' (by have := count.toNat_lt; rw [UInt32.size]; omega)]
  · exact fun h => ⟨i.toNat, h, UInt32.ofNat_toNat⟩

theorem mem_fromTo (h : first ≤ last) : i ∈ fromTo first last ↔ first ≤ i ∧ i < last := by
  simp only [fromTo, List.mem_map, mem_upTo]
  constructor
  · rintro ⟨k, hk, rfl⟩
    simp only [UInt32.le_iff_toNat_le, UInt32.lt_iff_toNat_lt, UInt32.toNat_sub_of_le _ _ h,
      UInt32.toNat_add] at *
    have := last.toNat_lt
    omega
  · rintro ⟨hf, hl⟩
    refine ⟨i - first, ?_, ?_⟩
    · simp only [UInt32.le_iff_toNat_le, UInt32.lt_iff_toNat_lt, UInt32.toNat_sub_of_le _ _ h,
        UInt32.toNat_sub_of_le _ _ hf] at *
      omega
    · rw [UInt32.add_comm, UInt32.sub_add_cancel]

theorem toNat_add_of_lt {a b : UInt32} (h : a.toNat + b.toNat < 2 ^ 32) :
    (a + b).toNat = a.toNat + b.toNat := by
  rw [UInt32.toNat_add, Nat.mod_eq_of_lt h]

theorem toNat_mul_of_lt {a b : UInt32} (h : a.toNat * b.toNat < 2 ^ 32) :
    (a * b).toNat = a.toNat * b.toNat := by
  rw [UInt32.toNat_mul, Nat.mod_eq_of_lt h]

theorem toNat_sub_of_ge {a b : UInt32} (h : b.toNat ≤ a.toNat) :
    (a - b).toNat = a.toNat - b.toNat :=
  UInt32.toNat_sub_of_le _ _ (UInt32.le_iff_toNat_le.mpr h)

theorem toNat_shiftRight_one (a : UInt32) : (a >>> 1).toNat = a.toNat / 2 := by
  simp [Nat.shiftRight_eq_div_pow]

theorem toNat_shiftLeft_one {a : UInt32} (h : a.toNat < 2 ^ 31) :
    (a <<< 1).toNat = 2 * a.toNat := by
  simp [Nat.shiftLeft_eq]
  omega

theorem toNat_and_not_seven (a : UInt32) : (a &&& ~~~7).toNat = a.toNat / 8 * 8 := by
  have hmask : (~~~7 : UInt32).toNat = (2 ^ 29 - 1) <<< 3 := by decide
  have hround : a.toNat / 8 * 8 = (a.toNat >>> 3) <<< 3 := by
    rw [Nat.shiftLeft_eq, Nat.shiftRight_eq_div_pow]
  rw [UInt32.toNat_and, hmask, hround]
  apply Nat.eq_of_testBit_eq
  intro i
  rw [Nat.testBit_and, Nat.testBit_shiftLeft, Nat.testBit_shiftLeft, Nat.testBit_two_pow_sub_one,
    Nat.testBit_shiftRight]
  by_cases hlow : 3 ≤ i
  · rw [show 3 + (i - 3) = i by omega]
    by_cases hhigh : i < 32
    · simp [hlow]
      omega
    · have hbit : a.toNat.testBit i = false :=
        Nat.testBit_lt_two_pow (Nat.lt_of_lt_of_le a.toNat_lt
          (Nat.pow_le_pow_right (by decide) (by omega)))
      simp [hbit]
  · simp [hlow]

theorem toNat_ite_gt (value limit : UInt32) :
    (if value > limit then limit else value).toNat = min value.toNat limit.toNat := by
  split <;> simp only [gt_iff_lt, UInt32.lt_iff_toNat_lt] at * <;> omega

theorem toNat_add_le (a b : UInt32) : (a + b).toNat ≤ a.toNat + b.toNat := by
  rw [UInt32.toNat_add]; exact Nat.mod_le _ _

theorem toNat_mul_le (a b : UInt32) : (a * b).toNat ≤ a.toNat * b.toNat := by
  rw [UInt32.toNat_mul]; exact Nat.mod_le _ _

-- ---------------------------------------------------------------------------
-- Signed words
-- ---------------------------------------------------------------------------

theorem toInt_toInt32 (x : UInt32) :
    x.toInt32.toInt = if x.toNat < 2 ^ 31 then (x.toNat : Int) else x.toNat - 2 ^ 32 := by
  rw [← UInt32.toNat_toBitVec]
  show x.toBitVec.toInt = _
  rw [BitVec.toInt_eq_toNat_cond]
  split <;> split <;> omega

theorem toNat_toUInt32 (x : Int32) :
    (x.toUInt32.toNat : Int) = if x.toInt < 0 then x.toInt + 2 ^ 32 else x.toInt := by
  have h := toInt_toInt32 x.toUInt32
  rw [Int32.toInt32_toUInt32] at h
  have := x.toUInt32.toNat_lt
  split at h <;> split <;> omega

theorem toInt_toInt64_toUInt64 (x : UInt32) : x.toUInt64.toInt64.toInt = x.toNat := by
  have hint : x.toUInt64.toInt64.toInt = x.toUInt64.toBitVec.toInt := rfl
  have hnat : x.toUInt64.toBitVec.toNat = x.toNat := by simp
  have := x.toNat_lt
  rw [hint, BitVec.toInt_eq_toNat_cond, hnat, if_pos (by omega)]

theorem toInt_toInt8 (low : UInt8) :
    low.toInt8.toInt = if low.toNat < 128 then (low.toNat : Int) else low.toNat - 256 := by
  have hint : low.toInt8.toInt = low.toBitVec.toInt := rfl
  have hnat : low.toBitVec.toNat = low.toNat := rfl
  rw [hint, BitVec.toInt_eq_toNat_cond, hnat]
  split <;> split <;> omega

theorem toInt_toInt8_bounds (low : UInt8) : -128 ≤ low.toInt8.toInt ∧ low.toInt8.toInt ≤ 127 := by
  have := low.toNat_lt
  rw [toInt_toInt8]
  split <;> omega

/-- A signed sum is off by at most one turn of the word. -/
theorem toInt_add_cases (x y : Int32) :
    (x + y).toInt = x.toInt + y.toInt ∨ (x + y).toInt = x.toInt + y.toInt - 2 ^ 32 ∨
      (x + y).toInt = x.toInt + y.toInt + 2 ^ 32 := by
  have := x.toInt_lt
  have := x.le_toInt
  have := y.toInt_lt
  have := y.le_toInt
  rw [Int32.toInt_add, Int.bmod_def]
  split <;> omega

section
variable {x : Int32} {step width : UInt32}

/-- A position that passes a signed check against both ends of an axis is on
that axis. An axis too long for a signed word lets nothing pass. -/
theorem lt_of_shown (h : ¬ (x + step.toInt32 < 0 ∨ x + step.toInt32 ≥ width.toInt32)) :
    (x + step.toInt32).toUInt32 < width := by
  simp only [not_or, Int32.lt_iff_toInt_lt, ge_iff_le, Int32.le_iff_toInt_le,
    UInt32.lt_iff_toNat_lt, Int32.toInt_zero] at *
  have := toNat_toUInt32 (x + step.toInt32)
  have := toInt_toInt32 width
  split at * <;> omega

/-- Such a position is the exact sum, also when the step is only known modulo
the word size. -/
theorem toNat_of_shown {exact : Nat} (hstep : step.toNat = exact % 2 ^ 32)
    (hfit : x.toInt + exact < 2 ^ 32) (h : ¬ (x + step.toInt32 < 0 ∨ x + step.toInt32 ≥ width.toInt32)) :
    ((x + step.toInt32).toUInt32.toNat : Int) = x.toInt + exact := by
  simp only [not_or, Int32.lt_iff_toInt_lt, Int32.toInt_zero] at h
  have hposition := toNat_toUInt32 (x + step.toInt32)
  rw [if_neg h.1] at hposition
  have hcolumn := toInt_toInt32 step
  have := toInt_add_cases x step.toInt32
  have := x.toInt_lt
  have := x.le_toInt
  have := (x + step.toInt32).toInt_lt
  split at hcolumn <;> omega

end

end DragonOS.Lib
