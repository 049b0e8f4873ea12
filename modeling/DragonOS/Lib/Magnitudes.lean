import Mathlib.Algebra.Order.Ring.Int
import Mathlib.Tactic.Common

/-!
# Functions of the magnitude

A signed computation that treats a number and its negative alike keeps the sign
and changes the magnitude: it is `signed f` for a function `f` on the naturals.
Such computations compose like the functions on the magnitude do
(`signed_signed`), and none of them turns the sign around (`sign_signed`).
-/

namespace DragonOS.Lib

/-- The number whose magnitude is `f` of the magnitude, with the same sign. -/
def signed (f : Nat → Nat) (n : Int) : Int := n.sign * f n.natAbs

section
variable {f g : Nat → Nat} {n : Int}

@[simp] theorem signed_zero (f : Nat → Nat) : signed f 0 = 0 := by simp [signed]

theorem signed_of_nonneg (h : 0 ≤ n) (hf : f 0 = 0) : signed f n = f n.natAbs := by
  rcases Int.lt_or_eq_of_le h with hpos | rfl
  · rw [signed, Int.sign_eq_one_of_pos hpos, Int.one_mul]
  · simp [hf]

theorem signed_of_neg (h : n < 0) : signed f n = -(f n.natAbs : Int) := by
  rw [signed, Int.sign_eq_neg_one_of_neg h, Int.neg_one_mul]

theorem natAbs_signed (hf : f 0 = 0) : (signed f n).natAbs = f n.natAbs := by
  rcases lt_or_ge n 0 with hneg | hnonneg
  · rw [signed_of_neg hneg, Int.natAbs_neg, Int.natAbs_natCast]
  · rw [signed_of_nonneg hnonneg hf, Int.natAbs_natCast]

theorem signed_eq_zero_iff : signed f n = 0 ↔ n = 0 ∨ f n.natAbs = 0 := by
  rw [signed, Int.mul_eq_zero, Int.sign_eq_zero_iff_zero, Int.natCast_eq_zero]

theorem sign_signed : (signed f n).sign = n.sign ∨ signed f n = 0 := by
  by_cases hvanish : f n.natAbs = 0
  · exact .inr (signed_eq_zero_iff.mpr (.inr hvanish))
  · refine .inl ?_
    rw [signed, Int.sign_mul, Int.sign_natCast_of_ne_zero hvanish, Int.mul_one, Int.sign_sign]

theorem signed_signed (hg : g 0 = 0) : signed g (signed f n) = signed (fun m => g (f m)) n := by
  by_cases hzero : n = 0
  · simp [hzero]
  by_cases hvanish : f n.natAbs = 0
  · rw [signed_eq_zero_iff.mpr (.inr hvanish), signed_zero, signed, hvanish, hg, Int.natCast_zero,
      Int.mul_zero]
  · have hsign : (signed f n).sign = n.sign :=
      sign_signed.resolve_right fun h => (signed_eq_zero_iff.mp h).elim hzero hvanish
    have hnatAbs : (signed f n).natAbs = f n.natAbs := by
      rw [signed, Int.natAbs_mul, Int.natAbs_sign_of_ne_zero hzero, Nat.one_mul,
        Int.natAbs_natCast]
    rw [signed, hsign, hnatAbs, signed]

theorem signed_neg : signed f (-n) = -signed f n := by
  rw [signed, signed, Int.sign_neg, Int.natAbs_neg, Int.neg_mul]

theorem signed_le_signed (hf : Monotone f) {m : Int} (h : m ≤ n) : signed f m ≤ signed f n := by
  rcases lt_or_ge m 0 with hm | hm
  · rw [signed_of_neg hm]
    rcases lt_or_ge n 0 with hn | hn
    · rw [signed_of_neg hn]
      have hmagnitude : f n.natAbs ≤ f m.natAbs := hf (by omega)
      omega
    · have hsign : 0 ≤ signed f n :=
        Int.mul_nonneg (Int.sign_nonneg_iff.mpr hn) (Int.natCast_nonneg _)
      omega
  · rcases Int.lt_or_eq_of_le hm with hpos | rfl
    · rw [signed, signed, Int.sign_eq_one_of_pos hpos,
        Int.sign_eq_one_of_pos (Int.lt_of_lt_of_le hpos h), Int.one_mul, Int.one_mul]
      exact Int.ofNat_le.mpr (hf (by omega))
    · rw [signed_zero]
      exact Int.mul_nonneg (Int.sign_nonneg_iff.mpr h) (Int.natCast_nonneg _)

theorem tdiv_eq_signed (n : Int) (k : Nat) : n.tdiv k = signed (· / k) n := by
  rcases lt_or_ge n 0 with hneg | hnonneg
  · rw [signed_of_neg hneg]
    have hmagnitude : n = -(n.natAbs : Int) := by omega
    conv_lhs => rw [hmagnitude, Int.neg_tdiv]
    rfl
  · rw [signed_of_nonneg hnonneg (Nat.zero_div k)]
    have hmagnitude : n = (n.natAbs : Int) := by omega
    conv_lhs => rw [hmagnitude]
    rfl

theorem mul_eq_signed (n : Int) (k : Nat) : n * k = signed (· * k) n := by
  rw [signed, Int.natCast_mul, ← Int.mul_assoc, Int.sign_mul_natAbs]

theorem clamp_eq_signed (n : Int) (k : Nat) : max (-(k : Int)) (min n k) = signed (min · k) n := by
  rcases lt_or_ge n 0 with hneg | hnonneg
  · rw [signed_of_neg hneg]
    omega
  · rw [signed_of_nonneg hnonneg (Nat.zero_min k)]
    omega

end

end DragonOS.Lib
