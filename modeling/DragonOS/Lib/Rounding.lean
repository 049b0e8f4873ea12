import Mathlib.Algebra.Order.Ring.Abs
import Mathlib.Algebra.Order.Ring.Int
import Mathlib.Tactic.Linarith
import Mathlib.Tactic.Ring

/-!
# Rounded quotients

Adding half of the denominator before a division rounds to the nearest integer. With an
odd denominator no two integers are equally near, so the nearest one is unique. A line of
`size` places is sampled at `target` places by rounding down: in order, and without gaps
when there are enough places to sample at.
-/

namespace DragonOS.Lib

/-- `value` is nearer to the quotient than any other integer. -/
def IsNearest (value numerator denominator : Int) : Prop :=
  ∀ other, other ≠ value →
    |value * denominator - numerator| < |other * denominator - numerator|

theorem IsNearest.unique (hfirst : IsNearest first numerator denominator)
    (hsecond : IsNearest second numerator denominator) : first = second := by
  by_contra hne
  exact lt_asymm (hfirst second (Ne.symm hne)) (hsecond first hne)

theorem isNearest_of_close (hclose : 2 * |value * denominator - numerator| < denominator) :
    IsNearest value numerator denominator := by
  intro other hother
  have hstep : denominator ≤ |(other - value) * denominator| := by
    have hone : 1 ≤ |other - value| := Int.one_le_abs (sub_ne_zero.mpr hother)
    have hpos : 0 ≤ denominator := by
      have := abs_nonneg (value * denominator - numerator)
      omega
    rw [abs_mul, abs_of_nonneg hpos]
    exact le_mul_of_one_le_left hpos hone
  have hsplit : (other - value) * denominator =
      (other * denominator - numerator) - (value * denominator - numerator) := by ring
  have htriangle := abs_sub (other * denominator - numerator) (value * denominator - numerator)
  rw [← hsplit] at htriangle
  omega

theorem isNearest_round (numerator : Int) (hpos : 0 < denominator) (hodd : denominator % 2 = 1) :
    IsNearest ((numerator + denominator / 2) / denominator) numerator denominator := by
  have hdiv := Int.mul_ediv_add_emod (numerator + denominator / 2) denominator
  have hlow := Int.emod_nonneg (numerator + denominator / 2) hpos.ne'
  have hhigh := Int.emod_lt_of_pos (numerator + denominator / 2) hpos
  apply isNearest_of_close
  rw [mul_comm _ denominator]
  generalize denominator * ((numerator + denominator / 2) / denominator) = product at *
  have hbounds : |product - numerator| ≤ denominator / 2 := abs_le.mpr ⟨by omega, by omega⟩
  omega

-- ---------------------------------------------------------------------------
-- Sampling
-- ---------------------------------------------------------------------------

def sample (size target place : Nat) : Nat := place * size / target

theorem sample_lt (hsize : 0 < size) (h : place < target) : sample size target place < size := by
  rw [sample, Nat.div_lt_iff_lt_mul (Nat.zero_lt_of_lt h), Nat.mul_comm size]
  exact Nat.mul_lt_mul_of_pos_right h hsize

theorem sample_mono (size target : Nat) : Monotone (sample size target) := fun _ _ h =>
  Nat.div_le_div_right (Nat.mul_le_mul_right size h)

theorem sample_self (h : 0 < size) (place : Nat) : sample size size place = place :=
  Nat.mul_div_cancel place h

/-- The place to sample at is a quotient rounded up. -/
theorem exists_sample (hsize : size ≤ target) (h : place < size) :
    ∃ origin, origin < target ∧ sample size target origin = place := by
  obtain ⟨origin, horigin⟩ : ∃ origin, origin = (place * target + (size - 1)) / size := ⟨_, rfl⟩
  have hdiv := Nat.div_add_mod (place * target + (size - 1)) size
  have hmod := Nat.mod_lt (place * target + (size - 1)) (Nat.zero_lt_of_lt h)
  rw [← horigin, Nat.mul_comm] at hdiv
  have hlast : place * target + target ≤ size * target := by
    rw [← Nat.succ_mul]
    exact Nat.mul_le_mul_right target h
  refine ⟨origin, ?_, ?_⟩
  · refine Nat.lt_of_mul_lt_mul_right (a := size) ?_
    rw [Nat.mul_comm target]
    omega
  · rw [sample, Nat.div_eq_iff (by omega)]
    omega

end DragonOS.Lib
