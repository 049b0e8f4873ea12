import DragonOS.Boot.Pixel
import Mathlib.Data.Nat.Find

/-!
# Channel masks

`maskShift` finds the lowest set bit of a mask that is not empty, and `maskWidth` counts
the ones from there.
-/

namespace DragonOS.Boot

open Lib

theorem shiftRight_and_one_eq_zero (mask : UInt32) {shift : UInt32} (h : shift.toNat < 32) :
    (mask >>> shift) &&& 1 = 0 ↔ mask.toNat.testBit shift.toNat = false := by
  rw [← UInt32.toNat_inj, UInt32.toNat_and, UInt32.toNat_shiftRight, Nat.mod_eq_of_lt h,
    UInt32.toNat_one, UInt32.toNat_zero, Nat.testBit, Nat.and_comm, bne_eq_false_iff_eq]

theorem and_one_eq_zero (value : UInt32) : value &&& 1 = 0 ↔ value.toNat.testBit 0 = false := by
  have h := shiftRight_and_one_eq_zero value (show (0 : UInt32).toNat < 32 by decide)
  rwa [UInt32.shiftRight_zero, UInt32.toNat_zero] at h

theorem testBit_of_ge (mask : UInt32) (h : 32 ≤ i) : mask.toNat.testBit i = false :=
  Nat.testBit_lt_two_pow (Nat.lt_of_lt_of_le mask.toNat_lt (Nat.pow_le_pow_right (by decide) h))

theorem exists_testBit {mask : UInt32} (h : mask ≠ 0) : ∃ i < 32, mask.toNat.testBit i = true := by
  obtain ⟨i, hi⟩ := Nat.exists_testBit_of_ne_zero (fun hzero => h (UInt32.toNat_inj.mp hzero))
  refine ⟨i, Nat.lt_of_not_le fun hge => ?_, hi⟩
  rw [testBit_of_ge mask hge] at hi
  cases hi

theorem maskShiftFrom_eq {mask : UInt32} : (fuel : Nat) → {shift : UInt32} →
    (hfuel : shift.toNat + fuel = 32) → {i : Nat} → (hle : shift.toNat ≤ i) → (hlt : i < 32) →
    (hset : mask.toNat.testBit i = true) →
    (hclear : ∀ j, shift.toNat ≤ j → j < i → mask.toNat.testBit j = false) →
    maskShiftFrom mask fuel shift = some (UInt32.ofNat i)
  | 0, _, hfuel, _, hle, hlt, _, _ => by omega
  | fuel + 1, shift, hfuel, i, hle, hlt, hset, hclear => by
    rw [maskShiftFrom]
    by_cases hhere : shift.toNat = i
    · rw [if_neg, ← hhere, UInt32.ofNat_toNat]
      rw [shiftRight_and_one_eq_zero mask (by omega), hhere, hset]
      exact Bool.noConfusion
    · have hnext : (shift + 1).toNat = shift.toNat + 1 :=
        toNat_add_of_lt (by rw [UInt32.toNat_one]; omega)
      rw [if_pos ((shiftRight_and_one_eq_zero mask (by omega)).mpr
        (hclear shift.toNat (Nat.le_refl _) (by omega)))]
      exact maskShiftFrom_eq fuel (by omega) (by omega) hlt hset
        fun j hj => hclear j (by omega)

theorem maskShift_eq {mask : UInt32} (hlt : i < 32) (hset : mask.toNat.testBit i = true)
    (hclear : ∀ j < i, mask.toNat.testBit j = false) : maskShift mask = some (UInt32.ofNat i) :=
  maskShiftFrom_eq 32 rfl (Nat.zero_le i) hlt hset fun j _ => hclear j

theorem maskShift_spec {mask : UInt32} (h : mask ≠ 0) :
    ∃ i < 32, maskShift mask = some (UInt32.ofNat i) ∧ mask.toNat.testBit i = true := by
  have hexists : ∃ i, mask.toNat.testBit i = true := (exists_testBit h).imp fun _ hi => hi.2
  have hset := Nat.find_spec hexists
  have hlt : Nat.find hexists < 32 := Nat.lt_of_not_le fun hge => by
    rw [testBit_of_ge mask hge] at hset
    cases hset
  exact ⟨Nat.find hexists, hlt, maskShift_eq hlt hset fun j hj =>
    eq_false_of_ne_true (Nat.find_min hexists hj), hset⟩

theorem maskShift_zero : maskShift 0 = none := by decide

theorem toNat_countLowOnes : (fuel : Nat) → {value width : UInt32} →
    (hvalue : value.toNat < 2 ^ fuel) → (hwidth : width.toNat + fuel < 2 ^ 32) → {n : Nat} →
    (hset : ∀ i < n, value.toNat.testBit i = true) → (hclear : value.toNat.testBit n = false) →
    (countLowOnes fuel value width).toNat = width.toNat + n
  | 0, value, width, hvalue, _, n, hset, _ => by
    cases n with
    | zero => rfl
    | succ n =>
      have hzero : value.toNat = 0 := by omega
      have := hset 0 (Nat.zero_lt_succ n)
      rw [hzero, Nat.zero_testBit] at this
      cases this
  | fuel + 1, value, width, hvalue, hwidth, n, hset, hclear => by
    rw [countLowOnes]
    cases n with
    | zero => rw [if_neg (not_not.mpr ((and_one_eq_zero value).mpr hclear)), Nat.add_zero]
    | succ n =>
      have hone : value &&& 1 ≠ 0 := fun hzero => by
        rw [and_one_eq_zero, hset 0 (Nat.zero_lt_succ n)] at hzero
        cases hzero
      have hnext : (width + 1).toNat = width.toNat + 1 :=
        toNat_add_of_lt (by rw [UInt32.toNat_one]; omega)
      have hbit (i : Nat) : (value >>> 1).toNat.testBit i = value.toNat.testBit (i + 1) := by
        rw [toNat_shiftRight_one, Nat.testBit_succ]
      rw [if_pos hone, toNat_countLowOnes fuel (by rw [toNat_shiftRight_one]; omega) (by omega)
        (fun i hi => (hbit i).trans (hset (i + 1) (Nat.succ_lt_succ hi))) ((hbit n).trans hclear),
        hnext]
      omega

theorem toNat_maskWidth {mask : UInt32} (hlt : i < 32)
    (hset : ∀ j < n, mask.toNat.testBit (i + j) = true)
    (hclear : mask.toNat.testBit (i + n) = false) :
    (maskWidth mask (UInt32.ofNat i)).toNat = n := by
  have hshift : (UInt32.ofNat i).toNat = i :=
    UInt32.toNat_ofNat_of_lt' (by rw [UInt32.size]; omega)
  have hvalue : (mask >>> UInt32.ofNat i).toNat = mask.toNat >>> i := by
    rw [UInt32.toNat_shiftRight, hshift, Nat.mod_eq_of_lt hlt]
  rw [maskWidth, toNat_countLowOnes 32 (n := n) (UInt32.toNat_lt _) (by decide), UInt32.toNat_zero,
    Nat.zero_add]
  · intro j hj
    rw [hvalue, Nat.testBit_shiftRight]
    exact hset j hj
  · rw [hvalue, Nat.testBit_shiftRight]
    exact hclear

theorem maskWidth_spec (mask : UInt32) (hlt : i < 32) :
    ∃ n ≤ 32 - i, (maskWidth mask (UInt32.ofNat i)).toNat = n ∧
      (∀ j < n, mask.toNat.testBit (i + j) = true) ∧ mask.toNat.testBit (i + n) = false := by
  have hexists : ∃ n, mask.toNat.testBit (i + n) = false :=
    ⟨32, testBit_of_ge mask (by omega)⟩
  have hset : ∀ j < Nat.find hexists, mask.toNat.testBit (i + j) = true := fun j hj =>
    eq_true_of_ne_false (Nat.find_min hexists hj)
  have hclear := Nat.find_spec hexists
  exact ⟨Nat.find hexists, Nat.find_min' hexists (testBit_of_ge mask (by omega)),
    toNat_maskWidth hlt hset hclear, hset, hclear⟩

theorem toNat_maxValue {width : UInt32} (h : width.toNat < 32) :
    (((1 : UInt32) <<< width) - 1).toNat = 2 ^ width.toNat - 1 := by
  have hpow : 2 ^ width.toNat < 2 ^ 32 := Nat.pow_lt_pow_right (by decide) h
  have hshift : ((1 : UInt32) <<< width).toNat = 2 ^ width.toNat := by
    rw [UInt32.toNat_shiftLeft, Nat.mod_eq_of_lt h, UInt32.toNat_one, Nat.shiftLeft_eq,
      Nat.one_mul, Nat.mod_eq_of_lt hpow]
  rw [UInt32.toNat_sub_of_le _ _ ?_, hshift, UInt32.toNat_one]
  rw [UInt32.le_iff_toNat_le, hshift, UInt32.toNat_one]
  exact Nat.one_le_two_pow

end DragonOS.Boot
