import DragonOS.Lib.Words

/-!
# Signed words without overflow

The checked operations return the word that the machine computes, unless the exact
result does not fit into a signed word. Where it fits the word is exact.
-/

namespace DragonOS.Lib

def Fits (value : Int) : Prop := -2 ^ 31 ≤ value ∧ value < 2 ^ 31

instance : Decidable (Fits value) := inferInstanceAs (Decidable (_ ∧ _))

/-- The machine's `word`, if it is meant to be a value that fits. -/
def checked (exact : Int) (word : Int32) : Option Int32 := if Fits exact then some word else none

section
variable {a b : Int32}

def addChecked (a b : Int32) : Option Int32 := checked (a.toInt + b.toInt) (a + b)
def subChecked (a b : Int32) : Option Int32 := checked (a.toInt - b.toInt) (a - b)
def mulChecked (a b : Int32) : Option Int32 := checked (a.toInt * b.toInt) (a * b)
def negChecked (a : Int32) : Option Int32 := checked (-a.toInt) (-a)

def divChecked (a b : Int32) : Option Int32 :=
  if b = 0 then none else checked (a.toInt.tdiv b.toInt) (a / b)

/-- A conversion that keeps the value. -/
def castChecked (value : UInt32) : Option Int32 := checked value.toNat value.toInt32

def narrowChecked (value : Int64) : Option Int32 := checked value.toInt value.toInt32

theorem checked_of_fits (h : Fits exact) : checked exact word = some word := if_pos h

theorem toInt_add_of_fits (h : Fits (a.toInt + b.toInt)) : (a + b).toInt = a.toInt + b.toInt := by
  rw [Int32.toInt_add]
  exact Int.bmod_eq_of_le (by unfold Fits at h; omega) (by unfold Fits at h; omega)

theorem toInt_sub_of_fits (h : Fits (a.toInt - b.toInt)) : (a - b).toInt = a.toInt - b.toInt := by
  rw [Int32.toInt_sub]
  exact Int.bmod_eq_of_le (by unfold Fits at h; omega) (by unfold Fits at h; omega)

theorem toInt_mul_of_fits (h : Fits (a.toInt * b.toInt)) : (a * b).toInt = a.toInt * b.toInt := by
  rw [Int32.toInt_mul]
  exact Int.bmod_eq_of_le (by unfold Fits at h; omega) (by unfold Fits at h; omega)

theorem toInt_neg_of_fits (h : Fits (-a.toInt)) : (-a).toInt = -a.toInt := by
  rw [Int32.toInt_neg]
  exact Int.bmod_eq_of_le (by unfold Fits at h; omega) (by unfold Fits at h; omega)

theorem toInt_div_of_fits (h : Fits (a.toInt.tdiv b.toInt)) :
    (a / b).toInt = a.toInt.tdiv b.toInt := by
  rw [Int32.toInt_div]
  exact Int.bmod_eq_of_le (by unfold Fits at h; omega) (by unfold Fits at h; omega)

theorem castChecked_of_lt {value : UInt32} (h : value.toNat < 2 ^ 31) :
    castChecked value = some value.toInt32 ∧ value.toInt32.toInt = value.toNat := by
  refine ⟨checked_of_fits ?_, ?_⟩
  · unfold Fits
    omega
  · rw [toInt_toInt32, if_pos h]

theorem toInt_narrow_of_fits {value : Int64} (h : Fits value.toInt) :
    value.toInt32.toInt = value.toInt := by
  rw [Int64.toInt_toInt32]
  exact Int.bmod_eq_of_le (by unfold Fits at h; omega) (by unfold Fits at h; omega)

end

end DragonOS.Lib
