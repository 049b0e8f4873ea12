import Mathlib.Algebra.Order.Ring.Int
import Mathlib.Order.Interval.Set.UnorderedInterval
import Mathlib.Order.Lattice.Nat
import Mathlib.Tactic.Common

/-!
# Rounded averages

A weighted average in natural numbers: the weighted sum, plus a rounding term
below the total weight, divided by the total weight. It stays between the
smallest and the largest value. With two values, moving weight from one to the
other moves the average towards the other. A truncated part of a difference stays
between zero and the difference, whatever its sign (`tdiv_mem_uIcc`).
-/

namespace DragonOS.Lib

/-- Terms are pairs of a weight and a value. -/
abbrev Terms := List (Nat × Nat)

namespace Terms

def total (terms : Terms) : Nat := (terms.map Prod.fst).sum

def weighted (terms : Terms) : Nat := (terms.map fun term => term.1 * term.2).sum

def average (rounding : Nat) (terms : Terms) : Nat := (terms.weighted + rounding) / terms.total

theorem total_cons (term : Nat × Nat) (terms : Terms) :
    total (term :: terms) = term.1 + total terms := rfl

theorem weighted_cons (term : Nat × Nat) (terms : Terms) :
    weighted (term :: terms) = term.1 * term.2 + weighted terms := rfl

theorem le_weighted {terms : Terms} (h : ∀ term ∈ terms, low ≤ term.2) :
    terms.total * low ≤ terms.weighted := by
  induction terms with
  | nil => simp [total]
  | cons term terms ih =>
    have hterm := Nat.mul_le_mul_left term.1 (h term (by simp))
    have hrest := ih fun t ht => h t (List.mem_cons_of_mem _ ht)
    rw [total_cons, weighted_cons, Nat.add_mul]
    omega

theorem weighted_le {terms : Terms} (h : ∀ term ∈ terms, term.2 ≤ high) :
    terms.weighted ≤ terms.total * high := by
  induction terms with
  | nil => simp [weighted]
  | cons term terms ih =>
    have hterm := Nat.mul_le_mul_left term.1 (h term (by simp))
    have hrest := ih fun t ht => h t (List.mem_cons_of_mem _ ht)
    rw [total_cons, weighted_cons, Nat.add_mul]
    omega

theorem le_average {terms : Terms} (htotal : 0 < terms.total) (h : ∀ term ∈ terms, low ≤ term.2) :
    low ≤ terms.average rounding := by
  have hsum := le_weighted h
  rw [average, Nat.le_div_iff_mul_le htotal, Nat.mul_comm]
  omega

theorem average_le {terms : Terms} (hrounding : rounding < terms.total)
    (h : ∀ term ∈ terms, term.2 ≤ high) : terms.average rounding ≤ high := by
  have hsum := weighted_le h
  rw [average, ← Nat.lt_succ_iff, Nat.div_lt_iff_lt_mul (by omega), Nat.succ_mul, Nat.mul_comm]
  omega

/-- The weights of two averages, one inside the other, add up to the product of
the totals. -/
theorem sum_product_weights {whole a b : Nat} (ha : a ≤ whole) (hb : b ≤ whole) :
    (whole - a) * (whole - b) + a * (whole - b) + (whole - a) * b + a * b = whole * whole := by
  rw [← Nat.add_mul, Nat.sub_add_cancel ha, Nat.add_assoc, ← Nat.add_mul, Nat.sub_add_cancel ha,
    ← Nat.mul_add, Nat.sub_add_cancel hb]

-- ---------------------------------------------------------------------------
-- Two values
-- ---------------------------------------------------------------------------

/-- The average of `source` and `destination` with weights `weight` and the rest
of `whole`. -/
def mix (rounding whole source destination weight : Nat) : Nat :=
  average rounding [(weight, source), (whole - weight, destination)]

theorem mix_mem_uIcc (hrounding : rounding < whole) (source destination : Nat)
    (hweight : weight ≤ whole) : mix rounding whole source destination weight ∈
      Set.uIcc source destination := by
  have htotal : total [(weight, source), (whole - weight, destination)] = whole := by
    simp only [total, List.map_cons, List.map_nil, List.sum_cons, List.sum_nil]
    omega
  have hvalues : ∀ term ∈ [(weight, source), (whole - weight, destination)],
      min source destination ≤ term.2 ∧ term.2 ≤ max source destination := by
    simp
  exact ⟨le_average (by omega) fun term ht => (hvalues term ht).1,
    average_le (by omega) fun term ht => (hvalues term ht).2⟩

theorem mix_mono (rounding : Nat) (h : destination ≤ source) (hle : weight ≤ weight')
    (hwhole : weight' ≤ whole) :
    mix rounding whole source destination weight ≤
      mix rounding whole source destination weight' := by
  obtain ⟨more, rfl⟩ := Nat.exists_eq_add_of_le hle
  have hmore := Nat.mul_le_mul_left more h
  have hrest : whole - weight = whole - (weight + more) + more := by omega
  simp only [mix, average, total, weighted, List.map_cons, List.map_nil, List.sum_cons,
    List.sum_nil, Nat.add_zero]
  rw [show weight + (whole - weight) = weight + more + (whole - (weight + more)) by omega]
  refine Nat.div_le_div_right ?_
  rw [hrest, Nat.add_mul, Nat.add_mul]
  omega

theorem mix_comm (rounding source destination : Nat) (hweight : weight ≤ whole) :
    mix rounding whole source destination weight =
      mix rounding whole destination source (whole - weight) := by
  simp only [mix, average, total, weighted, List.map_cons, List.map_nil, List.sum_cons,
    List.sum_nil, Nat.add_zero]
  rw [Nat.sub_sub_self hweight, Nat.add_comm weight, Nat.add_comm (weight * source)]

theorem mix_toward (hrounding : rounding < whole) (source destination : Nat)
    (hle : weight ≤ weight') (hwhole : weight' ≤ whole) :
    mix rounding whole source destination weight' ∈
      Set.uIcc source (mix rounding whole source destination weight) := by
  have hbetween := mix_mem_uIcc hrounding source destination hwhole
  rw [Set.mem_uIcc] at hbetween ⊢
  rcases Nat.le_total destination source with h | h
  · have := mix_mono rounding h hle hwhole
    omega
  · have := mix_mono rounding h (Nat.sub_le_sub_left hle whole)
      (Nat.sub_le whole weight)
    rw [← mix_comm rounding _ _ hwhole, ← mix_comm rounding _ _ (hle.trans hwhole)] at this
    omega

end Terms

-- ---------------------------------------------------------------------------
-- Parts of a difference
-- ---------------------------------------------------------------------------

theorem tdiv_mem_uIcc {part whole : Nat} (difference : Int) (h : part ≤ whole)
    (hwhole : 0 < whole) : (difference * part).tdiv whole ∈ Set.uIcc 0 difference := by
  have hle : (part : Int) ≤ whole := by exact_mod_cast h
  have hpart : ∀ d : Int, 0 ≤ d → 0 ≤ (d * part).tdiv whole ∧ (d * part).tdiv whole ≤ d := by
    intro d hd
    have hnonneg : 0 ≤ d * part := Int.mul_nonneg hd (Int.natCast_nonneg _)
    rw [Int.tdiv_eq_ediv_of_nonneg hnonneg]
    exact ⟨Int.ediv_nonneg hnonneg (Int.natCast_nonneg _),
      Int.ediv_le_of_le_mul (by exact_mod_cast hwhole) (Int.mul_le_mul_of_nonneg_left hle hd)⟩
  rcases Int.le_total 0 difference with hsign | hsign
  · rw [Set.uIcc_of_le hsign]
    exact hpart difference hsign
  · -- Division truncates, so the part of a negative difference mirrors a positive one.
    obtain ⟨hlow, hhigh⟩ := hpart (-difference) (Int.neg_nonneg.mpr hsign)
    rw [Int.neg_mul, Int.neg_tdiv] at hlow hhigh
    rw [Set.uIcc_of_ge hsign]
    exact ⟨Int.neg_le_neg_iff.mp hhigh, Int.neg_nonneg.mp hlow⟩

end DragonOS.Lib
