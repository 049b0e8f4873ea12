import Mathlib.Algebra.Order.Ring.Int
import Mathlib.Tactic.Common

/-!
# Computations that may throw

What is known once a computation in `Except` has returned, and the rules for its
loops: an invariant that every pass of the loop keeps holds of what the loop returns,
and a loop whose passes all return under the invariant returns.
-/

namespace DragonOS.Lib

theorem bind_ok {x : Except ε α} {f : α → Except ε β} :
    x >>= f = .ok b ↔ ∃ a, x = .ok a ∧ f a = .ok b := by
  cases x <;> simp [bind, Except.bind]

theorem ok_bind (a : α) (f : α → Except ε β) : Except.ok a >>= f = f a := rfl

theorem pure_ok : (pure a : Except ε α) = .ok b ↔ a = b := by
  simp [pure, Except.pure]

theorem throw_ok : ¬ (throw e : Except ε α) = .ok b := nofun

/-- What is done with the result cannot throw. -/
theorem bind_returns_iff {x : Except ε α} {f : α → Except ε β} (hf : ∀ a, ∃ b, f a = .ok b) :
    (∃ b, x >>= f = .ok b) ↔ ∃ a, x = .ok a := by
  constructor
  · rintro ⟨b, h⟩
    obtain ⟨a, ha, -⟩ := bind_ok.mp h
    exact ⟨a, ha⟩
  · rintro ⟨a, ha⟩
    obtain ⟨b, hb⟩ := hf a
    exact ⟨b, bind_ok.mpr ⟨a, ha, hb⟩⟩

theorem returns_of_toBool {x : Except ε α} (h : x.toBool = true) : ∃ a, x = .ok a := by
  cases x with
  | error e => exact absurd h Bool.false_ne_true
  | ok a => exact ⟨a, rfl⟩

section
variable {β ε : Type} {step : β → Nat → Except ε β} {start result : β} {count : Nat}

theorem foldlM_range_succ :
    (List.range (count + 1)).foldlM step start =
      (List.range count).foldlM step start >>= (step · count) := by
  rw [List.range_succ, List.foldlM_append]
  simp only [List.foldlM_cons, List.foldlM_nil, bind_pure]

theorem foldlM_range_invariant (Invariant : Nat → β → Prop) (hstart : Invariant 0 start)
    (hstep : ∀ i state next, i < count → Invariant i state → step state i = .ok next →
      Invariant (i + 1) next)
    (hloop : (List.range count).foldlM step start = .ok result) : Invariant count result := by
  induction count generalizing result with
  | zero =>
    obtain rfl := pure_ok.mp hloop
    exact hstart
  | succ count ih =>
    rw [foldlM_range_succ, bind_ok] at hloop
    obtain ⟨state, hloop, hlast⟩ := hloop
    have hstate := ih (fun i state next hi => hstep i state next (Nat.lt_succ_of_lt hi)) hloop
    exact hstep count state result (Nat.lt_succ_self count) hstate hlast

theorem foldlM_range_returns (Invariant : Nat → β → Prop) (hstart : Invariant 0 start)
    (hstep : ∀ i state, i < count → Invariant i state →
      ∃ next, step state i = .ok next ∧ Invariant (i + 1) next) :
    ∃ result, (List.range count).foldlM step start = .ok result ∧ Invariant count result := by
  induction count with
  | zero => exact ⟨start, rfl, hstart⟩
  | succ count ih =>
    obtain ⟨state, hloop, hstate⟩ := ih fun i state hi => hstep i state (Nat.lt_succ_of_lt hi)
    obtain ⟨result, hlast, hresult⟩ := hstep count state (Nat.lt_succ_self count) hstate
    exact ⟨result, by rw [foldlM_range_succ, bind_ok]; exact ⟨state, hloop, hlast⟩, hresult⟩

end

end DragonOS.Lib
