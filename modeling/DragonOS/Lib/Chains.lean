import Mathlib.Algebra.Order.Ring.Int
import Mathlib.Data.List.Basic
import Mathlib.Tactic.Common

/-!
# Chains of blocks

A chain is a run of consecutive blocks. A table links it when every block names the
one behind it and the last names a terminator; following the links from the first
block then gives all of its blocks. Chains that are laid one behind another share no
block and leave none out.
-/

namespace DragonOS.Lib

structure Chain where
  start : Nat
  count : Nat
  deriving DecidableEq, Repr

def Chain.blocks (chain : Chain) : List Nat := List.range' chain.start chain.count

/-- The chains of the given lengths, the first from `first` on. -/
def layChains (first : Nat) : List Nat → List Chain
  | [] => []
  | count :: rest => ⟨first, count⟩ :: layChains (first + count) rest

theorem length_layChains (first : Nat) (counts : List Nat) :
    (layChains first counts).length = counts.length := by
  induction counts generalizing first with
  | nil => rfl
  | cons count rest ih => rw [layChains, List.length_cons, List.length_cons, ih]

theorem map_count_layChains (first : Nat) (counts : List Nat) :
    (layChains first counts).map Chain.count = counts := by
  induction counts generalizing first with
  | nil => rfl
  | cons count rest ih => rw [layChains, List.map_cons, ih]

theorem flatMap_blocks_layChains (first : Nat) (counts : List Nat) :
    (layChains first counts).flatMap Chain.blocks = List.range' first counts.sum := by
  induction counts generalizing first with
  | nil => rfl
  | cons count rest ih =>
    rw [layChains, List.flatMap_cons, ih, List.sum_cons, Chain.blocks, List.range'_append_1]

theorem mem_layChains_bounds {chain : Chain} {counts : List Nat}
    (h : chain ∈ layChains first counts) :
    first ≤ chain.start ∧ chain.start + chain.count ≤ first + counts.sum := by
  induction counts generalizing first with
  | nil => exact absurd h List.not_mem_nil
  | cons count rest ih =>
    rw [List.sum_cons]
    obtain rfl | hrest := List.mem_cons.mp h
    · exact ⟨Nat.le_refl first, by simp only; omega⟩
    · obtain ⟨hstart, hend⟩ := ih hrest
      omega

-- ---------------------------------------------------------------------------
-- Links
-- ---------------------------------------------------------------------------

/-- What a block of a chain has to name. -/
def Chain.link (terminator : Nat) (chain : Chain) (i : Nat) : Nat :=
  if i + 1 = chain.count then terminator else chain.start + i + 1

def Chain.LinkedIn (table : Nat → Nat) (terminator : Nat) (chain : Chain) : Prop :=
  ∀ i < chain.count, table (chain.start + i) = chain.link terminator i

/-- The blocks from `block` on, until one names a value that ends a chain; `none` when
`fuel` blocks do not reach it. -/
def follow (table : Nat → Nat) (ends : Nat → Bool) : (fuel block : Nat) → Option (List Nat)
  | 0, _ => none
  | fuel + 1, block =>
    if ends (table block) then some [block]
    else (follow table ends fuel (table block)).map (block :: ·)

theorem Chain.follow_eq {table : Nat → Nat} {ends : Nat → Bool} {terminator fuel : Nat}
    {chain : Chain} (h : chain.LinkedIn table terminator) (hcount : 0 < chain.count)
    (hends : ends terminator = true)
    (hruns : ∀ block < chain.start + chain.count, ends block = false)
    (hfuel : chain.count ≤ fuel) : follow table ends fuel chain.start = some chain.blocks := by
  obtain ⟨start, count⟩ := chain
  simp only at *
  induction count generalizing start fuel with
  | zero => exact absurd hcount (Nat.lt_irrefl 0)
  | succ count ih =>
    obtain ⟨fuel, rfl⟩ : ∃ k, fuel = k + 1 := ⟨fuel - 1, by omega⟩
    have hfirst := h 0 hcount
    simp only [Chain.link, Nat.add_zero, Nat.zero_add] at hfirst
    by_cases hlast : count = 0
    · subst hlast
      rw [follow, hfirst, if_pos rfl, if_pos hends]
      rfl
    · have hnext : Chain.LinkedIn table terminator ⟨start + 1, count⟩ := by
        intro i hi
        have hi' := h (i + 1) (Nat.succ_lt_succ hi)
        simp only [Chain.link] at hi' ⊢
        rw [show start + 1 + i = start + (i + 1) by omega, hi']
        by_cases hend : i + 1 = count
        · rw [if_pos (by omega), if_pos hend]
        · rw [if_neg (by omega), if_neg hend]
      have hlink : ¬ 1 = count + 1 := by omega
      rw [if_neg hlink] at hfirst
      rw [follow, hfirst, hruns (start + 1) (by omega), if_neg Bool.false_ne_true,
        ih (start + 1) hnext (by omega) (fun block hblock => hruns block (by omega)) (by omega)]
      rfl

end DragonOS.Lib
