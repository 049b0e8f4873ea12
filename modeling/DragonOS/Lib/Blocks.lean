import DragonOS.Lib.Filling

/-!
# Lists of equal blocks

`blocks count block` lays `count` blocks one after the other. When they are equally long, an
item is found by the number of its block and its place there (`getElem?_blocks`), and the
blocks can be cut out again (`slice_blocks`).
-/

namespace DragonOS.Lib

section
variable {α : Type}

def blocks (count : Nat) (block : Nat → List α) : List α := (List.range count).flatMap block

variable {count size : Nat} {block : Nat → List α}

@[simp] theorem blocks_zero (block : Nat → List α) : blocks 0 block = [] := rfl

theorem blocks_succ (count : Nat) (block : Nat → List α) :
    blocks (count + 1) block = blocks count block ++ block count := by
  rw [blocks, List.range_succ, List.flatMap_append, List.flatMap_singleton, blocks]

theorem blocks_congr {other : Nat → List α} (h : ∀ i < count, block i = other i) :
    blocks count block = blocks count other := by
  induction count with
  | zero => rfl
  | succ count ih =>
    rw [blocks_succ, blocks_succ, ih fun i hi => h i (Nat.lt_succ_of_lt hi),
      h count (Nat.lt_succ_self _)]

theorem length_blocks (h : ∀ i < count, (block i).length = size) :
    (blocks count block).length = count * size := by
  induction count with
  | zero => simp
  | succ count ih =>
    rw [blocks_succ, List.length_append, ih fun i hi => h i (Nat.lt_succ_of_lt hi),
      h count (Nat.lt_succ_self _), Nat.succ_mul]

theorem getElem?_blocks (h : ∀ i < count, (block i).length = size) (hi : i < count)
    (hplace : place < size) : (blocks count block)[i * size + place]? = (block i)[place]? := by
  induction count with
  | zero => cases hi
  | succ count ih =>
    have hfront := length_blocks fun i hi => h i (Nat.lt_succ_of_lt hi)
    rw [blocks_succ]
    rcases Nat.lt_succ_iff_lt_or_eq.mp hi with hlt | rfl
    · rw [List.getElem?_append_left (hfront ▸ place_lt hlt hplace)]
      exact ih (fun i hi => h i (Nat.lt_succ_of_lt hi)) hlt
    · rw [List.getElem?_append_right (by rw [hfront]; omega), hfront, Nat.add_sub_cancel_left]

theorem slice_blocks (h : ∀ i < count, (block i).length = size) (hi : i < count) :
    slice (blocks count block) (i * size) size = block i := by
  refine List.ext_getElem? fun place => ?_
  rw [getElem?_slice]
  split
  next hplace => exact getElem?_blocks h hi hplace
  next hplace => exact (List.getElem?_eq_none (by rw [h i hi]; omega)).symm

theorem slice_blocks_inside (h : ∀ i < count, (block i).length = size) (hi : i < count)
    (hinside : place + part ≤ size) :
    slice (blocks count block) (i * size + place) part = slice (block i) place part := by
  rw [← slice_blocks h hi, slice_slice _ hinside]

end

end DragonOS.Lib
