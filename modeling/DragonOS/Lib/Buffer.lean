import Mathlib.Algebra.Order.Ring.Int
import Mathlib.Tactic.Common

/-!
# Buffers

A buffer is a list that is overwritten in place and read back in slices. A write
inside the buffer keeps its length, is read back by its own slice and is not seen
by a slice beside it.
-/

namespace DragonOS.Lib

section
variable {α : Type}

/-- `source` in place of what `target` holds from `offset` on. -/
def overwrite (target : List α) (offset : Nat) (source : List α) : List α :=
  target.take offset ++ source ++ target.drop (offset + source.length)

def slice (buffer : List α) (offset length : Nat) : List α := (buffer.drop offset).take length

variable {target source : List α} {offset : Nat}

theorem length_overwrite (h : offset + source.length ≤ target.length) :
    (overwrite target offset source).length = target.length := by
  simp only [overwrite, List.length_append, List.length_take, List.length_drop]
  omega

theorem getElem?_overwrite (h : offset + source.length ≤ target.length) (i : Nat) :
    (overwrite target offset source)[i]? =
      if offset ≤ i ∧ i < offset + source.length then source[i - offset]? else target[i]? := by
  have htake : (target.take offset).length = offset := by
    rw [List.length_take]
    omega
  rw [overwrite, List.append_assoc]
  by_cases hlow : i < offset
  · rw [List.getElem?_append_left (by omega), List.getElem?_take_of_lt hlow, if_neg (by omega)]
  rw [List.getElem?_append_right (by omega), htake]
  by_cases hhigh : i < offset + source.length
  · rw [List.getElem?_append_left (by omega), if_pos (by omega)]
  · rw [List.getElem?_append_right (by omega), List.getElem?_drop, if_neg (by omega)]
    congr 1
    omega

theorem getD_overwrite_singleton {value : α} (h : offset < target.length) (i : Nat) (fallback : α) :
    (overwrite target offset [value]).getD i fallback =
      if i = offset then value else target.getD i fallback := by
  rw [List.getD_eq_getElem?_getD, getElem?_overwrite h, List.length_singleton]
  split
  next hi =>
    obtain rfl : i = offset := by omega
    rw [if_pos rfl, Nat.sub_self]
    rfl
  next hi => rw [if_neg (by omega), List.getD_eq_getElem?_getD]

theorem getElem?_slice (buffer : List α) (offset length i : Nat) :
    (slice buffer offset length)[i]? = if i < length then buffer[offset + i]? else none := by
  rw [slice, List.getElem?_take, List.getElem?_drop]

theorem length_slice {buffer : List α} (h : offset + length ≤ buffer.length) :
    (slice buffer offset length).length = length := by
  rw [slice, List.length_take, List.length_drop]
  omega

theorem slice_length_slice (buffer : List α) (start part : Nat) :
    slice buffer start (slice buffer start part).length = slice buffer start part := by
  rw [slice, slice, List.take_eq_take_iff, List.length_take]
  omega

theorem slice_add (buffer : List α) (start first second : Nat) :
    slice buffer start (first + second) =
      slice buffer start first ++ slice buffer (start + first) second := by
  rw [slice, slice, slice, List.take_add, List.drop_drop]

theorem slice_slice (buffer : List α) (h : place + part ≤ length) :
    slice (slice buffer start length) place part = slice buffer (start + place) part := by
  refine List.ext_getElem? fun i => ?_
  rw [getElem?_slice, getElem?_slice, getElem?_slice]
  split
  next hi => rw [if_pos (by omega), Nat.add_assoc]
  next => rfl

theorem slice_self (buffer : List α) : slice buffer 0 buffer.length = buffer := by
  rw [slice, List.drop_zero, List.take_length]

theorem slice_overwrite_inside (h : offset + source.length ≤ target.length)
    (hinside : start + length ≤ source.length) :
    slice (overwrite target offset source) (offset + start) length = slice source start length := by
  refine List.ext_getElem? fun i => ?_
  rw [getElem?_slice, getElem?_slice]
  split
  next hi =>
    rw [getElem?_overwrite h, if_pos (by omega)]
    congr 1
    omega
  next => rfl

theorem slice_overwrite_self (h : offset + source.length ≤ target.length) :
    slice (overwrite target offset source) offset source.length = source := by
  simpa [slice_self] using slice_overwrite_inside h (Nat.le_of_eq (Nat.zero_add source.length))

theorem slice_overwrite_front (h : offset + source.length ≤ target.length)
    (hlength : length ≤ source.length) :
    slice (overwrite target offset source) offset length = source.take length := by
  have hinside := slice_overwrite_inside h ((Nat.zero_add length).trans_le hlength)
  rwa [Nat.add_zero, slice, slice, List.drop_zero, ← slice] at hinside

theorem slice_overwrite_of_disjoint (h : offset + source.length ≤ target.length)
    (hdisjoint : start + length ≤ offset ∨ offset + source.length ≤ start) :
    slice (overwrite target offset source) start length = slice target start length := by
  refine List.ext_getElem? fun i => ?_
  rw [getElem?_slice, getElem?_slice]
  split
  next hi => rw [getElem?_overwrite h, if_neg (by omega)]
  next => rfl

/-- A second write that goes on where the first one ended. -/
theorem overwrite_append {more : List α}
    (h : offset + source.length + more.length ≤ target.length) :
    overwrite (overwrite target offset source) (offset + source.length) more =
      overwrite target offset (source ++ more) := by
  have hfirst : offset + source.length ≤ target.length := by omega
  have hsecond : offset + source.length + more.length ≤
      (overwrite target offset source).length := by rwa [length_overwrite hfirst]
  have hboth : offset + (source ++ more).length ≤ target.length := by
    rw [List.length_append]
    omega
  refine List.ext_getElem? fun i => ?_
  rw [getElem?_overwrite hsecond, getElem?_overwrite hfirst, getElem?_overwrite hboth,
    List.length_append, List.getElem?_append]
  by_cases hlow : i < offset
  · rw [if_neg (by omega), if_neg (by omega), if_neg (by omega)]
  by_cases hmiddle : i < offset + source.length
  · rw [if_neg (by omega), if_pos (by omega), if_pos (by omega), if_pos (by omega)]
  by_cases hhigh : i < offset + source.length + more.length
  · rw [if_pos (by omega), if_pos (by omega), if_neg (by omega), Nat.sub_sub]
  · rw [if_neg (by omega), if_neg (by omega), if_neg (by omega)]

theorem overwrite_front {shorter : List α} (h : offset + source.length ≤ target.length)
    (hshorter : shorter.length ≤ source.length) :
    overwrite (overwrite target offset source) offset shorter =
      overwrite target offset (shorter ++ source.drop shorter.length) := by
  have hfirst : offset + shorter.length ≤ (overwrite target offset source).length := by
    rw [length_overwrite h]
    omega
  have hlength : (shorter ++ source.drop shorter.length).length = source.length := by
    rw [List.length_append, List.length_drop]
    omega
  have hboth : offset + (shorter ++ source.drop shorter.length).length ≤ target.length := by omega
  refine List.ext_getElem? fun i => ?_
  rw [getElem?_overwrite hfirst, getElem?_overwrite h, getElem?_overwrite hboth, hlength,
    List.getElem?_append, List.getElem?_drop]
  by_cases hlow : i < offset
  · rw [if_neg (by omega), if_neg (by omega), if_neg (by omega)]
  by_cases hmiddle : i < offset + shorter.length
  · rw [if_pos (by omega), if_pos (by omega), if_pos (by omega)]
  by_cases hhigh : i < offset + source.length
  · rw [if_neg (by omega), if_pos (by omega), if_pos (by omega), if_neg (by omega)]
    congr 1
    omega
  · rw [if_neg (by omega), if_neg (by omega), if_neg (by omega)]

/-- `source`, cut off or filled up to the length. -/
def fillTo (filler : α) (length : Nat) (source : List α) : List α :=
  (source ++ List.replicate length filler).take length

@[simp]
theorem length_fillTo (filler : α) (length : Nat) (source : List α) :
    (fillTo filler length source).length = length := by
  rw [fillTo, List.length_take, List.length_append, List.length_replicate]
  omega

theorem fillTo_of_le (filler : α) {length : Nat} (h : source.length ≤ length) :
    fillTo filler length source = source ++ List.replicate (length - source.length) filler := by
  rw [fillTo, List.take_append, List.take_of_length_le h, List.take_replicate,
    Nat.min_eq_left (Nat.sub_le _ _)]

theorem fillTo_self (filler : α) (source : List α) : fillTo filler source.length source = source := by
  rw [fillTo_of_le filler (Nat.le_refl _), Nat.sub_self, List.replicate_zero, List.append_nil]

theorem take_fillTo (filler : α) {length : Nat} (h : source.length ≤ length) :
    (fillTo filler length source).take source.length = source := by
  rw [fillTo_of_le filler h, List.take_left]

theorem fillTo_take (filler : α) (length : Nat) (source : List α) :
    fillTo filler length (source.take length) = fillTo filler length source := by
  by_cases h : source.length ≤ length
  · rw [List.take_of_length_le h]
  · rw [fillTo, fillTo, List.take_append_of_le_length, List.take_append_of_le_length (by omega),
      List.take_take, Nat.min_self]
    rw [List.length_take]
    omega

theorem slice_fillTo (filler : α) {start part length : Nat} (h : start + part ≤ length) :
    slice (fillTo filler length source) start part = fillTo filler part (slice source start part) := by
  refine List.ext_getElem? fun i => ?_
  rw [getElem?_slice, fillTo, fillTo, List.getElem?_take, List.getElem?_take, List.getElem?_append,
    List.getElem?_append, getElem?_slice, List.getElem?_replicate, List.getElem?_replicate]
  by_cases hpart : i < part
  · rw [if_pos hpart, if_pos hpart, if_pos hpart, if_pos (by omega)]
    have hlength : (slice source start part).length = min part (source.length - start) := by
      rw [slice, List.length_take, List.length_drop]
    by_cases hin : start + i < source.length
    · rw [if_pos hin, if_pos (by omega)]
    · rw [if_neg hin, if_pos (by omega), if_neg (by omega), if_pos (by omega)]
  · rw [if_neg hpart, if_neg hpart]

theorem fillTo_add (filler : α) (first second : Nat) (source : List α) :
    fillTo filler (first + second) source =
      fillTo filler first source ++ fillTo filler second (slice source first second) := by
  have hfirst : slice (fillTo filler (first + second) source) 0 first = fillTo filler first source := by
    rw [slice_fillTo filler (by omega), slice, List.drop_zero]
    exact fillTo_take filler first source
  rw [← slice_fillTo filler (Nat.le_refl (first + second)), ← hfirst, slice, slice, List.drop_zero,
    ← List.take_add, List.take_of_length_le (Nat.le_of_eq (length_fillTo ..))]

@[simp]
theorem overwrite_nil (target : List α) (offset : Nat) : overwrite target offset [] = target := by
  rw [overwrite, List.append_nil, List.length_nil, Nat.add_zero, List.take_append_drop]

end

end DragonOS.Lib
