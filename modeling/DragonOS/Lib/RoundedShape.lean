import Mathlib.Algebra.Order.Ring.Int
import Mathlib.Data.Nat.Find
import Mathlib.Tactic.Common

/-!
# Rectangles with rounded corners

A cell of a grid belongs to the shape when its distances into the corner
squares, across and down, are the legs of a triangle inside the corner circle.
Along each axis that distance is the same from both ends, largest at the ends
and zero in between, so the shape is symmetric, every row is one interval, and
the rows only grow towards the middle.
-/

namespace DragonOS.Lib

-- ---------------------------------------------------------------------------
-- One axis
-- ---------------------------------------------------------------------------

/-- How far a position reaches into the first or last `radius` cells of an axis. -/
def inset (radius size position : Nat) : Nat :=
  max (radius - 1 - position) (position - (size - radius))

theorem inset_lt (hradius : 0 < radius) (hposition : position < size) :
    inset radius size position < radius := by
  unfold inset
  omega

theorem inset_mirror (hsize : radius ≤ size) (h : position + mirrored + 1 = size) :
    inset radius size position = inset radius size mirrored := by
  unfold inset
  omega

theorem inset_between (hfirst : first ≤ position) (hlast : position ≤ last) :
    inset radius size position ≤ max (inset radius size first) (inset radius size last) :=
  max_le
    (((Nat.sub_le_sub_left hfirst _).trans (le_max_left _ _)).trans (le_max_left _ _))
    (((Nat.sub_le_sub_right hlast _).trans (le_max_right _ _)).trans (le_max_right _ _))

theorem inset_toward (hsize : radius ≤ size) (hle : outer ≤ position)
    (hmirror : outer + position + 1 ≤ size) :
    inset radius size position ≤ inset radius size outer := by
  unfold inset
  omega

theorem inset_past_corner (hsize : 2 * radius ≤ size) : inset radius size (radius - 1) = 0 := by
  unfold inset
  omega

theorem inset_of_middle (hlow : radius ≤ position) (hhigh : position < size - radius) :
    inset radius size position = 0 := by
  unfold inset
  omega

-- ---------------------------------------------------------------------------
-- The shape
-- ---------------------------------------------------------------------------

def InRounded (radius width height x y : Nat) : Prop :=
  x < width ∧ y < height ∧
    inset radius width x * inset radius width x + inset radius height y * inset radius height y <
      radius * radius

theorem InRounded.mirror_left_right (hwidth : radius ≤ width) (h : x + x' + 1 = width) :
    InRounded radius width height x y ↔ InRounded radius width height x' y := by
  have hsame := inset_mirror hwidth h
  rw [InRounded, InRounded, hsame]
  omega

theorem InRounded.mirror_top_bottom (hheight : radius ≤ height) (h : y + y' + 1 = height) :
    InRounded radius width height x y ↔ InRounded radius width height x y' := by
  have hsame := inset_mirror hheight h
  rw [InRounded, InRounded, hsame]
  omega

theorem InRounded.between (hfirst : InRounded radius width height first y)
    (hlast : InRounded radius width height last y) (h : first ≤ x) (h' : x ≤ last) :
    InRounded radius width height x y := by
  refine ⟨Nat.lt_of_le_of_lt h' hlast.1, hfirst.2.1, ?_⟩
  have hinset : inset radius width x ≤ max (inset radius width first) (inset radius width last) :=
    inset_between h h'
  rcases Nat.le_total (inset radius width first) (inset radius width last) with hle | hle
  · rw [Nat.max_eq_right hle] at hinset
    exact Nat.lt_of_le_of_lt (Nat.add_le_add_right (Nat.mul_le_mul hinset hinset) _) hlast.2.2
  · rw [Nat.max_eq_left hle] at hinset
    exact Nat.lt_of_le_of_lt (Nat.add_le_add_right (Nat.mul_le_mul hinset hinset) _) hfirst.2.2

theorem InRounded.toward_middle (hheight : radius ≤ height)
    (h : InRounded radius width height x y)
    (htoward : y ≤ y' ∧ y + y' + 1 ≤ height ∨ y' ≤ y ∧ height ≤ y + y' + 1) :
    InRounded radius width height x y' := by
  obtain ⟨hx, hy, hcircle⟩ := h
  have hinset : inset radius height y' ≤ inset radius height y := by
    rcases htoward with ⟨hle, hmirror⟩ | ⟨hle, hmirror⟩
    · exact inset_toward hheight hle hmirror
    · rw [inset_mirror hheight (show y + (height - 1 - y) + 1 = height by omega)]
      by_cases hlow : height - 1 - y ≤ y'
      · exact inset_toward hheight hlow (by omega)
      · omega
  exact ⟨hx, by omega, Nat.lt_of_le_of_lt
    (Nat.add_le_add_left (Nat.mul_le_mul hinset hinset) _) hcircle⟩

theorem InRounded.of_inset_zero (hradius : 0 < radius) (hx : x < width) (hy : y < height)
    (h : inset radius width x = 0 ∨ inset radius height y = 0) :
    InRounded radius width height x y := by
  refine ⟨hx, hy, ?_⟩
  rcases h with h | h
  · rw [h, Nat.zero_mul, Nat.zero_add]
    exact Nat.mul_self_lt_mul_self (inset_lt hradius hy)
  · rw [h, Nat.zero_mul, Nat.add_zero]
    exact Nat.mul_self_lt_mul_self (inset_lt hradius hx)

/-- Every row is an interval that is not empty. -/
theorem InRounded.row (hradius : 0 < radius) (hwidth : 2 * radius ≤ width) (hy : y < height) :
    ∃ first last, first ≤ last ∧ last < width ∧
      ∀ x, InRounded radius width height x y ↔ first ≤ x ∧ x ≤ last := by
  classical
  have hsome : ∃ x, InRounded radius width height x y :=
    ⟨radius - 1, of_inset_zero hradius (by omega) hy (.inl (inset_past_corner hwidth))⟩
  have hfirst := Nat.find_spec hsome
  have hwide := hfirst.1
  -- The last cell mirrors the first one.
  have hlast : InRounded radius width height (width - 1 - Nat.find hsome) y :=
    (mirror_left_right (by omega) (by omega)).mp hfirst
  refine ⟨Nat.find hsome, width - 1 - Nat.find hsome, Nat.find_min' hsome hlast, by omega,
    fun x => ⟨fun hx => ⟨Nat.find_min' hsome hx, ?_⟩, fun hx => hfirst.between hlast hx.1 hx.2⟩⟩
  have hbound := hx.1
  have hmirrored := (mirror_left_right (by omega)
    (show x + (width - 1 - x) + 1 = width by omega)).mp hx
  have := Nat.find_min' hsome hmirrored
  omega

end DragonOS.Lib
