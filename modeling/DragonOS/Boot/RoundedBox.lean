import DragonOS.Boot.Paint
import DragonOS.Lib.RoundedShape
import DragonOS.Lib.SignedWords

/-!
# Rounded boxes

`pointInRoundedBox` finds its way through four corners with signed and unsigned
words. For a box whose radius is at most half its sides it accepts the rounded
rectangle of `InRounded`, so the shape is symmetric and its rows are intervals,
and `drawRoundedBox` paints what of it is on the screen.
-/

namespace DragonOS.Boot

open Lib

/-- The corners fit into the box, and neither the far edges nor a squared distance
overflows. -/
structure UiBox.Rounded (box : UiBox) : Prop where
  radius_pos : 1 ≤ box.radius.toNat
  radius_le : box.radius.toNat ≤ 32767
  radius_le_width : 2 * box.radius.toNat ≤ box.width.toNat
  radius_le_height : 2 * box.radius.toNat ≤ box.height.toNat
  width_lt : box.width.toNat < 2 ^ 31
  height_lt : box.height.toNat < 2 ^ 31
  right_lt : box.x.toNat + box.width.toNat < 2 ^ 32
  bottom_lt : box.y.toNat + box.height.toNat < 2 ^ 32

-- ---------------------------------------------------------------------------
-- The signed arithmetic
-- ---------------------------------------------------------------------------

theorem toInt_cornerOffset {radius size position : UInt32} (hradius : 1 ≤ radius.toNat)
    (hsize : 2 * radius.toNat ≤ size.toNat) (hlt : size.toNat < 2 ^ 31)
    (hposition : position < size) (hcorner : ¬ (position ≥ radius ∧ position < size - radius)) :
    (if position.toInt32 < radius.toInt32 then radius.toInt32 - 1 - position.toInt32
      else position.toInt32 - (size.toInt32 - radius.toInt32)).toInt =
      inset radius.toNat size.toNat position.toNat := by
  have hrest : (size - radius).toNat = size.toNat - radius.toNat := toNat_sub_of_ge (by omega)
  simp only [ge_iff_le, UInt32.le_iff_toNat_le, UInt32.lt_iff_toNat_lt, hrest] at hposition hcorner
  have hr := toInt_toInt32 radius
  have hs := toInt_toInt32 size
  have hp := toInt_toInt32 position
  rw [if_pos (by omega)] at hr hs hp
  have hone : (1 : Int32).toInt = 1 := rfl
  have hlast : (radius.toInt32 - 1).toInt = radius.toNat - 1 := by
    rw [toInt_sub_of_fits (by unfold Fits; omega), hr, hone]
  have hfar : (size.toInt32 - radius.toInt32).toInt = size.toNat - radius.toNat := by
    rw [toInt_sub_of_fits (by unfold Fits; omega), hs, hr]
  simp only [Int32.lt_iff_toInt_lt, hp, hr]
  unfold inset
  split
  · rw [toInt_sub_of_fits (by unfold Fits; omega), hlast, hp]
    omega
  · rw [toInt_sub_of_fits (by unfold Fits; omega), hfar, hp]
    omega

theorem squares_lt_iff {radius dx dy : Int32} {r a b : Nat} (hr : radius.toInt = r)
    (hdx : dx.toInt = a) (hdy : dy.toInt = b) (hbound : r ≤ 32767) (ha : a < r) (hb : b < r) :
    dx * dx + dy * dy < radius * radius ↔ a * a + b * b < r * r := by
  have hrr := Nat.mul_le_mul hbound hbound
  have haa := Nat.mul_self_le_mul_self (show a ≤ 32766 by omega)
  have hbb := Nat.mul_self_le_mul_self (show b ≤ 32766 by omega)
  have hsquare : ∀ {d : Int32} {n : Nat}, d.toInt = n → n * n ≤ 32767 * 32767 →
      (d * d).toInt = (n * n : Nat) := fun hd hn => by
    rw [toInt_mul_of_fits (by unfold Fits; rw [hd]; norm_cast; omega), hd, Nat.cast_mul]
  have hx := hsquare hdx (by omega)
  have hy := hsquare hdy (by omega)
  rw [Int32.lt_iff_toInt_lt, toInt_add_of_fits (by unfold Fits; omega), hx, hy, hsquare hr hrr]
  norm_cast

/-- What the function accepts, in exact arithmetic. -/
theorem pointInRoundedBox_iff {box : UiBox} (h : box.Rounded) (x y : UInt32) :
    pointInRoundedBox x y box ↔ box.x ≤ x ∧ box.y ≤ y ∧
      InRounded box.radius.toNat box.width.toNat box.height.toNat (x.toNat - box.x.toNat)
        (y.toNat - box.y.toNat) := by
  obtain ⟨hpos, hle, hwidth, hheight, hwlt, hhlt, hright, hbottom⟩ := h
  have hradius : ¬ box.radius.toInt32 ≤ 0 := by
    rw [Int32.le_iff_toInt_le, toInt_toInt32, if_pos (by omega), Int32.toInt_zero]
    omega
  unfold pointInRoundedBox
  split
  next hout =>
    simp only [ge_iff_le, UInt32.le_iff_toNat_le, UInt32.lt_iff_toNat_lt, toNat_add_of_lt hright,
      toNat_add_of_lt hbottom] at *
    unfold InRounded
    simp only [Bool.false_eq_true, false_iff]
    omega
  next hin =>
  simp only [ge_iff_le, not_or, UInt32.not_lt, UInt32.not_le] at hin
  obtain ⟨hx, hy, hxr, hyb⟩ := hin
  have hlx := UInt32.toNat_sub_of_le _ _ hx
  have hly := UInt32.toNat_sub_of_le _ _ hy
  rw [UInt32.lt_iff_toNat_lt, toNat_add_of_lt hright] at hxr
  rw [UInt32.lt_iff_toNat_lt, toNat_add_of_lt hbottom] at hyb
  have hcolumn : x - box.x < box.width := by
    rw [UInt32.le_iff_toNat_le] at hx
    rw [UInt32.lt_iff_toNat_lt]
    omega
  have hrow : y - box.y < box.height := by
    rw [UInt32.le_iff_toNat_le] at hy
    rw [UInt32.lt_iff_toNat_lt]
    omega
  simp only [hradius, if_false, UInt32.toUInt32_toInt32, hx, hy, true_and]
  rw [← hlx, ← hly]
  generalize x - box.x = column at hcolumn ⊢
  generalize y - box.y = row at hrow ⊢
  have hcolumnLt := UInt32.lt_iff_toNat_lt.mp hcolumn
  have hrowLt := UInt32.lt_iff_toNat_lt.mp hrow
  have hmiddle : ∀ {size position : UInt32}, 2 * box.radius.toNat ≤ size.toNat →
      position ≥ box.radius ∧ position < size - box.radius →
      inset box.radius.toNat size.toNat position.toNat = 0 := fun hsize hbetween => by
    rw [ge_iff_le, UInt32.le_iff_toNat_le, UInt32.lt_iff_toNat_lt,
      toNat_sub_of_ge (by omega)] at hbetween
    exact inset_of_middle hbetween.1 hbetween.2
  split
  next hbetween =>
    simp only [true_iff]
    exact .of_inset_zero hpos hcolumnLt hrowLt (.inl (hmiddle hwidth hbetween))
  next hcolumnCorner =>
  split
  next hbetween =>
    simp only [true_iff]
    exact .of_inset_zero hpos hcolumnLt hrowLt (.inr (hmiddle hheight hbetween))
  next hrowCorner =>
  rw [decide_eq_true_iff, squares_lt_iff (by rw [toInt_toInt32, if_pos (by omega)])
    (toInt_cornerOffset hpos hwidth hwlt hcolumn hcolumnCorner)
    (toInt_cornerOffset hpos hheight hhlt hrow hrowCorner) hle (inset_lt hpos hcolumnLt)
    (inset_lt hpos hrowLt)]
  exact ⟨fun hcircle => ⟨hcolumnLt, hrowLt, hcircle⟩, fun hshape => hshape.2.2⟩

-- ---------------------------------------------------------------------------
-- Painting the shape
-- ---------------------------------------------------------------------------

section
variable {framebufferInfo : FramebufferInfo} {box : UiBox}

theorem buttonArea_iff (h : box.Rounded) (a : Nat) :
    ButtonArea framebufferInfo box a ↔
      ∃ x y, x < framebufferInfo.screenWidth ∧ y < framebufferInfo.screenHeight ∧
        pointInRoundedBox x y box ∧ a = framebufferInfo.pixelAddress y x := by
  rw [ButtonArea, mem_written_drawRoundedBox]
  constructor
  · rintro ⟨row, -, column, -, hin, hbox, rfl⟩
    simp only [ge_iff_le, not_or, UInt32.not_le] at hin
    exact ⟨_, _, hin.1, hin.2, hbox, rfl⟩
  · rintro ⟨x, y, hx, hy, hbox, rfl⟩
    obtain ⟨hleft, hright, htop, hbottom⟩ := pointInRoundedBox_bounds hbox
    have hback : ∀ {corner position : UInt32}, corner + (position - corner) = position := by
      intro corner position
      rw [UInt32.add_comm, UInt32.sub_add_cancel]
    have hstep : ∀ {corner position size : UInt32}, corner ≤ position →
        corner.toNat + size.toNat < 2 ^ 32 → position < corner + size →
        position - corner < size := fun hcorner hsum hposition => by
      rw [UInt32.lt_iff_toNat_lt, toNat_add_of_lt hsum] at hposition
      rw [UInt32.lt_iff_toNat_lt, UInt32.toNat_sub_of_le _ _ hcorner]
      rw [UInt32.le_iff_toNat_le] at hcorner
      omega
    refine ⟨y - box.y, hstep htop h.bottom_lt hbottom, x - box.x, hstep hleft h.right_lt hright,
      ?_, ?_, ?_⟩
    · rw [hback, hback, ge_iff_le, ge_iff_le, not_or, UInt32.not_le, UInt32.not_le]
      exact ⟨hx, hy⟩
    · rwa [hback, hback]
    · rw [hback, hback]

theorem buttonArea_pixelAt (hsized : framebufferInfo.Sized) (h : box.Rounded) {x y : UInt32}
    (hx : x < framebufferInfo.screenWidth) (hy : y < framebufferInfo.screenHeight) :
    ButtonArea framebufferInfo box (framebufferInfo.pixelAt x.toNat y.toNat) ↔
      pointInRoundedBox x y box := by
  rw [buttonArea_iff h]
  constructor
  · rintro ⟨x', y', hx', hy', hbox, heq⟩
    rw [hsized.pixelAddress (UInt32.le_of_lt hx') hy',
      hsized.pixelAt_inj (UInt32.lt_iff_toNat_lt.mp hx) (UInt32.lt_iff_toNat_lt.mp hx')] at heq
    rwa [UInt32.toNat_inj.mp heq.1, UInt32.toNat_inj.mp heq.2]
  · exact fun hbox => ⟨x, y, hx, hy, hbox, (hsized.pixelAddress (UInt32.le_of_lt hx) hy).symm⟩

end

-- ---------------------------------------------------------------------------
-- The geometry
-- ---------------------------------------------------------------------------

section
variable {box : UiBox} (h : box.Rounded)
include h

theorem pointInRoundedBox_mirror_left_right {x x' : UInt32}
    (hmirror : x.toNat + x'.toNat + 1 = 2 * box.x.toNat + box.width.toNat) (y : UInt32) :
    pointInRoundedBox x y box = pointInRoundedBox x' y box := by
  have hwidth := h.radius_le_width
  rw [Bool.eq_iff_iff, pointInRoundedBox_iff h, pointInRoundedBox_iff h]
  simp only [UInt32.le_iff_toNat_le]
  by_cases hin : box.x.toNat ≤ x.toNat ∧ box.x.toNat ≤ x'.toNat
  · rw [InRounded.mirror_left_right (by omega)
      (show x.toNat - box.x.toNat + (x'.toNat - box.x.toNat) + 1 = box.width.toNat by omega)]
    simp only [hin, true_and]
  · -- Outside the box a column mirrors to one outside.
    unfold InRounded
    omega

theorem pointInRoundedBox_mirror_top_bottom {y y' : UInt32}
    (hmirror : y.toNat + y'.toNat + 1 = 2 * box.y.toNat + box.height.toNat) (x : UInt32) :
    pointInRoundedBox x y box = pointInRoundedBox x y' box := by
  have hheight := h.radius_le_height
  rw [Bool.eq_iff_iff, pointInRoundedBox_iff h, pointInRoundedBox_iff h]
  simp only [UInt32.le_iff_toNat_le]
  by_cases hin : box.y.toNat ≤ y.toNat ∧ box.y.toNat ≤ y'.toNat
  · rw [InRounded.mirror_top_bottom (by omega)
      (show y.toNat - box.y.toNat + (y'.toNat - box.y.toNat) + 1 = box.height.toNat by omega)]
    simp only [hin, true_and]
  · unfold InRounded
    omega

theorem pointInRoundedBox_row {y : UInt32} (htop : box.y ≤ y)
    (hbottom : y.toNat < box.y.toNat + box.height.toNat) :
    ∃ first last : UInt32, first ≤ last ∧
      ∀ x, pointInRoundedBox x y box ↔ first ≤ x ∧ x ≤ last := by
  have hright := h.right_lt
  have hy : y.toNat - box.y.toNat < box.height.toNat := by
    rw [UInt32.le_iff_toNat_le] at htop
    omega
  obtain ⟨first, last, hle, hlast, hrow⟩ := InRounded.row h.radius_pos h.radius_le_width hy
  have hword : ∀ n, n < box.width.toNat →
      (UInt32.ofNat (box.x.toNat + n)).toNat = box.x.toNat + n := fun n hn =>
    UInt32.toNat_ofNat_of_lt' (by rw [UInt32.size]; omega)
  refine ⟨UInt32.ofNat (box.x.toNat + first), UInt32.ofNat (box.x.toNat + last), ?_, fun x => ?_⟩
  · rw [UInt32.le_iff_toNat_le, hword _ (by omega), hword _ hlast]
    omega
  · rw [pointInRoundedBox_iff h, hrow]
    simp only [UInt32.le_iff_toNat_le, hword _ hlast, hword first (by omega)] at htop ⊢
    omega

theorem pointInRoundedBox_toward_middle {y y' : UInt32}
    (htoward : y ≤ y' ∧ y.toNat + y'.toNat + 1 ≤ 2 * box.y.toNat + box.height.toNat ∨
      y' ≤ y ∧ 2 * box.y.toNat + box.height.toNat ≤ y.toNat + y'.toNat + 1)
    (hbox : pointInRoundedBox x y box) : pointInRoundedBox x y' box := by
  have hheight := h.radius_le_height
  rw [pointInRoundedBox_iff h] at hbox ⊢
  obtain ⟨hx, hy, hshape⟩ := hbox
  have hbound := hshape.2.1
  simp only [UInt32.le_iff_toNat_le] at htoward hx hy ⊢
  exact ⟨hx, by omega, hshape.toward_middle (by omega) (by omega)⟩

end

/-- The shape that is drawn and hit: symmetric, one interval in each row that grows
towards the middle, and painted where it is on the screen and nowhere else. -/
structure UiBox.Geometry (box : UiBox) : Prop where
  left_right : ∀ x x' y : UInt32, x.toNat + x'.toNat + 1 = 2 * box.x.toNat + box.width.toNat →
    pointInRoundedBox x y box = pointInRoundedBox x' y box
  top_bottom : ∀ x y y' : UInt32, y.toNat + y'.toNat + 1 = 2 * box.y.toNat + box.height.toNat →
    pointInRoundedBox x y box = pointInRoundedBox x y' box
  row : ∀ y : UInt32, box.y ≤ y → y.toNat < box.y.toNat + box.height.toNat →
    ∃ first last : UInt32, first ≤ last ∧ ∀ x, pointInRoundedBox x y box ↔ first ≤ x ∧ x ≤ last
  toward_middle : ∀ x y y' : UInt32,
    (y ≤ y' ∧ y.toNat + y'.toNat + 1 ≤ 2 * box.y.toNat + box.height.toNat ∨
      y' ≤ y ∧ 2 * box.y.toNat + box.height.toNat ≤ y.toNat + y'.toNat + 1) →
    pointInRoundedBox x y box → pointInRoundedBox x y' box
  painted : ∀ (framebufferInfo : FramebufferInfo) (memory : Memory UInt32) (x y : UInt32),
    x < framebufferInfo.screenWidth → y < framebufferInfo.screenHeight →
    pointInRoundedBox x y box →
    applyAll (drawRoundedBox framebufferInfo box) memory (framebufferInfo.pixelAddress y x) =
      box.color
  untouched : ∀ (framebufferInfo : FramebufferInfo) (memory : Memory UInt32) (a : Nat),
    (¬ ∃ x y, x < framebufferInfo.screenWidth ∧ y < framebufferInfo.screenHeight ∧
      pointInRoundedBox x y box ∧ a = framebufferInfo.pixelAddress y x) →
    applyAll (drawRoundedBox framebufferInfo box) memory a = memory a
  pixel : ∀ (framebufferInfo : FramebufferInfo) (memory : Memory UInt32) (x y : UInt32),
    framebufferInfo.Sized → x < framebufferInfo.screenWidth → y < framebufferInfo.screenHeight →
    applyAll (drawRoundedBox framebufferInfo box) memory
        (framebufferInfo.pixelAt x.toNat y.toNat) =
      if pointInRoundedBox x y box then box.color
      else memory (framebufferInfo.pixelAt x.toNat y.toNat)

theorem roundedBox_geometry {box : UiBox} (h : box.Rounded) : box.Geometry where
  left_right _ _ y hmirror := pointInRoundedBox_mirror_left_right h hmirror y
  top_bottom x _ _ hmirror := pointInRoundedBox_mirror_top_bottom h hmirror x
  row _ htop hbottom := pointInRoundedBox_row h htop hbottom
  toward_middle _ _ _ htoward hbox := pointInRoundedBox_toward_middle h htoward hbox
  painted framebufferInfo memory x y hx hy hbox := by
    rw [applyAll_drawRoundedBox, if_pos ((buttonArea_iff h _).mpr ⟨x, y, hx, hy, hbox, rfl⟩)]
  untouched framebufferInfo memory a ha := by
    rw [applyAll_drawRoundedBox, if_neg fun harea => ha ((buttonArea_iff h a).mp harea)]
  pixel framebufferInfo memory x y hsized hx hy := by
    simp only [applyAll_drawRoundedBox, buttonArea_pixelAt hsized h hx hy]

def sampleButton : UiBox where
  x := 280
  y := 154
  width := 240
  height := 64
  radius := 24
  color := 0xE3E3E5

theorem roundedBox_geometry_button : sampleButton.Geometry :=
  roundedBox_geometry ⟨by decide, by decide, by decide, by decide, by decide, by decide, by decide,
    by decide⟩

end DragonOS.Boot
