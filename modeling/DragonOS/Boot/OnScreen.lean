import DragonOS.Boot.Cursor
import DragonOS.Boot.Transfer

/-!
# Drawing stays on screen

Every drawing primitive is confined to the part of its own rectangle that is on
the screen, whatever its arguments. The rectangle has exact coordinates, so a
position that wrapped around would not be in it.

`Call` lists the primitives with their arguments; `Call.draw_onScreen` is the
one theorem about all of them.
-/

namespace DragonOS.Boot

open Lib

-- ---------------------------------------------------------------------------
-- Pixels of a screen
-- ---------------------------------------------------------------------------

structure Rect where
  x : Int
  y : Int
  width : Nat
  height : Nat

def Rect.Contains (rect : Rect) (x y : Nat) : Prop :=
  rect.x ≤ x ∧ (x : Int) < rect.x + rect.width ∧ rect.y ≤ y ∧ (y : Int) < rect.y + rect.height

instance (rect : Rect) (x y : Nat) : Decidable (rect.Contains x y) := by
  unfold Rect.Contains; infer_instance

/-- The remark records an index that did not wrap, or a read inside its table. -/
def Remark.InOrder : Remark → Prop
  | .offset y pitch x step => y.toNat * pitch.toNat + x.toNat + step.toNat < 2 ^ 32
  | .fetch index length => index < length

namespace FramebufferInfo

/-- A scan line holds a row, and the pixel count fits in a word. -/
structure Sized (framebufferInfo : FramebufferInfo) : Prop where
  width_le : framebufferInfo.screenWidth.toNat ≤ framebufferInfo.pixelsPerScanLine.toNat
  count_lt :
    framebufferInfo.pixelsPerScanLine.toNat * framebufferInfo.screenHeight.toNat < 2 ^ 32

def pixelAt (framebufferInfo : FramebufferInfo) (x y : Nat) : Nat :=
  framebufferInfo.framebuffer + (y * framebufferInfo.pixelsPerScanLine.toNat + x)

def Shows (framebufferInfo : FramebufferInfo) (rect : Rect) (a : Nat) : Prop :=
  ∃ x y, x < framebufferInfo.screenWidth.toNat ∧ y < framebufferInfo.screenHeight.toNat ∧
    rect.Contains x y ∧ a = framebufferInfo.pixelAt x y

variable {framebufferInfo : FramebufferInfo}

theorem Sized.index_lt (hsized : framebufferInfo.Sized)
    (hx : x ≤ framebufferInfo.screenWidth.toNat) (hy : y < framebufferInfo.screenHeight.toNat) :
    y * framebufferInfo.pixelsPerScanLine.toNat + x < 2 ^ 32 := by
  have hwidth := hsized.width_le
  have hcount := hsized.count_lt
  have hrows : (y + 1) * framebufferInfo.pixelsPerScanLine.toNat ≤
      framebufferInfo.screenHeight.toNat * framebufferInfo.pixelsPerScanLine.toNat :=
    Nat.mul_le_mul_right _ hy
  rw [Nat.add_mul, Nat.one_mul, Nat.mul_comm framebufferInfo.screenHeight.toNat] at hrows
  omega

theorem Sized.toNat_index {x y step : UInt32} (hsized : framebufferInfo.Sized)
    (hx : x.toNat + step.toNat ≤ framebufferInfo.screenWidth.toNat)
    (hy : y < framebufferInfo.screenHeight) :
    (y * framebufferInfo.pixelsPerScanLine + x + step).toNat =
      y.toNat * framebufferInfo.pixelsPerScanLine.toNat + (x.toNat + step.toNat) := by
  have := hsized.index_lt hx (UInt32.lt_iff_toNat_lt.mp hy)
  have hproduct := toNat_mul_of_lt (a := y) (b := framebufferInfo.pixelsPerScanLine) (by omega)
  rw [toNat_add_of_lt, toNat_add_of_lt, hproduct, Nat.add_assoc] <;>
    simp only [UInt32.toNat_add, hproduct] <;> omega

theorem Sized.pixelAddress {x y : UInt32} (hsized : framebufferInfo.Sized)
    (hx : x ≤ framebufferInfo.screenWidth) (hy : y < framebufferInfo.screenHeight) :
    framebufferInfo.pixelAddress y x = framebufferInfo.pixelAt x.toNat y.toNat := by
  have hx : x.toNat + (0 : UInt32).toNat ≤ framebufferInfo.screenWidth.toNat :=
    UInt32.le_iff_toNat_le.mp hx
  have := hsized.toNat_index hx hy
  simp only [UInt32.add_zero, UInt32.toNat_zero, Nat.add_zero] at this
  rw [FramebufferInfo.pixelAddress, this, pixelAt]

end FramebufferInfo

-- ---------------------------------------------------------------------------
-- Pixels, rows and table entries
-- ---------------------------------------------------------------------------

section
variable {framebufferInfo : FramebufferInfo} {rect : Rect} {mayWrite mayRead : Nat → Prop}

abbrev OnScreen (framebufferInfo : FramebufferInfo) (rect : Rect) (draw : Draw) : Prop :=
  Confined (framebufferInfo.Shows rect) (framebufferInfo.Shows rect) Remark.InOrder draw

theorem FramebufferInfo.Sized.offset {x y step : UInt32} (hsized : framebufferInfo.Sized)
    (hx : x.toNat + step.toNat ≤ framebufferInfo.screenWidth.toNat)
    (hy : y < framebufferInfo.screenHeight) :
    Confined mayWrite mayRead Remark.InOrder (framebufferInfo.offset y x step) := by
  have := hsized.index_lt hx (UInt32.lt_iff_toNat_lt.mp hy)
  simp only [FramebufferInfo.offset, confined_note, Remark.InOrder]
  omega

theorem shows_pixelAddress {x y : UInt32} (hsized : framebufferInfo.Sized)
    (hx : x < framebufferInfo.screenWidth) (hy : y < framebufferInfo.screenHeight)
    (hrect : rect.Contains x.toNat y.toNat) :
    framebufferInfo.Shows rect (framebufferInfo.pixelAddress y x) :=
  ⟨x.toNat, y.toNat, UInt32.lt_iff_toNat_lt.mp hx, UInt32.lt_iff_toNat_lt.mp hy, hrect,
    hsized.pixelAddress (UInt32.le_of_lt hx) hy⟩

theorem onScreen_storePixel {x y : UInt32} (hsized : framebufferInfo.Sized)
    (hx : x < framebufferInfo.screenWidth) (hy : y < framebufferInfo.screenHeight)
    (hrect : rect.Contains x.toNat y.toNat) (value : UInt32) :
    OnScreen framebufferInfo rect (framebufferInfo.storePixel y x value) := by
  rw [FramebufferInfo.storePixel, OnScreen, confined_append, confined_store]
  exact ⟨hsized.offset (Nat.le_of_lt (UInt32.lt_iff_toNat_lt.mp hx)) hy,
    shows_pixelAddress hsized hx hy hrect⟩

theorem onScreen_blendPixel {x y : UInt32} (hsized : framebufferInfo.Sized)
    (hx : x < framebufferInfo.screenWidth) (hy : y < framebufferInfo.screenHeight)
    (hrect : rect.Contains x.toNat y.toNat) (color : Rgb) (alpha : UInt8) :
    OnScreen framebufferInfo rect (framebufferInfo.blendPixel y x color alpha) := by
  rw [FramebufferInfo.blendPixel, OnScreen, confined_append, confined_modify]
  exact ⟨hsized.offset (Nat.le_of_lt (UInt32.lt_iff_toNat_lt.mp hx)) hy,
    shows_pixelAddress hsized hx hy hrect, shows_pixelAddress hsized hx hy hrect⟩

theorem onScreen_storePixelInRow {startX x y : UInt32} (hsized : framebufferInfo.Sized)
    (hx : startX.toNat + x.toNat < framebufferInfo.screenWidth.toNat)
    (hy : y < framebufferInfo.screenHeight)
    (hrect : rect.Contains (startX.toNat + x.toNat) y.toNat) (value : UInt32) :
    OnScreen framebufferInfo rect (framebufferInfo.storePixelInRow y startX x value) := by
  rw [FramebufferInfo.storePixelInRow, OnScreen, confined_append, confined_store,
    hsized.toNat_index (Nat.le_of_lt hx) hy]
  exact ⟨hsized.offset (Nat.le_of_lt hx) hy, _, _, hx, UInt32.lt_iff_toNat_lt.mp hy, hrect, rfl⟩

theorem shows_row {x y width : UInt32} (hsized : framebufferInfo.Sized)
    (hx : x.toNat + width.toNat ≤ framebufferInfo.screenWidth.toNat)
    (hy : y < framebufferInfo.screenHeight)
    (hrect : ∀ k < width.toNat, rect.Contains (x.toNat + k) y.toNat) :
    ∀ k < width.toNat, framebufferInfo.Shows rect (framebufferInfo.pixelAddress y x + k) := by
  intro k hk
  refine ⟨x.toNat + k, y.toNat, by omega, UInt32.lt_iff_toNat_lt.mp hy, hrect k hk, ?_⟩
  rw [hsized.pixelAddress (UInt32.le_iff_toNat_le.mpr (by omega)) hy, FramebufferInfo.pixelAt,
    FramebufferInfo.pixelAt]
  omega

theorem confined_fillPixels32 (h : ∀ k < count.toNat, mayWrite (destination + k)) :
    Confined mayWrite mayRead Remark.InOrder (fillPixels32 destination count color) := by
  intro effect he
  rcases mem_fillPixels32 he with ⟨k, hk, rfl⟩ | ⟨k, hk, rfl⟩
  · simpa [Effect.writes, Effect.reads] using h k hk
  · simpa [Effect.writes, Effect.reads] using ⟨h k (by omega), h (k + 1) hk⟩

theorem confined_copyPixels32 (hd : ∀ k < count.toNat, mayWrite (destination + k))
    (hs : ∀ k < count.toNat, mayRead (source + k)) :
    Confined mayWrite mayRead Remark.InOrder (copyPixels32 destination source count) := by
  intro effect he
  rcases mem_copyPixels32 he with ⟨k, hk, rfl⟩ | ⟨k, hk, rfl⟩
  · simpa [Effect.writes, Effect.reads] using ⟨hd k hk, hs k hk⟩
  · simpa [Effect.writes, Effect.reads] using
      ⟨⟨hd k (by omega), hd (k + 1) hk⟩, hs k (by omega), hs (k + 1) hk⟩

theorem confined_fetch (h : index.toNat < table.length) :
    Confined mayWrite mayRead Remark.InOrder (fetch table index) := by
  simpa [fetch, Remark.InOrder] using h

end

-- ---------------------------------------------------------------------------
-- Rectangles
-- ---------------------------------------------------------------------------

section
variable {framebufferInfo : FramebufferInfo}

def Rect.ofWords (x y width height : UInt32) : Rect :=
  { x := x.toNat, y := y.toNat, width := width.toNat, height := height.toNat }

theorem contains_ofWords {x y width height : UInt32} {X Y : Nat} :
    (Rect.ofWords x y width height).Contains X Y ↔
      x.toNat ≤ X ∧ X < x.toNat + width.toNat ∧ y.toNat ≤ Y ∧ Y < y.toNat + height.toNat := by
  simp only [Rect.Contains, Rect.ofWords]
  omega

theorem onScreen_clearRect (hsized : framebufferInfo.Sized) (x y width height color : UInt32) :
    OnScreen framebufferInfo (.ofWords x y width height)
      (clearRect framebufferInfo x y width height color) := by
  unfold clearRect
  split
  · exact confined_nil
  next hin =>
  simp only [ge_iff_le, not_or, UInt32.not_le] at hin
  simp only [OnScreen, confined_flatMap, confined_append, mem_upTo]
  intro row hrow
  have hx := UInt32.lt_iff_toNat_lt.mp hin.1
  have hy := UInt32.lt_iff_toNat_lt.mp hin.2
  rw [UInt32.lt_iff_toNat_lt, toNat_ite_gt,
    UInt32.toNat_sub_of_le _ _ (UInt32.le_of_lt hin.2)] at hrow
  have hheight := framebufferInfo.screenHeight.toNat_lt
  have hrowSum := toNat_add_of_lt (a := y) (b := row) (by omega)
  have hrowIn : y + row < framebufferInfo.screenHeight := by
    rw [UInt32.lt_iff_toNat_lt]; omega
  refine ⟨hsized.offset (by simpa using Nat.le_of_lt hx) hrowIn, confined_fillPixels32 ?_⟩
  apply shows_row hsized _ hrowIn
  · intro k hk
    rw [toNat_ite_gt] at hk
    rw [contains_ofWords]
    omega
  · rw [toNat_ite_gt, UInt32.toNat_sub_of_le _ _ (UInt32.le_of_lt hin.1)]
    omega

def blitRow (destination source : FramebufferInfo) (x y width : UInt32) : Draw :=
  destination.offset y x 0 ++ source.offset y x 0 ++
    copyPixels32 (destination.pixelAddress y x) (source.pixelAddress y x) width

/-- The rectangle that is left after both surfaces have cut it off. -/
theorem blitSurfaceRect_rows (destination source : FramebufferInfo) {x y : UInt32}
    (width height : UInt32) (hd : destination.framebuffer ≠ 0) (hs : source.framebuffer ≠ 0)
    (hxd : x < destination.screenWidth) (hyd : y < destination.screenHeight)
    (hxs : x < source.screenWidth) (hys : y < source.screenHeight) :
    ∃ w h : UInt32,
      w.toNat = min width.toNat (min (destination.screenWidth.toNat - x.toNat)
        (source.screenWidth.toNat - x.toNat)) ∧
      h.toNat = min height.toNat (min (destination.screenHeight.toNat - y.toNat)
        (source.screenHeight.toNat - y.toNat)) ∧
      blitSurfaceRect destination source x y width height =
        (upTo h).flatMap fun row => blitRow destination source x (y + row) w := by
  have hout : ¬ (x ≥ destination.screenWidth ∨ y ≥ destination.screenHeight ∨
      x ≥ source.screenWidth ∨ y ≥ source.screenHeight) := by
    simp only [ge_iff_le, not_or, UInt32.not_le]
    exact ⟨hxd, hyd, hxs, hys⟩
  unfold blitSurfaceRect
  rw [if_neg (not_or.mpr ⟨hd, hs⟩), if_neg hout]
  refine ⟨_, _, ?_, ?_, rfl⟩
  · rw [toNat_ite_gt, toNat_ite_gt, UInt32.toNat_sub_of_le _ _ (UInt32.le_of_lt hxd),
      UInt32.toNat_sub_of_le _ _ (UInt32.le_of_lt hxs)]
  · rw [toNat_ite_gt, toNat_ite_gt, UInt32.toNat_sub_of_le _ _ (UInt32.le_of_lt hyd),
      UInt32.toNat_sub_of_le _ _ (UInt32.le_of_lt hys)]

theorem confined_blitSurfaceRect {destination source : FramebufferInfo} (hd : destination.Sized)
    (hs : source.Sized) (x y width height : UInt32) :
    Confined (destination.Shows (.ofWords x y width height))
      (source.Shows (.ofWords x y width height)) Remark.InOrder
      (blitSurfaceRect destination source x y width height) := by
  by_cases hnull : destination.framebuffer = 0 ∨ source.framebuffer = 0
  · rw [blitSurfaceRect, if_pos hnull]
    exact confined_nil
  by_cases hout : x ≥ destination.screenWidth ∨ y ≥ destination.screenHeight ∨
      x ≥ source.screenWidth ∨ y ≥ source.screenHeight
  · rw [blitSurfaceRect, if_neg hnull, if_pos hout]
    exact confined_nil
  simp only [ge_iff_le, not_or, UInt32.not_le] at hnull hout
  obtain ⟨hxd, hyd, hxs, hys⟩ := hout
  obtain ⟨w, h, hw, hh, heq⟩ := blitSurfaceRect_rows destination source width height hnull.1
    hnull.2 hxd hyd hxs hys
  rw [heq]
  simp only [confined_flatMap, blitRow, confined_append, mem_upTo]
  intro row hrow
  rw [UInt32.lt_iff_toNat_lt] at hrow hxd hyd hxs hys
  have hheight := destination.screenHeight.toNat_lt
  have hrowSum := toNat_add_of_lt (a := y) (b := row) (by omega)
  have hrowD : y + row < destination.screenHeight := by rw [UInt32.lt_iff_toNat_lt]; omega
  have hrowS : y + row < source.screenHeight := by rw [UInt32.lt_iff_toNat_lt]; omega
  have hrect : ∀ k < w.toNat,
      (Rect.ofWords x y width height).Contains (x.toNat + k) (y + row).toNat := by
    intro k hk
    rw [contains_ofWords]
    omega
  refine ⟨⟨hd.offset ?_ hrowD, hs.offset ?_ hrowS⟩, confined_copyPixels32
    (shows_row hd (by omega) hrowD hrect) (shows_row hs (by omega) hrowS hrect)⟩ <;>
    rw [UInt32.toNat_zero] <;> omega

theorem pointInRoundedBox_bounds {x y : UInt32} {box : UiBox} (h : pointInRoundedBox x y box) :
    box.x ≤ x ∧ x < box.x + box.width ∧ box.y ≤ y ∧ y < box.y + box.height := by
  unfold pointInRoundedBox at h
  split at h
  · cases h
  · rename_i hin
    simp only [ge_iff_le, not_or, UInt32.not_lt, UInt32.not_le] at hin
    exact ⟨hin.1, hin.2.2.1, hin.2.1, hin.2.2.2⟩

/-- A column that wraps around lands left of the box, which excludes it. -/
theorem contains_of_pointInRoundedBox {x y : UInt32} {box : UiBox}
    (h : pointInRoundedBox x y box) :
    (Rect.ofWords box.x box.y box.width box.height).Contains x.toNat y.toNat := by
  have hbounds := pointInRoundedBox_bounds h
  simp only [UInt32.le_iff_toNat_le, UInt32.lt_iff_toNat_lt] at hbounds
  have := toNat_add_le box.x box.width
  have := toNat_add_le box.y box.height
  rw [contains_ofWords]
  omega

theorem onScreen_drawRoundedBox (hsized : framebufferInfo.Sized) (box : UiBox) :
    OnScreen framebufferInfo (.ofWords box.x box.y box.width box.height)
      (drawRoundedBox framebufferInfo box) := by
  simp only [drawRoundedBox, OnScreen, confined_flatMap]
  intro row _ column _
  split
  · exact confined_nil
  next hin =>
  simp only [ge_iff_le, not_or, UInt32.not_le] at hin
  split
  next hbox =>
    exact onScreen_storePixel hsized hin.1 hin.2 (contains_of_pointInRoundedBox hbox) _
  · exact confined_nil

end

-- ---------------------------------------------------------------------------
-- Glyphs
-- ---------------------------------------------------------------------------

def Rect.ofSigned (x y : Int32) (width height : Nat) : Rect :=
  { x := x.toInt, y := y.toInt, width, height }

def Rect.Fits (rect : Rect) : Prop :=
  rect.x + rect.width ≤ 2 ^ 32 ∧ rect.y + rect.height ≤ 2 ^ 32

def FramebufferInfo.screen (framebufferInfo : FramebufferInfo) : Rect :=
  .ofWords 0 0 framebufferInfo.screenWidth framebufferInfo.screenHeight

/-- `rect` bounds what is drawn at a signed position: it is the rectangle there,
when that fits, or the whole screen. -/
def Rect.Bounds (rect : Rect) (framebufferInfo : FramebufferInfo) (x y : Int32)
    (width height : Nat) : Prop :=
  (rect = .ofSigned x y width height ∧ rect.Fits) ∨ rect = framebufferInfo.screen

section
variable {framebufferInfo : FramebufferInfo} {rect : Rect} {x y : Int32}

theorem onScreen_shownPixel {column row : UInt32} {exactX exactY width height : Nat}
    (hsized : framebufferInfo.Sized) (hbounds : rect.Bounds framebufferInfo x y width height)
    (hx : ¬ (x + column.toInt32 < 0 ∨ x + column.toInt32 ≥ framebufferInfo.screenWidth.toInt32))
    (hy : ¬ (y + row.toInt32 < 0 ∨ y + row.toInt32 ≥ framebufferInfo.screenHeight.toInt32))
    (hcolumn : column.toNat = exactX % 2 ^ 32) (hrow : row.toNat = exactY % 2 ^ 32)
    (hwidth : exactX < width) (hheight : exactY < height) (color : Rgb) (alpha : UInt8) :
    OnScreen framebufferInfo rect
      (framebufferInfo.blendPixel (y + row.toInt32).toUInt32 (x + column.toInt32).toUInt32 color
        alpha) := by
  have hinX := lt_of_shown hx
  have hinY := lt_of_shown hy
  refine onScreen_blendPixel hsized hinX hinY ?_ color alpha
  rcases hbounds with ⟨rfl, hfits⟩ | rfl
  · simp only [Rect.Fits, Rect.ofSigned] at hfits
    have hexactX := toNat_of_shown hcolumn (by omega) hx
    have hexactY := toNat_of_shown hrow (by omega) hy
    simp only [Rect.Contains, Rect.ofSigned]
    omega
  · rw [UInt32.lt_iff_toNat_lt] at hinX hinY
    rw [FramebufferInfo.screen, contains_ofWords, UInt32.toNat_zero]
    omega

theorem cellIndex_lt {glyphIndex glyphWidth glyphHeight row column : UInt32} {count : Nat}
    (hglyph : glyphIndex.toNat < count) (hrow : row < glyphHeight) (hcolumn : column < glyphWidth) :
    (glyphIndex * glyphWidth * glyphHeight + row * glyphWidth + column).toNat <
      count * glyphWidth.toNat * glyphHeight.toNat := by
  rw [UInt32.lt_iff_toNat_lt] at hrow hcolumn
  calc (glyphIndex * glyphWidth * glyphHeight + row * glyphWidth + column).toNat
      ≤ glyphIndex.toNat * glyphWidth.toNat * glyphHeight.toNat + row.toNat * glyphWidth.toNat +
          column.toNat := by
        refine Nat.le_trans (toNat_add_le _ _)
          (Nat.add_le_add_right (Nat.le_trans (toNat_add_le _ _) ?_) _)
        exact Nat.add_le_add (Nat.le_trans (toNat_mul_le _ _)
          (Nat.mul_le_mul_right _ (toNat_mul_le _ _))) (toNat_mul_le _ _)
    _ < glyphIndex.toNat * glyphWidth.toNat * glyphHeight.toNat +
          (row.toNat + 1) * glyphWidth.toNat := by rw [Nat.add_one_mul]; omega
    _ ≤ glyphIndex.toNat * glyphWidth.toNat * glyphHeight.toNat +
          glyphHeight.toNat * glyphWidth.toNat :=
        Nat.add_le_add_left (Nat.mul_le_mul_right _ hrow) _
    _ = (glyphIndex.toNat + 1) * glyphWidth.toNat * glyphHeight.toNat := by
        rw [Nat.add_one_mul, Nat.add_mul, Nat.mul_comm glyphHeight.toNat]
    _ ≤ count * glyphWidth.toNat * glyphHeight.toNat :=
        Nat.mul_le_mul_right _ (Nat.mul_le_mul_right _ hglyph)

theorem onScreen_drawGlyphCells {glyphIndex glyphWidth glyphHeight : UInt32}
    {glyphAlpha : List UInt8} {count : Nat} (hsized : framebufferInfo.Sized)
    (hbounds : rect.Bounds framebufferInfo x y glyphWidth.toNat glyphHeight.toNat)
    (hglyph : glyphIndex.toNat < count)
    (hlength : glyphAlpha.length = count * glyphWidth.toNat * glyphHeight.toNat) (color : Rgb) :
    OnScreen framebufferInfo rect
      (drawGlyphCells framebufferInfo x y color glyphIndex glyphWidth glyphHeight glyphAlpha) := by
  simp only [drawGlyphCells, OnScreen, confined_flatMap, mem_upTo]
  intro row hrow
  split
  · exact confined_nil
  next hy =>
  simp only [confined_flatMap, mem_upTo]
  intro column hcolumn
  split
  · exact confined_nil
  next hx =>
  rw [confined_append]
  refine ⟨confined_fetch (hlength ▸ cellIndex_lt hglyph hrow hcolumn), ?_⟩
  split
  · exact confined_nil
  · exact onScreen_shownPixel hsized hbounds hx hy (Nat.mod_eq_of_lt column.toNat_lt).symm
      (Nat.mod_eq_of_lt row.toNat_lt).symm (UInt32.lt_iff_toNat_lt.mp hcolumn)
      (UInt32.lt_iff_toNat_lt.mp hrow) color _

theorem glyphIndex_lt {glyph firstChar glyphCount : UInt32}
    (h : ¬ (glyph < firstChar ∨ glyph ≥ firstChar + glyphCount)) :
    (glyph - firstChar).toNat < glyphCount.toNat := by
  simp only [not_or, ge_iff_le, UInt32.not_le, UInt32.not_lt] at h
  have := toNat_add_le firstChar glyphCount
  rw [UInt32.toNat_sub_of_le _ _ h.1]
  simp only [UInt32.le_iff_toNat_le, UInt32.lt_iff_toNat_lt] at h
  omega

def FontAtlas.cell (font : FontAtlas) (x y : Int32) : Rect :=
  .ofSigned x y font.glyphWidth.toNat font.glyphHeight.toNat

theorem onScreen_drawGlyphAtlas (hsized : framebufferInfo.Sized) (font : FontAtlas)
    (hbounds : rect.Bounds framebufferInfo x y font.glyphWidth.toNat font.glyphHeight.toNat)
    (glyph : UInt8) (color : Rgb) :
    OnScreen framebufferInfo rect
      (drawGlyphAtlas framebufferInfo x y glyph color font.firstChar font.glyphCount
        font.glyphWidth font.glyphHeight font.alpha) := by
  unfold drawGlyphAtlas
  split
  · exact confined_nil
  next hglyph =>
    exact onScreen_drawGlyphCells hsized hbounds (glyphIndex_lt hglyph) font.alpha_length color

variable (header : GeneratedBitmap)

def FontAtlas.scaledCell (font : FontAtlas) (x y : Int32) (scale : UInt32) : Rect :=
  .ofSigned x y (font.glyphWidth.toNat * scale.toNat) (font.glyphHeight.toNat * scale.toNat)

theorem scaledStep_lt {cell step cells scale : UInt32} (hcell : cell < cells)
    (hstep : step < scale) :
    cell.toNat * scale.toNat + step.toNat < cells.toNat * scale.toNat := by
  rw [UInt32.lt_iff_toNat_lt] at hcell hstep
  have := Nat.mul_le_mul_right scale.toNat hcell
  rw [Nat.add_one_mul] at this
  omega

theorem onScreen_drawGlyphScaled (hsized : framebufferInfo.Sized) (scale : UInt32)
    (hfits : (header.font.scaledCell x y scale).Fits) (glyph : UInt8) (color : Rgb) :
    OnScreen framebufferInfo (header.font.scaledCell x y scale)
      (drawGlyphScaled header framebufferInfo x y glyph color scale) := by
  unfold drawGlyphScaled
  split
  · exact confined_nil
  next hglyph =>
  rw [not_or] at hglyph
  simp only [OnScreen, confined_flatMap, confined_append, mem_upTo]
  intro row hrow column hcolumn
  have hindex := header.font.alpha_length ▸
    cellIndex_lt (glyphIndex_lt hglyph.2) hrow hcolumn
  refine ⟨confined_fetch hindex, ?_⟩
  split
  · exact confined_nil
  simp only [confined_flatMap, mem_upTo]
  intro scaleY hscaleY
  split
  · exact confined_nil
  next hy =>
  simp only [confined_flatMap, mem_upTo]
  intro scaleX hscaleX
  split
  · exact confined_nil
  next hx =>
    exact onScreen_shownPixel hsized (.inl ⟨rfl, hfits⟩) hx hy (by simp [UInt32.toNat_add])
      (by simp [UInt32.toNat_add]) (scaledStep_lt hcolumn hscaleX) (scaledStep_lt hrow hscaleY)
      color _

end

-- ---------------------------------------------------------------------------
-- Images
-- ---------------------------------------------------------------------------

section
variable {framebufferInfo : FramebufferInfo}

/-- Both sampled positions are in the source, also when the product wraps: that
only makes it smaller. -/
theorem samplePosition_lt {position drawSize sourceSize : UInt32} (hposition : position < drawSize)
    (hsource : sourceSize ≠ 0) :
    (samplePosition position drawSize sourceSize).first < sourceSize ∧
      (samplePosition position drawSize sourceSize).next < sourceSize := by
  have hpos : 0 < sourceSize.toNat := by
    rw [Nat.pos_iff_ne_zero, ne_eq, ← UInt32.toNat_zero, UInt32.toNat_inj]
    exact hsource
  have hfirst : (samplePosition position drawSize sourceSize).first < sourceSize := by
    simp only [samplePosition, UInt32.lt_iff_toNat_lt, UInt32.toNat_shiftRight]
    split
    next hdraw =>
      have hdraw : 1 < drawSize.toNat := hdraw
      have hposition := UInt32.lt_iff_toNat_lt.mp hposition
      have hsize : (sourceSize - 1).toNat = sourceSize.toNat - 1 :=
        toNat_sub_of_ge hpos
      have hlast : (drawSize - 1).toNat = drawSize.toNat - 1 :=
        toNat_sub_of_ge (Nat.le_of_lt hdraw)
      have hfixed : (position * (sourceSize - 1) * 256).toNat ≤
          (sourceSize.toNat - 1) * 256 * (drawSize.toNat - 1) := calc
        _ ≤ position.toNat * (sourceSize.toNat - 1) * 256 := by
          rw [← hsize]
          exact Nat.le_trans (toNat_mul_le _ _) (Nat.mul_le_mul_right _ (toNat_mul_le _ _))
        _ ≤ (drawSize.toNat - 1) * (sourceSize.toNat - 1) * 256 :=
          Nat.mul_le_mul_right _ (Nat.mul_le_mul_right _ (by omega))
        _ = _ := by rw [Nat.mul_assoc, Nat.mul_comm]
      rw [UInt32.toNat_div, hlast]
      have := Nat.div_le_of_le_mul (Nat.mul_comm _ _ ▸ hfixed)
      simp only [UInt32.reduceToNat, Nat.reduceMod, Nat.shiftRight_eq_div_pow]
      omega
    · simpa using hpos
  refine ⟨hfirst, ?_⟩
  have hnext : (samplePosition position drawSize sourceSize).next =
      if (samplePosition position drawSize sourceSize).first + 1 < sourceSize then
        (samplePosition position drawSize sourceSize).first + 1
      else (samplePosition position drawSize sourceSize).first := rfl
  rw [hnext]
  split
  · assumption
  · exact hfirst

theorem tableIndex_lt {sourceWidth sourceHeight scale channel x y : UInt32}
    (hx : x < sourceWidth) (hy : y < sourceHeight) (hchannel : channel < scale) :
    ((y * sourceWidth + x) * scale + channel).toNat <
      sourceWidth.toNat * sourceHeight.toNat * scale.toNat := by
  have hcell := scaledStep_lt hy hx
  rw [UInt32.lt_iff_toNat_lt] at hchannel
  calc ((y * sourceWidth + x) * scale + channel).toNat
      ≤ (y.toNat * sourceWidth.toNat + x.toNat) * scale.toNat + channel.toNat := by
        refine Nat.le_trans (toNat_add_le _ _) (Nat.add_le_add_right
          (Nat.le_trans (toNat_mul_le _ _) (Nat.mul_le_mul_right _ ?_)) _)
        exact Nat.le_trans (toNat_add_le _ _) (Nat.add_le_add_right (toNat_mul_le _ _) _)
    _ < (y.toNat * sourceWidth.toNat + x.toNat + 1) * scale.toNat := by
        rw [Nat.add_one_mul]; omega
    _ ≤ sourceHeight.toNat * sourceWidth.toNat * scale.toNat := Nat.mul_le_mul_right _ hcell
    _ = _ := by rw [Nat.mul_comm sourceHeight.toNat]

theorem confined_weightedFetches {mayWrite mayRead : Nat → Prop} {table : List UInt8}
    {sourceWidth sourceHeight scale channel : UInt32} {column row : Sample}
    (hlength : table.length = sourceWidth.toNat * sourceHeight.toNat * scale.toNat)
    (hcolumn : column.first < sourceWidth ∧ column.next < sourceWidth)
    (hrow : row.first < sourceHeight ∧ row.next < sourceHeight) (hchannel : channel < scale) :
    Confined mayWrite mayRead Remark.InOrder
      (weightedFetches table sourceWidth scale channel column row) := by
  simp only [weightedFetches, confined_flatMap, List.forall_mem_cons, List.not_mem_nil,
    false_implies, implies_true, and_true]
  refine ⟨?_, ?_, ?_, ?_⟩ <;> refine confined_fetch (hlength ▸ tableIndex_lt ?_ ?_ hchannel)
  exacts [hcolumn.1, hrow.1, hcolumn.2, hrow.1, hcolumn.1, hrow.2, hcolumn.2, hrow.2]

theorem onScreen_drawImageNearestAlpha {rect : Rect} {x y : Int32} {drawWidth drawHeight : UInt32}
    (hsized : framebufferInfo.Sized) (image : AlphaPixelTable)
    (hbounds : rect.Bounds framebufferInfo x y drawWidth.toNat drawHeight.toNat) :
    OnScreen framebufferInfo rect
      (drawImageNearestAlpha framebufferInfo x y drawWidth drawHeight image.width image.height
        image.pixels image.alpha) := by
  unfold drawImageNearestAlpha
  split
  · exact confined_nil
  next hsize =>
  simp only [not_or] at hsize
  simp only [OnScreen, confined_flatMap, mem_upTo]
  intro row hrow
  split
  · exact confined_nil
  next hy =>
  simp only [confined_flatMap, mem_upTo]
  intro column hcolumn
  split
  · exact confined_nil
  next hx =>
  have hsampleX := samplePosition_lt hcolumn hsize.2.2.1
  have hsampleY := samplePosition_lt hrow hsize.2.2.2
  rw [confined_append]
  refine ⟨confined_weightedFetches (by simpa using image.alpha_length) hsampleX hsampleY
    (by decide), ?_⟩
  split
  · exact confined_nil
  rw [confined_append, confined_flatMap]
  have hchannel : ∀ k ∈ [0, 1, 2], k < (3 : UInt32) := by simp
  exact ⟨fun k hk =>
      confined_weightedFetches image.pixels_length hsampleX hsampleY (hchannel k hk),
    onScreen_shownPixel hsized hbounds hx hy (Nat.mod_eq_of_lt column.toNat_lt).symm
      (Nat.mod_eq_of_lt row.toNat_lt).symm (UInt32.lt_iff_toNat_lt.mp hcolumn)
      (UInt32.lt_iff_toNat_lt.mp hrow) _ _⟩

variable (header : GeneratedBitmap)

def SplashRect.rect (splashRect : SplashRect) : Rect :=
  .ofWords splashRect.startX splashRect.startY splashRect.drawWidth splashRect.drawHeight

theorem centred_le {size axis : UInt32} (h : size.toNat ≤ axis.toNat) :
    (if axis > size then (axis - size) >>> 1 else 0).toNat + size.toNat ≤ axis.toNat := by
  split
  next hgt =>
    rw [toNat_shiftRight_one, UInt32.toNat_sub_of_le _ _ (UInt32.le_of_lt hgt)]
    omega
  · simpa using h

theorem computeSplashRect_le (framebufferInfo : FramebufferInfo) (scale1024 : UInt32) :
    let rect := computeSplashRect header framebufferInfo scale1024
    rect.startX.toNat + rect.drawWidth.toNat ≤ framebufferInfo.screenWidth.toNat ∧
      rect.startY.toNat + rect.drawHeight.toNat ≤ framebufferInfo.screenHeight.toNat := by
  have hwidth : (if header.splash.width * scale1024 / 1024 > framebufferInfo.screenWidth then
      framebufferInfo.screenWidth else header.splash.width * scale1024 / 1024).toNat ≤
        framebufferInfo.screenWidth.toNat := by
    rw [toNat_ite_gt]; exact Nat.min_le_right _ _
  have hheight : (if header.splash.height * scale1024 / 1024 > framebufferInfo.screenHeight then
      framebufferInfo.screenHeight else header.splash.height * scale1024 / 1024).toNat ≤
        framebufferInfo.screenHeight.toNat := by
    rw [toNat_ite_gt]; exact Nat.min_le_right _ _
  simp only [computeSplashRect]
  revert hwidth hheight
  generalize (if _ > framebufferInfo.screenWidth then _ else _) = drawWidth
  generalize (if _ > framebufferInfo.screenHeight then _ else _) = drawHeight
  intro hwidth hheight
  split
  · simpa using ⟨hwidth, hheight⟩
  · exact ⟨centred_le hwidth, centred_le hheight⟩

theorem computeSplashRect_source (framebufferInfo : FramebufferInfo) (scale1024 : UInt32) :
    ((computeSplashRect header framebufferInfo scale1024).drawWidth ≠ 0 →
      header.splash.width ≠ 0) ∧
    ((computeSplashRect header framebufferInfo scale1024).drawHeight ≠ 0 →
      header.splash.height ≠ 0) := by
  simp only [computeSplashRect, apply_ite SplashRect.drawWidth, apply_ite SplashRect.drawHeight,
    ite_self]
  constructor <;> intro h hzero <;> simp [hzero] at h

theorem scaledIndex_lt {position drawSize sourceSize : UInt32} (h : position < drawSize)
    (hsource : sourceSize ≠ 0) : position * sourceSize / drawSize < sourceSize := by
  have hpos : 0 < sourceSize.toNat := by
    rw [Nat.pos_iff_ne_zero, ne_eq, ← UInt32.toNat_zero, UInt32.toNat_inj]
    exact hsource
  rw [UInt32.lt_iff_toNat_lt] at h
  rw [UInt32.lt_iff_toNat_lt, UInt32.toNat_div, Nat.div_lt_iff_lt_mul (by omega)]
  calc (position * sourceSize).toNat ≤ position.toNat * sourceSize.toNat := toNat_mul_le _ _
    _ < drawSize.toNat * sourceSize.toNat := Nat.mul_lt_mul_of_pos_right h hpos
    _ = _ := Nat.mul_comm _ _

/-- The rows and pixels of the splash are indexed like `tableIndex_lt`, but the
row is scaled by the pixel size first. -/
theorem splashIndex_lt {sourceX sourceY width height k : UInt32} (hx : sourceX < width)
    (hy : sourceY < height) (hk : k < 3) :
    (sourceY * width * 3 + sourceX * 3 + k).toNat < width.toNat * height.toNat * 3 := by
  have hindex := tableIndex_lt hx hy hk
  rwa [UInt32.add_mul] at hindex

theorem onScreen_drawSplashFrame (hsized : framebufferInfo.Sized) (alpha : UInt8)
    (scale1024 : UInt32) :
    OnScreen framebufferInfo (computeSplashRect header framebufferInfo scale1024).rect
      (drawSplashFrame header framebufferInfo alpha scale1024) := by
  have hplace := computeSplashRect_le header framebufferInfo scale1024
  have hsource := computeSplashRect_source header framebufferInfo scale1024
  unfold drawSplashFrame
  revert hplace hsource
  generalize computeSplashRect header framebufferInfo scale1024 = rect
  intro hplace hsource
  simp only at hplace ⊢
  split
  · exact confined_nil
  next hsize =>
  simp only [not_or] at hsize
  have hwidth := hsource.1 hsize.1
  have hheight := hsource.2 hsize.2
  simp only [OnScreen, confined_flatMap, confined_append, mem_upTo]
  intro y hy x hx
  have hchannel : ∀ k ∈ [0, 1, 2], k < (3 : UInt32) := by simp
  refine ⟨fun k hk => confined_fetch ?_, ?_⟩
  · rw [header.splash.pixels_length]
    exact splashIndex_lt (scaledIndex_lt hx hwidth) (scaledIndex_lt hy hheight) (hchannel k hk)
  · rw [UInt32.lt_iff_toNat_lt] at hx hy
    have hscreen := framebufferInfo.screenHeight.toNat_lt
    have hrow := toNat_add_of_lt (a := rect.startY) (b := y) (by omega)
    refine onScreen_storePixelInRow hsized (by omega)
      (by rw [UInt32.lt_iff_toNat_lt]; omega) ?_ _
    rw [SplashRect.rect, contains_ofWords]
    omega

end

-- ---------------------------------------------------------------------------
-- The cursor
-- ---------------------------------------------------------------------------

section
variable {framebufferInfo : FramebufferInfo} (header : GeneratedBitmap) {cursor : SoftwareCursor}

/-- The cursor is on the screen as far as the screen is large enough for it. -/
structure SoftwareCursor.Clamped (framebufferInfo : FramebufferInfo) (cursor : SoftwareCursor) :
    Prop where
  x_le : cursor.x.toNat ≤ framebufferInfo.screenWidth.toNat - header.cursorWidth.toNat
  y_le : cursor.y.toNat ≤ framebufferInfo.screenHeight.toNat - header.cursorHeight.toNat

def SoftwareCursor.rect (cursor : SoftwareCursor) : Rect :=
  .ofWords cursor.x cursor.y cursor.savedWidth cursor.savedHeight

theorem toNat_clipped {position size axis : UInt32}
    (h : position.toNat ≤ axis.toNat - size.toNat) :
    (if position + size > axis then axis - position else size).toNat =
      min size.toNat axis.toNat := by
  have haxis := axis.toNat_lt
  have hsize := size.toNat_lt
  have hsum := toNat_add_of_lt (a := position) (b := size) (by omega)
  have hsub : (axis - position).toNat = axis.toNat - position.toNat :=
    toNat_sub_of_ge (by omega)
  split <;> simp only [gt_iff_lt, UInt32.lt_iff_toNat_lt] at * <;> omega

theorem SoftwareCursor.Clamped.toNat_clip (h : cursor.Clamped header framebufferInfo) :
    (cursor.clip header framebufferInfo).savedWidth.toNat =
        min header.cursorWidth.toNat framebufferInfo.screenWidth.toNat ∧
      (cursor.clip header framebufferInfo).savedHeight.toNat =
        min header.cursorHeight.toNat framebufferInfo.screenHeight.toNat :=
  ⟨toNat_clipped h.x_le, toNat_clipped h.y_le⟩

def SoftwareCursor.Saves (cursor : SoftwareCursor) (a : Nat) : Prop :=
  cursor.savedPixels ≤ a ∧
    a < cursor.savedPixels + header.cursorWidth.toNat * header.cursorHeight.toNat

theorem confined_saveCursorBackground (hsized : framebufferInfo.Sized)
    (hclamped : cursor.Clamped header framebufferInfo) :
    Confined (cursor.Saves header)
      (framebufferInfo.Shows (cursor.clip header framebufferInfo).rect) Remark.InOrder
      (saveCursorBackground header framebufferInfo cursor).2 := by
  obtain ⟨hwidth, hheight⟩ := hclamped.toNat_clip
  have hx := hclamped.x_le
  have hy := hclamped.y_le
  have hscreen := framebufferInfo.screenHeight.toNat_lt
  simp only [saveCursorBackground, copyBackground, confined_flatMap, confined_append, mem_upTo]
  intro row hrow
  rw [UInt32.lt_iff_toNat_lt, hheight] at hrow
  have hsum := toNat_add_of_lt (a := cursor.y) (b := row) (by omega)
  have hin : cursor.y + row < framebufferInfo.screenHeight := by
    rw [UInt32.lt_iff_toNat_lt]; omega
  refine ⟨hsized.offset (x := cursor.x) (by rw [UInt32.toNat_zero]; omega) hin,
    confined_copyPixels32 ?_ (shows_row hsized (x := cursor.x) (by omega) hin ?_)⟩
  · intro k hk
    have hsaved := toNat_mul_le row header.cursorWidth
    have hrows := Nat.mul_le_mul_right header.cursorWidth.toNat
      (show row.toNat + 1 ≤ header.cursorHeight.toNat by omega)
    rw [Nat.add_one_mul, Nat.mul_comm header.cursorHeight.toNat] at hrows
    show cursor.savedPixels ≤ _ ∧ _ < _
    simp only [SoftwareCursor.clip] at *
    omega
  · intro k hk
    rw [SoftwareCursor.rect, contains_ofWords]
    simp only [SoftwareCursor.clip] at *
    omega

theorem onScreen_drawCursor (hsized : framebufferInfo.Sized)
    (hright : cursor.x.toNat + cursor.savedWidth.toNat ≤ framebufferInfo.screenWidth.toNat)
    (hbottom : cursor.y.toNat + cursor.savedHeight.toNat ≤ framebufferInfo.screenHeight.toNat) :
    OnScreen framebufferInfo cursor.rect (drawCursor header framebufferInfo cursor) := by
  have hscreen := framebufferInfo.screenHeight.toNat_lt
  simp only [drawCursor, OnScreen, confined_flatMap, mem_upTo]
  intro row hrow column hcolumn
  rw [UInt32.lt_iff_toNat_lt] at hrow hcolumn
  have hsum := toNat_add_of_lt (a := cursor.y) (b := row) (by omega)
  split
  · exact confined_nil
  · refine onScreen_storePixelInRow hsized (by omega)
      (by rw [UInt32.lt_iff_toNat_lt]; omega) ?_ _
    rw [SoftwareCursor.rect, contains_ofWords]
    omega

end

-- ---------------------------------------------------------------------------
-- All primitives
-- ---------------------------------------------------------------------------

inductive Call
  | clearRect (x y width height color : UInt32)
  | blitSurfaceRect (source : FramebufferInfo) (x y width height : UInt32)
  | drawRoundedBox (box : UiBox)
  | drawGlyph (x y : Int32) (glyph : UInt8) (color : Rgb)
  | drawGlyphAtlas (font : FontAtlas) (x y : Int32) (glyph : UInt8) (color : Rgb)
  | drawGlyphScaled (x y : Int32) (glyph : UInt8) (color : Rgb) (scale : UInt32)
  | drawIconGlyph (x y : Int32) (glyph : UInt8) (color : Rgb)
  | drawImageNearestAlpha (image : AlphaPixelTable) (x y : Int32) (drawWidth drawHeight : UInt32)
  | drawSplashFrame (alpha : UInt8) (scale1024 : UInt32)
  | saveCursorBackground (cursor : SoftwareCursor)
  | drawCursor (cursor : SoftwareCursor)

namespace Call

variable (header : GeneratedBitmap) (framebufferInfo : FramebufferInfo)

def draw : Call → Draw
  | clearRect x y width height color => Boot.clearRect framebufferInfo x y width height color
  | blitSurfaceRect source x y width height =>
    Boot.blitSurfaceRect framebufferInfo source x y width height
  | drawRoundedBox box => Boot.drawRoundedBox framebufferInfo box
  | drawGlyph x y glyph color => Boot.drawGlyph header framebufferInfo x y glyph color
  | drawGlyphAtlas font x y glyph color =>
    Boot.drawGlyphAtlas framebufferInfo x y glyph color font.firstChar font.glyphCount
      font.glyphWidth font.glyphHeight font.alpha
  | drawGlyphScaled x y glyph color scale =>
    Boot.drawGlyphScaled header framebufferInfo x y glyph color scale
  | drawIconGlyph x y glyph color => Boot.drawIconGlyph header framebufferInfo x y glyph color
  | drawImageNearestAlpha image x y drawWidth drawHeight =>
    Boot.drawImageNearestAlpha framebufferInfo x y drawWidth drawHeight image.width image.height
      image.pixels image.alpha
  | drawSplashFrame alpha scale1024 => Boot.drawSplashFrame header framebufferInfo alpha scale1024
  | saveCursorBackground cursor => (Boot.saveCursorBackground header framebufferInfo cursor).2
  | drawCursor cursor => Boot.drawCursor header framebufferInfo cursor

def rect : Call → Rect
  | clearRect x y width height _ | blitSurfaceRect _ x y width height => .ofWords x y width height
  | drawRoundedBox box => .ofWords box.x box.y box.width box.height
  | drawGlyph x y _ _ => header.font.cell x y
  | drawGlyphAtlas font x y _ _ => font.cell x y
  | drawGlyphScaled x y _ _ scale => header.font.scaledCell x y scale
  | drawIconGlyph x y _ _ => header.iconFont.cell x y
  | drawImageNearestAlpha _ x y drawWidth drawHeight =>
    .ofSigned x y drawWidth.toNat drawHeight.toNat
  | drawSplashFrame _ scale1024 => (computeSplashRect header framebufferInfo scale1024).rect
  | saveCursorBackground cursor => (cursor.clip header framebufferInfo).rect
  | drawCursor cursor => cursor.rect

/-- Signed positions leave the far corner in a word, a source surface is sized
like the destination, and the cursor is clamped; it is drawn where its
background was saved. -/
def Fits : Call → Prop
  | clearRect .. | drawRoundedBox _ | drawSplashFrame .. => True
  | blitSurfaceRect source .. => source.Sized
  | drawGlyph x y _ _ => (header.font.cell x y).Fits
  | drawGlyphAtlas font x y _ _ => (font.cell x y).Fits
  | drawGlyphScaled x y _ _ scale => (header.font.scaledCell x y scale).Fits
  | drawIconGlyph x y _ _ => (header.iconFont.cell x y).Fits
  | drawImageNearestAlpha _ x y drawWidth drawHeight =>
    (Rect.ofSigned x y drawWidth.toNat drawHeight.toNat).Fits
  | saveCursorBackground cursor => cursor.Clamped header framebufferInfo
  | drawCursor cursor =>
    cursor.Clamped header framebufferInfo ∧ cursor.clip header framebufferInfo = cursor

/-- Saving the background writes the cursor's own array, everything else writes
pixels of the call's rectangle. -/
def MayWrite (call : Call) (a : Nat) : Prop :=
  match call with
  | saveCursorBackground cursor => cursor.Saves header a
  | call => framebufferInfo.Shows (call.rect header framebufferInfo) a

/-- A blit reads its source surface, everything else the screen. -/
def MayRead (call : Call) (a : Nat) : Prop :=
  match call with
  | blitSurfaceRect source x y width height => source.Shows (.ofWords x y width height) a
  | call => framebufferInfo.Shows (call.rect header framebufferInfo) a

variable {header framebufferInfo}

theorem confined_draw (hsized : framebufferInfo.Sized) {call : Call}
    (hfits : call.Fits header framebufferInfo) :
    Confined (call.MayWrite header framebufferInfo) (call.MayRead header framebufferInfo)
      Remark.InOrder (call.draw header framebufferInfo) := by
  cases call with
  | clearRect x y width height color => exact onScreen_clearRect hsized x y width height color
  | blitSurfaceRect source x y width height =>
    exact confined_blitSurfaceRect hsized hfits x y width height
  | drawRoundedBox box => exact onScreen_drawRoundedBox hsized box
  | drawGlyph x y glyph color => exact onScreen_drawGlyphAtlas hsized header.font (.inl ⟨rfl, hfits⟩) glyph color
  | drawGlyphAtlas font x y glyph color =>
    exact onScreen_drawGlyphAtlas hsized font (.inl ⟨rfl, hfits⟩) glyph color
  | drawGlyphScaled x y glyph color scale =>
    exact onScreen_drawGlyphScaled header hsized scale hfits glyph color
  | drawIconGlyph x y glyph color =>
    exact onScreen_drawGlyphAtlas hsized header.iconFont (.inl ⟨rfl, hfits⟩) glyph color
  | drawImageNearestAlpha image x y drawWidth drawHeight =>
    exact onScreen_drawImageNearestAlpha hsized image (.inl ⟨rfl, hfits⟩)
  | drawSplashFrame alpha scale1024 => exact onScreen_drawSplashFrame header hsized alpha scale1024
  | saveCursorBackground cursor => exact confined_saveCursorBackground header hsized hfits
  | drawCursor cursor =>
    obtain ⟨hwidth, hheight⟩ := hfits.1.toNat_clip
    rw [hfits.2] at hwidth hheight
    have hx := hfits.1.x_le
    have hy := hfits.1.y_le
    exact onScreen_drawCursor header hsized (by omega) (by omega)

/-- Every access is to a pixel of the call's rectangle that is on the screen, no
index wraps, every table read is inside its table, and everything else keeps
its value. -/
theorem draw_onScreen (hsized : framebufferInfo.Sized) (call : Call)
    (hfits : call.Fits header framebufferInfo) :
    Confined (call.MayWrite header framebufferInfo) (call.MayRead header framebufferInfo)
      Remark.InOrder (call.draw header framebufferInfo) ∧
    ∀ memory a, ¬ call.MayWrite header framebufferInfo a →
      applyAll (call.draw header framebufferInfo) memory a = memory a :=
  ⟨confined_draw hsized hfits, fun memory _ ha => (confined_draw hsized hfits).frame ha memory⟩

end Call

def FontAtlas.blank (glyphWidth glyphHeight : UInt32) : FontAtlas where
  firstChar := 32
  glyphCount := 95
  glyphWidth
  glyphHeight
  alpha := List.replicate (95 * glyphWidth.toNat * glyphHeight.toNat) 0
  advance := List.replicate 95 8
  alpha_length := by simp
  advance_length := by simp

def FontAtlas.inked (glyphWidth glyphHeight : UInt32) (advance : UInt8) : FontAtlas where
  firstChar := 32
  glyphCount := 95
  glyphWidth
  glyphHeight
  alpha := List.replicate (95 * glyphWidth.toNat * glyphHeight.toNat) 255
  advance := List.replicate 95 advance
  alpha_length := by simp
  advance_length := by simp

def AlphaPixelTable.dot (alpha : UInt8) : AlphaPixelTable where
  width := 1
  height := 1
  pixels := [255, 255, 255]
  alpha := [alpha]
  pixels_length := rfl
  pixels_lt := by decide
  alpha_length := rfl

/-- Fonts without ink and a cursor of one white pixel. -/
def plainBitmap : GeneratedBitmap where
  splash := (AlphaPixelTable.dot 255).toPixelTable
  cursor := .dot 255
  setupIcon := .dot 0
  font := .blank 24 32
  iconFont := .blank 8 8
  setupTitleFont := .blank 72 96
  setupUiFont := .blank 40 56

/-- Two of the fonts have ink. -/
def inkedBitmap : GeneratedBitmap :=
  { plainBitmap with font := .inked 6 4 3, setupUiFont := .inked 40 56 20 }

def vgaScreen : FramebufferInfo where
  screenWidth := 640
  screenHeight := 480
  pixelsPerScanLine := 640
  pixelFormat := gopPixelRedGreenBlueReserved8Bit
  redMask := 0
  greenMask := 0
  blueMask := 0
  framebuffer := 0x20000000

theorem vgaScreen_sized : vgaScreen.Sized where
  width_le := by decide
  count_lt := by decide

/-- A scaled glyph that the screen cuts off at its bottom right corner. -/
theorem Call.draw_onScreen_scaledGlyph :
    let call := Call.drawGlyphScaled 630 470 65 ⟨255, 255, 255⟩ 3
    vgaScreen.pixelAt 639 479 ∈ written (call.draw inkedBitmap vgaScreen) ∧
    Confined (call.MayWrite inkedBitmap vgaScreen) (call.MayRead inkedBitmap vgaScreen)
      Remark.InOrder (call.draw inkedBitmap vgaScreen) ∧
    ∀ memory a, ¬ call.MayWrite inkedBitmap vgaScreen a →
      applyAll (call.draw inkedBitmap vgaScreen) memory a = memory a :=
  ⟨by decide +kernel, Call.draw_onScreen vgaScreen_sized _ ⟨by decide, by decide⟩⟩

end DragonOS.Boot
