import DragonOS.Boot.Surface

/-!
# Taking the cursor away again

Saving the background, drawing the cursor and restoring the background leaves
every word outside the saved array as it was. The rectangle is cut off at the
right and bottom edge of the screen, which may be smaller than the cursor.
-/

namespace DragonOS.Boot

open Lib

/-- The cursor's corner is on the screen, and none of the 32-bit sums that lead
to its last column and row wraps. -/
structure SoftwareCursor.StartsOn (header : GeneratedBitmap) (framebufferInfo : FramebufferInfo)
    (cursor : SoftwareCursor) : Prop where
  x_lt : cursor.x < framebufferInfo.screenWidth
  y_lt : cursor.y < framebufferInfo.screenHeight
  right_lt : cursor.x.toNat + header.cursorWidth.toNat < 2 ^ 32
  bottom_lt : cursor.y.toNat + header.cursorHeight.toNat < 2 ^ 32

theorem cutOff_le {position size axis : UInt32} (hposition : position < axis)
    (hsum : position.toNat + size.toNat < 2 ^ 32) :
    position.toNat + (if position + size > axis then axis - position else size).toNat ≤
        axis.toNat ∧
      (if position + size > axis then axis - position else size).toNat ≤ size.toNat := by
  have hexact := toNat_add_of_lt hsum
  have hrest := UInt32.toNat_sub_of_le _ _ (UInt32.le_of_lt hposition)
  rw [UInt32.lt_iff_toNat_lt] at hposition
  split <;> simp only [gt_iff_lt, UInt32.lt_iff_toNat_lt] at * <;> omega

section
variable {framebufferInfo : FramebufferInfo} {header : GeneratedBitmap} {cursor : SoftwareCursor}

theorem SoftwareCursor.StartsOn.inside (h : cursor.StartsOn header framebufferInfo) :
    (cursor.clip header framebufferInfo).Inside header framebufferInfo where
  right_le := (cutOff_le h.x_lt h.right_lt).1
  bottom_le := (cutOff_le h.y_lt h.bottom_lt).1
  width_le := (cutOff_le h.x_lt h.right_lt).2
  height_le := (cutOff_le h.y_lt h.bottom_lt).2

theorem exists_of_shows_rect {a : Nat} (h : framebufferInfo.Shows cursor.rect a) :
    ∃ k < cursor.savedWidth.toNat, ∃ row < cursor.savedHeight.toNat,
      a = framebufferInfo.pixelAt (cursor.x.toNat + k) (cursor.y.toNat + row) := by
  obtain ⟨x, y, -, -, hin, rfl⟩ := h
  rw [SoftwareCursor.rect, contains_ofWords] at hin
  refine ⟨x - cursor.x.toNat, by omega, y - cursor.y.toNat, by omega, ?_⟩
  rw [Nat.add_sub_cancel' hin.1, Nat.add_sub_cancel' hin.2.2.1]

theorem applyAll_save_restore (hsized : framebufferInfo.Sized)
    (hinside : cursor.Inside header framebufferInfo)
    (hapart : ∀ a, cursor.Saves header a → ¬ framebufferInfo.Owns a) {draw : Draw}
    (hdraw : OnScreen framebufferInfo cursor.rect draw) (memory : Memory UInt32)
    (ha : ¬ cursor.Saves header a) :
    applyAll (copyBackground header framebufferInfo cursor ++ draw ++
      copySavedPixels header framebufferInfo cursor) memory a = memory a := by
  have hsave := confined_copyBackground hinside hsized
  have hrestore := confined_copySavedPixels hinside hsized
  rw [applyAll_append, applyAll_append]
  by_cases hshows : framebufferInfo.Shows cursor.rect a
  · obtain ⟨k, hk, row, hrow, rfl⟩ := exists_of_shows_rect hshows
    have hword := saves_savedAt hinside hk hrow
    rw [applyAll_copySavedPixels hinside hsized hapart _ hk hrow,
      hdraw.frame (fun hin => hapart _ hword (hsized.shows_owns hin)),
      applyAll_copyBackground hinside hsized hapart _ hk hrow]
  · rw [hrestore.frame hshows, hdraw.frame hshows, hsave.frame ha]

/-- `SaveCursorBackground` and `DrawCursor`, with `Visible` set afterwards. -/
def showCursor (header : GeneratedBitmap) (framebufferInfo : FramebufferInfo)
    (cursor : SoftwareCursor) : SoftwareCursor × Draw :=
  let (cursor, save) := saveCursorBackground header framebufferInfo cursor
  ({ cursor with visible := 1 }, save ++ drawCursor header framebufferInfo cursor)

/-- Restoring after showing brings every word outside the saved array back, and
restoring once more does nothing. -/
theorem restoreCursorBackground_showCursor (hsized : framebufferInfo.Sized)
    (hstarts : cursor.StartsOn header framebufferInfo)
    (hapart : ∀ a, cursor.Saves header a → ¬ framebufferInfo.Owns a) (memory : Memory UInt32) :
    let shown := showCursor header framebufferInfo cursor
    let restored := restoreCursorBackground header framebufferInfo shown.1
    (∀ a, ¬ cursor.Saves header a → applyAll (shown.2 ++ restored.2) memory a = memory a) ∧
      (∀ a, framebufferInfo.Owns a → applyAll (shown.2 ++ restored.2) memory a = memory a) ∧
      restoreCursorBackground header framebufferInfo restored.1 = (restored.1, []) := by
  have hinside := hstarts.inside
  have hdraw := onScreen_drawCursor header hsized hinside.right_le hinside.bottom_le
  have hback := fun a (ha : ¬ cursor.Saves header a) =>
    applyAll_save_restore hsized hinside hapart hdraw memory ha
  exact ⟨hback, fun a howns => hback a fun hsaves => hapart a hsaves howns, rfl⟩

end

def cornerCursor : SoftwareCursor :=
  { (default : SoftwareCursor) with
    x := 639
    y := 479
    savedPixels := 0x1000
    resolvedPixels := fun _ => 0xFFFFFF
    opaqueMask := fun _ => 1 }

/-- In a memory where each word holds its address. -/
theorem restoreCursorBackground_showCursor_corner :
    let shown := showCursor plainBitmap vgaScreen cornerCursor
    let restored := restoreCursorBackground plainBitmap vgaScreen shown.1
    (∀ a, ¬ cornerCursor.Saves plainBitmap a →
      applyAll (shown.2 ++ restored.2) UInt32.ofNat a = UInt32.ofNat a) ∧
      (∀ a, vgaScreen.Owns a → applyAll (shown.2 ++ restored.2) UInt32.ofNat a = UInt32.ofNat a) ∧
      restoreCursorBackground plainBitmap vgaScreen restored.1 = (restored.1, []) := by
  have hend : 0x1000 + plainBitmap.cursorWidth.toNat * plainBitmap.cursorHeight.toNat ≤
      vgaScreen.framebuffer := by decide
  have hstarts : cornerCursor.StartsOn plainBitmap vgaScreen :=
    ⟨by decide, by decide, by decide, by decide⟩
  exact restoreCursorBackground_showCursor vgaScreen_sized hstarts
    (fun a hsaves howns => Nat.not_lt.mpr (hend.trans howns.1) hsaves.2) UInt32.ofNat

end DragonOS.Boot
