import DragonOS.Boot.OnScreen

/-!
# Surfaces

What the row-wise operations do to pixels. `blitSurfaceRect` and the cursor's
save and restore are all copies of rows; `applyAll_copyRows` is the one fact
about them. `drawCursor` lays the picture of the cursor over a surface
(`overlay`).
-/

namespace DragonOS.Boot

open Lib

-- ---------------------------------------------------------------------------
-- Copies of rows
-- ---------------------------------------------------------------------------

/-- A rectangle copied row by row. `notes` stands for the remarks of a row. -/
def copyRows (notes : UInt32 → Draw) (destination source : UInt32 → Nat) (width height : UInt32) :
    Draw :=
  (upTo height).flatMap fun row =>
    notes row ++ copyPixels32 (destination row) (source row) width

section
variable {notes : UInt32 → Draw} {destination source : UInt32 → Nat} {width height : UInt32}

theorem mem_written_copyRows (hnotes : ∀ row, written (notes row) = []) :
    a ∈ written (copyRows notes destination source width height) ↔
      ∃ row < height, ∃ k < width.toNat, a = destination row + k := by
  simp only [copyRows, mem_written_flatMap, mem_upTo, written_append, hnotes, List.nil_append,
    mem_written_copyPixels32]
  constructor
  · rintro ⟨row, hrow, ha⟩
    exact ⟨row, hrow, a - destination row, by omega, by omega⟩
  · rintro ⟨row, hrow, k, hk, rfl⟩
    exact ⟨row, hrow, by omega, by omega⟩

theorem yields_of_written_nil {draw : Draw} (h : written draw = []) {effect : Effect UInt32 Remark}
    (he : effect ∈ draw) (memory target : Memory UInt32) (W : Nat → Prop) :
    effect.Yields memory W target := by
  intro m _ a ha
  have : a ∈ written draw := mem_written.mpr ⟨effect, he, ha⟩
  rw [h] at this
  cases this

/-- Every word of the rectangle ends up as its source was. `D` and `S` are the
destination and the source by column and row; no word is both, and none is the
destination of two. -/
theorem applyAll_copyRows (notes : UInt32 → Draw) (destination source : UInt32 → Nat)
    (width height : UInt32) (D S : Nat → Nat → Nat) (hnotes : ∀ row, written (notes row) = [])
    (hD : ∀ row < height, ∀ k < width.toNat, destination row + k = D k row.toNat)
    (hS : ∀ row < height, ∀ k < width.toNat, source row + k = S k row.toNat)
    (hdisjoint : ∀ k < width.toNat, ∀ row < height.toNat,
      ∀ k' < width.toNat, ∀ row' < height.toNat, S k row ≠ D k' row')
    (hinjective : ∀ k < width.toNat, ∀ row < height.toNat,
      ∀ k' < width.toNat, ∀ row' < height.toNat, D k row = D k' row' → k = k' ∧ row = row')
    (memory : Memory UInt32) (hk : k < width.toNat) (hrow : row < height.toNat) :
    applyAll (copyRows notes destination source width height) memory (D k row) =
      memory (S k row) := by
  have hword : ∀ row < height.toNat, ∃ r < height, r.toNat = row := fun row hrow => by
    have := height.toNat_lt
    refine ⟨UInt32.ofNat row, ?_, UInt32.toNat_ofNat_of_lt' (by rw [UInt32.size]; omega)⟩
    rwa [UInt32.lt_iff_toNat_lt, UInt32.toNat_ofNat_of_lt' (by rw [UInt32.size]; omega)]
  have hin : D k row ∈ written (copyRows notes destination source width height) := by
    obtain ⟨r, hr, rfl⟩ := hword row hrow
    exact (mem_written_copyRows hnotes).mpr ⟨r, hr, k, hk, (hD r hr k hk).symm⟩
  obtain ⟨target, htarget⟩ : ∃ target : Memory UInt32, ∀ k < width.toNat,
      ∀ row < height.toNat, target (D k row) = memory (S k row) := by
    classical
    refine ⟨fun a => if h : ∃ p : Nat × Nat,
        p.1 < width.toNat ∧ p.2 < height.toNat ∧ a = D p.1 p.2 then
      memory (S h.choose.1 h.choose.2) else 0, fun k hk row hrow => ?_⟩
    have hex : ∃ p : Nat × Nat,
        p.1 < width.toNat ∧ p.2 < height.toNat ∧ D k row = D p.1 p.2 := ⟨(k, row), hk, hrow, rfl⟩
    obtain ⟨hk', hrow', heq⟩ := hex.choose_spec
    obtain ⟨hcolumn, hline⟩ := hinjective k hk row hrow _ hk' _ hrow' heq
    refine (dif_pos hex).trans ?_
    rw [← hcolumn, ← hline]
  rw [applyAll_yields memory target
      (fun a => ∃ k < width.toNat, ∃ row < height.toNat, a = D k row) ?_ ?_ (fun _ _ => rfl),
    if_pos hin, htarget k hk row hrow]
  · intro a ha
    obtain ⟨r, hr, k, hk, rfl⟩ := (mem_written_copyRows hnotes).mp ha
    exact ⟨k, hk, r.toNat, UInt32.lt_iff_toNat_lt.mp hr, hD r hr k hk⟩
  · intro effect he
    simp only [copyRows, List.mem_flatMap, List.mem_append, mem_upTo] at he
    obtain ⟨r, hr, he | he⟩ := he
    · exact yields_of_written_nil (hnotes r) he _ _ _
    · have hrow := UInt32.lt_iff_toNat_lt.mp hr
      refine copyPixels32_yields (fun k hk => ?_) (fun k hk => ?_) he
      · rintro ⟨k', hk', row', hrow', heq⟩
        rw [hS r hr k hk] at heq
        exact hdisjoint k hk r.toNat hrow k' hk' row' hrow' heq
      · rw [hD r hr k hk, hS r hr k hk, htarget k hk r.toNat hrow]

end

-- ---------------------------------------------------------------------------
-- Pixels of surfaces
-- ---------------------------------------------------------------------------

def FramebufferInfo.count (framebufferInfo : FramebufferInfo) : Nat :=
  framebufferInfo.pixelsPerScanLine.toNat * framebufferInfo.screenHeight.toNat

def FramebufferInfo.Owns (framebufferInfo : FramebufferInfo) (a : Nat) : Prop :=
  framebufferInfo.framebuffer ≤ a ∧ a < framebufferInfo.framebuffer + framebufferInfo.count

instance (framebufferInfo : FramebufferInfo) (a : Nat) : Decidable (framebufferInfo.Owns a) := by
  unfold FramebufferInfo.Owns; infer_instance

section
variable {framebufferInfo : FramebufferInfo}

theorem FramebufferInfo.Sized.owns (hsized : framebufferInfo.Sized)
    (hx : x < framebufferInfo.screenWidth.toNat) (hy : y < framebufferInfo.screenHeight.toNat) :
    framebufferInfo.Owns (framebufferInfo.pixelAt x y) := by
  have hwidth := hsized.width_le
  have hrows := Nat.mul_le_mul_left framebufferInfo.pixelsPerScanLine.toNat hy
  rw [Nat.mul_add_one, Nat.mul_comm] at hrows
  simp only [FramebufferInfo.Owns, FramebufferInfo.pixelAt, FramebufferInfo.count]
  omega

theorem FramebufferInfo.Sized.pixelIndex_lt (hsized : framebufferInfo.Sized)
    (hx : x < framebufferInfo.screenWidth.toNat) (hy : y < framebufferInfo.screenHeight.toNat) :
    y * framebufferInfo.pixelsPerScanLine.toNat + x < framebufferInfo.count := by
  have howns := (hsized.owns hx hy).2
  rw [FramebufferInfo.pixelAt] at howns
  omega

theorem FramebufferInfo.Sized.shows_owns (hsized : framebufferInfo.Sized) {rect : Rect}
    (h : framebufferInfo.Shows rect a) : framebufferInfo.Owns a := by
  obtain ⟨x, y, hx, hy, -, rfl⟩ := h
  exact hsized.owns hx hy

theorem FramebufferInfo.Sized.pixelAt_inj (hsized : framebufferInfo.Sized)
    (hx : x < framebufferInfo.screenWidth.toNat) (hx' : x' < framebufferInfo.screenWidth.toNat) :
    framebufferInfo.pixelAt x y = framebufferInfo.pixelAt x' y' ↔ x = x' ∧ y = y' := by
  have hwidth := hsized.width_le
  constructor
  · intro h
    have h : y * framebufferInfo.pixelsPerScanLine.toNat + x =
        y' * framebufferInfo.pixelsPerScanLine.toNat + x' := by
      simp only [FramebufferInfo.pixelAt] at h
      omega
    have hrow : ∀ n k, k < framebufferInfo.screenWidth.toNat →
        (n * framebufferInfo.pixelsPerScanLine.toNat + k) /
          framebufferInfo.pixelsPerScanLine.toNat = n := fun n k hk => by
      rw [Nat.mul_comm, Nat.mul_add_div (by omega), Nat.div_eq_of_lt (by omega), Nat.add_zero]
    have hy : y = y' := by rw [← hrow y x hx, h, hrow y' x' hx']
    subst hy
    exact ⟨by omega, rfl⟩
  · rintro ⟨rfl, rfl⟩
    rfl

theorem FramebufferInfo.Sized.shows_pixelAt (hsized : framebufferInfo.Sized) {rect : Rect}
    (hx : x < framebufferInfo.screenWidth.toNat) (hy : y < framebufferInfo.screenHeight.toNat) :
    framebufferInfo.Shows rect (framebufferInfo.pixelAt x y) ↔ rect.Contains x y := by
  constructor
  · rintro ⟨x', y', hx', hy', hrect, heq⟩
    obtain ⟨rfl, rfl⟩ := (hsized.pixelAt_inj hx hx').mp heq
    exact hrect
  · exact fun hrect => ⟨x, y, hx, hy, hrect, rfl⟩

theorem FramebufferInfo.Sized.withBase (hsized : framebufferInfo.Sized) (base : Nat) :
    (framebufferInfo.withBase base).Sized :=
  ⟨hsized.width_le, hsized.count_lt⟩

def FramebufferInfo.Apart (framebufferInfo : FramebufferInfo) (base : Nat) : Prop :=
  ∀ a, framebufferInfo.Owns a → ¬ (framebufferInfo.withBase base).Owns a

theorem FramebufferInfo.apart_iff {base : Nat} :
    framebufferInfo.Apart base ↔
      framebufferInfo.framebuffer + framebufferInfo.count ≤ base ∨
        base + framebufferInfo.count ≤ framebufferInfo.framebuffer := by
  constructor
  · intro h
    by_contra hoverlap
    rw [not_or, Nat.not_le, Nat.not_le] at hoverlap
    refine h (max framebufferInfo.framebuffer base) ⟨Nat.le_max_left _ _, by omega⟩
      ⟨Nat.le_max_right _ _, ?_⟩
    show _ < base + framebufferInfo.count
    omega
  · rintro hdisjoint a ⟨hlow, hhigh⟩ ⟨hlow', hhigh'⟩
    have hhigh' : a < base + framebufferInfo.count := hhigh'
    have hlow' : base ≤ a := hlow'
    omega

theorem FramebufferInfo.not_owns_of_le
    (h : framebufferInfo.framebuffer + framebufferInfo.count ≤ a) : ¬ framebufferInfo.Owns a :=
  fun howns => Nat.not_lt.mpr h howns.2

theorem FramebufferInfo.Sized.pixelAddress_add {x y row : UInt32} (hsized : framebufferInfo.Sized)
    (hx : x.toNat + k < framebufferInfo.screenWidth.toNat)
    (hy : y.toNat + row.toNat < framebufferInfo.screenHeight.toNat) :
    framebufferInfo.pixelAddress (y + row) x + k =
      framebufferInfo.pixelAt (x.toNat + k) (y.toNat + row.toNat) := by
  have hscreen := framebufferInfo.screenHeight.toNat_lt
  have hsum := toNat_add_of_lt (a := y) (b := row) (by omega)
  rw [hsized.pixelAddress (UInt32.le_iff_toNat_le.mpr (by omega))
    (by rw [UInt32.lt_iff_toNat_lt]; omega), FramebufferInfo.pixelAt, FramebufferInfo.pixelAt, hsum]
  omega

end

section
variable {destination source : FramebufferInfo}

def OnBoth (destination source : FramebufferInfo) (rect : Rect) (X Y : Nat) : Prop :=
  rect.Contains X Y ∧ X < destination.screenWidth.toNat ∧ Y < destination.screenHeight.toNat ∧
    X < source.screenWidth.toNat ∧ Y < source.screenHeight.toNat

theorem onBoth_of_mem_written (hd : destination.Sized) {x y width height : UInt32}
    (h : a ∈ written (blitSurfaceRect destination source x y width height)) :
    ∃ X Y, OnBoth destination source (.ofWords x y width height) X Y ∧
      a = destination.pixelAt X Y := by
  by_cases hnull : destination.framebuffer = 0 ∨ source.framebuffer = 0
  · rw [blitSurfaceRect, if_pos hnull] at h
    cases h
  by_cases hout : x ≥ destination.screenWidth ∨ y ≥ destination.screenHeight ∨
      x ≥ source.screenWidth ∨ y ≥ source.screenHeight
  · rw [blitSurfaceRect, if_neg hnull, if_pos hout] at h
    cases h
  simp only [ge_iff_le, not_or, UInt32.not_le] at hnull hout
  obtain ⟨hxd, hyd, hxs, hys⟩ := hout
  obtain ⟨w, h', hw, hh, heq⟩ := blitSurfaceRect_rows destination source width height hnull.1
    hnull.2 hxd hyd hxs hys
  rw [heq] at h
  have hrows : a ∈ written (copyRows
      (fun row => destination.offset (y + row) x 0 ++ source.offset (y + row) x 0)
      (fun row => destination.pixelAddress (y + row) x)
      (fun row => source.pixelAddress (y + row) x) w h') := h
  obtain ⟨row, hrow, k, hk, rfl⟩ := (mem_written_copyRows fun _ => rfl).mp hrows
  rw [UInt32.lt_iff_toNat_lt] at hrow hxd hyd hxs hys
  refine ⟨x.toNat + k, y.toNat + row.toNat, ⟨?_, ?_⟩,
    hd.pixelAddress_add (by omega) (by omega)⟩
  · rw [contains_ofWords]
    omega
  · omega

theorem applyAll_blitSurfaceRect (hd : destination.Sized) (hs : source.Sized)
    (hdnull : destination.framebuffer ≠ 0) (hsnull : source.framebuffer ≠ 0)
    (hapart : ∀ a, destination.Owns a → ¬ source.Owns a) {x y width height : UInt32}
    (memory : Memory UInt32) (h : OnBoth destination source (.ofWords x y width height) X Y) :
    applyAll (blitSurfaceRect destination source x y width height) memory
      (destination.pixelAt X Y) = memory (source.pixelAt X Y) := by
  obtain ⟨hin, hXd, hYd, hXs, hYs⟩ := h
  rw [contains_ofWords] at hin
  have hxd : x < destination.screenWidth := by rw [UInt32.lt_iff_toNat_lt]; omega
  have hyd : y < destination.screenHeight := by rw [UInt32.lt_iff_toNat_lt]; omega
  have hxs : x < source.screenWidth := by rw [UInt32.lt_iff_toNat_lt]; omega
  have hys : y < source.screenHeight := by rw [UInt32.lt_iff_toNat_lt]; omega
  obtain ⟨w, h, hw, hh, heq⟩ := blitSurfaceRect_rows destination source width height hdnull hsnull
    hxd hyd hxs hys
  have hcopy := applyAll_copyRows
    (fun row => destination.offset (y + row) x 0 ++ source.offset (y + row) x 0)
    (fun row => destination.pixelAddress (y + row) x)
    (fun row => source.pixelAddress (y + row) x) w h
    (fun k row => destination.pixelAt (x.toNat + k) (y.toNat + row))
    (fun k row => source.pixelAt (x.toNat + k) (y.toNat + row))
    (fun _ => rfl)
    (fun row hrow k hk => hd.pixelAddress_add (by omega)
      (by rw [UInt32.lt_iff_toNat_lt] at hrow; omega))
    (fun row hrow k hk => hs.pixelAddress_add (by omega)
      (by rw [UInt32.lt_iff_toNat_lt] at hrow; omega))
    (fun k hk row hrow k' hk' row' hrow' hword =>
      hapart _ (hword ▸ hd.owns (by omega) (by omega)) (hs.owns (by omega) (by omega)))
    (fun k hk row hrow k' hk' row' hrow' hword => by
      have := (hd.pixelAt_inj (by omega) (by omega)).mp hword
      omega)
    memory (show X - x.toNat < w.toNat by omega) (show Y - y.toNat < h.toNat by omega)
  simp only [Nat.add_sub_cancel' hin.1, Nat.add_sub_cancel' hin.2.2.1] at hcopy
  rw [heq]
  exact hcopy

end

section
variable {framebufferInfo : FramebufferInfo}

/-- Between two surfaces of one screen a blit shows the source inside the
rectangle and leaves the rest alone. -/
theorem applyAll_blitSurfaceRect_withBase (hsized : framebufferInfo.Sized) {base : Nat}
    (hd : framebufferInfo.framebuffer ≠ 0) (hs : base ≠ 0) (hapart : framebufferInfo.Apart base)
    (x y width height : UInt32) (memory : Memory UInt32)
    (hX : X < framebufferInfo.screenWidth.toNat) (hY : Y < framebufferInfo.screenHeight.toNat) :
    applyAll (blitSurfaceRect framebufferInfo (framebufferInfo.withBase base) x y width height)
        memory (framebufferInfo.pixelAt X Y) =
      if (Rect.ofWords x y width height).Contains X Y then
        memory ((framebufferInfo.withBase base).pixelAt X Y)
      else memory (framebufferInfo.pixelAt X Y) := by
  by_cases hin : (Rect.ofWords x y width height).Contains X Y
  · rw [if_pos hin]
    exact applyAll_blitSurfaceRect hsized (hsized.withBase base) hd hs hapart memory
      ⟨hin, hX, hY, hX, hY⟩
  · rw [if_neg hin]
    exact (confined_blitSurfaceRect hsized (hsized.withBase base) x y width height).frame
      (fun hshows => hin ((hsized.shows_pixelAt hX hY).mp hshows)) memory

/-- Blitting a surface onto itself does nothing. -/
theorem applyAll_blitSurfaceRect_self (x y width height : UInt32) (memory : Memory UInt32) :
    applyAll (blitSurfaceRect framebufferInfo framebufferInfo x y width height) memory = memory := by
  refine applyAll_eq_self (fun effect he m => ?_) memory
  unfold blitSurfaceRect at he
  split at he
  · cases he
  split at he
  · cases he
  simp only [List.mem_flatMap, List.mem_append] at he
  obtain ⟨row, -, (he | he) | he⟩ := he
  · rw [FramebufferInfo.offset, List.mem_singleton] at he
    rw [he]
    rfl
  · rw [FramebufferInfo.offset, List.mem_singleton] at he
    rw [he]
    rfl
  · exact apply_copyPixels32_self he m

end

/-- A blit between two surfaces that share no word, or of a surface onto itself:
what both screens show of the rectangle is the source, and every other word is
as it was. A null surface is neither read nor written. -/
theorem blitSurfaceRect_shows_source {destination source : FramebufferInfo}
    (hd : destination.Sized) (hs : source.Sized)
    (hbuffers : destination = source ∨ ∀ a, destination.Owns a → ¬ source.Owns a)
    (x y width height : UInt32) (memory : Memory UInt32) :
    (destination.framebuffer ≠ 0 → source.framebuffer ≠ 0 →
      ∀ X Y, OnBoth destination source (.ofWords x y width height) X Y →
        applyAll (blitSurfaceRect destination source x y width height) memory
          (destination.pixelAt X Y) = memory (source.pixelAt X Y)) ∧
    (∀ a, (¬ ∃ X Y, OnBoth destination source (.ofWords x y width height) X Y ∧
        a = destination.pixelAt X Y) →
      applyAll (blitSurfaceRect destination source x y width height) memory a = memory a) ∧
    (destination.framebuffer = 0 ∨ source.framebuffer = 0 ∨ destination = source →
      applyAll (blitSurfaceRect destination source x y width height) memory = memory) := by
  refine ⟨fun hdnull hsnull X Y hboth => ?_, fun a ha => ?_, ?_⟩
  · rcases hbuffers with rfl | hapart
    · rw [applyAll_blitSurfaceRect_self]
    · exact applyAll_blitSurfaceRect hd hs hdnull hsnull hapart memory hboth
  · exact applyAll_frame (fun hin => ha (onBoth_of_mem_written hd hin)) memory
  · rintro (hnull | hnull | rfl)
    · rw [blitSurfaceRect, if_pos (.inl hnull), applyAll_nil]
    · rw [blitSurfaceRect, if_pos (.inr hnull), applyAll_nil]
    · exact applyAll_blitSurfaceRect_self x y width height memory

def paddedSurface : FramebufferInfo where
  screenWidth := 1366
  screenHeight := 768
  pixelsPerScanLine := 1376
  pixelFormat := gopPixelBlueGreenRedReserved8Bit
  redMask := 0
  greenMask := 0
  blueMask := 0
  framebuffer := 0x30000001

theorem vgaScreen_apart (a : Nat) (h : vgaScreen.Owns a) : ¬ paddedSurface.Owns a := by
  have hend : vgaScreen.framebuffer + vgaScreen.count ≤ paddedSurface.framebuffer := by decide
  exact fun hpadded => Nat.not_lt.mpr (hend.trans hpadded.1) h.2

theorem blitSurfaceRect_shows_source_padded :
    (vgaScreen.framebuffer ≠ 0 → paddedSurface.framebuffer ≠ 0 →
      ∀ X Y, OnBoth vgaScreen paddedSurface (.ofWords 600 470 4294967295 20) X Y →
        applyAll (blitSurfaceRect vgaScreen paddedSurface 600 470 4294967295 20) UInt32.ofNat
          (vgaScreen.pixelAt X Y) = UInt32.ofNat (paddedSurface.pixelAt X Y)) ∧
    (∀ a, (¬ ∃ X Y, OnBoth vgaScreen paddedSurface (.ofWords 600 470 4294967295 20) X Y ∧
        a = vgaScreen.pixelAt X Y) →
      applyAll (blitSurfaceRect vgaScreen paddedSurface 600 470 4294967295 20) UInt32.ofNat a =
        UInt32.ofNat a) ∧
    (vgaScreen.framebuffer = 0 ∨ paddedSurface.framebuffer = 0 ∨ vgaScreen = paddedSurface →
      applyAll (blitSurfaceRect vgaScreen paddedSurface 600 470 4294967295 20) UInt32.ofNat =
        UInt32.ofNat) :=
  blitSurfaceRect_shows_source vgaScreen_sized ⟨by decide, by decide⟩
    (.inr vgaScreen_apart) 600 470 4294967295 20 UInt32.ofNat

-- ---------------------------------------------------------------------------
-- The cursor's background
-- ---------------------------------------------------------------------------

section
variable {framebufferInfo : FramebufferInfo} {header : GeneratedBitmap} {cursor : SoftwareCursor}

theorem GeneratedBitmap.cursor_area_lt (header : GeneratedBitmap) :
    header.cursorWidth.toNat * header.cursorHeight.toNat < 2 ^ 32 := by
  have hlength := header.cursor.pixels_length
  have hlt := header.cursor.pixels_lt
  simp only [GeneratedBitmap.cursorWidth, GeneratedBitmap.cursorHeight]
  omega

/-- The saved rectangle is on the screen and inside the cursor. -/
structure SoftwareCursor.Placed (header : GeneratedBitmap) (framebufferInfo : FramebufferInfo)
    (cursor : SoftwareCursor) : Prop where
  right_le :
    cursor.x.toNat + cursor.savedWidth.toNat ≤ framebufferInfo.screenWidth.toNat
  bottom_le :
    cursor.y.toNat + cursor.savedHeight.toNat ≤ framebufferInfo.screenHeight.toNat
  width_eq :
    cursor.savedWidth.toNat = min header.cursorWidth.toNat framebufferInfo.screenWidth.toNat
  height_eq :
    cursor.savedHeight.toNat = min header.cursorHeight.toNat framebufferInfo.screenHeight.toNat

theorem SoftwareCursor.Clamped.placed (h : cursor.Clamped header framebufferInfo) :
    (cursor.clip header framebufferInfo).Placed header framebufferInfo := by
  obtain ⟨hwidth, hheight⟩ := h.toNat_clip
  have hx := h.x_le
  have hy := h.y_le
  refine ⟨?_, ?_, hwidth, hheight⟩
  · rw [hwidth]
    show cursor.x.toNat + _ ≤ _
    omega
  · rw [hheight]
    show cursor.y.toNat + _ ≤ _
    omega

/-- The saved rectangle ends on the screen and is no larger than the cursor. -/
structure SoftwareCursor.Inside (header : GeneratedBitmap) (framebufferInfo : FramebufferInfo)
    (cursor : SoftwareCursor) : Prop where
  right_le :
    cursor.x.toNat + cursor.savedWidth.toNat ≤ framebufferInfo.screenWidth.toNat
  bottom_le :
    cursor.y.toNat + cursor.savedHeight.toNat ≤ framebufferInfo.screenHeight.toNat
  width_le : cursor.savedWidth.toNat ≤ header.cursorWidth.toNat
  height_le : cursor.savedHeight.toNat ≤ header.cursorHeight.toNat

theorem SoftwareCursor.Placed.inside (h : cursor.Placed header framebufferInfo) :
    cursor.Inside header framebufferInfo where
  right_le := h.right_le
  bottom_le := h.bottom_le
  width_le := h.width_eq ▸ Nat.min_le_left _ _
  height_le := h.height_eq ▸ Nat.min_le_left _ _

def SoftwareCursor.savedAt (header : GeneratedBitmap) (cursor : SoftwareCursor) (k row : Nat) :
    Nat :=
  cursor.savedPixels + (row * header.cursorWidth.toNat + k)

variable (hinside : cursor.Inside header framebufferInfo)
include hinside

theorem savedRow_add {row : UInt32} (hrow : row < cursor.savedHeight) (k : Nat) :
    cursor.savedPixels + (row * header.cursorWidth).toNat + k =
      cursor.savedAt header k row.toNat := by
  have hheight := hinside.height_le
  have harea := header.cursor_area_lt
  rw [UInt32.lt_iff_toNat_lt] at hrow
  have hrows := Nat.mul_le_mul_right header.cursorWidth.toNat
    (show row.toNat ≤ header.cursorHeight.toNat by omega)
  rw [Nat.mul_comm header.cursorHeight.toNat] at hrows
  rw [toNat_mul_of_lt (by omega), SoftwareCursor.savedAt, Nat.add_assoc]

theorem savedAt_inj (hk : k < cursor.savedWidth.toNat) (hk' : k' < cursor.savedWidth.toNat)
    (h : cursor.savedAt header k row = cursor.savedAt header k' row') : k = k' ∧ row = row' := by
  have hwidth := hinside.width_le
  have hline : ∀ n k, k < cursor.savedWidth.toNat →
      (n * header.cursorWidth.toNat + k) / header.cursorWidth.toNat = n := fun n k hk => by
    rw [Nat.mul_comm, Nat.mul_add_div (by omega), Nat.div_eq_of_lt (by omega), Nat.add_zero]
  simp only [SoftwareCursor.savedAt] at h
  have h : row * header.cursorWidth.toNat + k = row' * header.cursorWidth.toNat + k' := by omega
  have hrow : row = row' := by rw [← hline row k hk, h, hline row' k' hk']
  subst hrow
  exact ⟨by omega, rfl⟩

theorem saves_savedAt (hk : k < cursor.savedWidth.toNat) (hrow : row < cursor.savedHeight.toNat) :
    cursor.Saves header (cursor.savedAt header k row) := by
  have hwidth := hinside.width_le
  have hheight := hinside.height_le
  have hrows := Nat.mul_le_mul_right header.cursorWidth.toNat
    (show row + 1 ≤ header.cursorHeight.toNat by omega)
  rw [Nat.add_one_mul, Nat.mul_comm header.cursorHeight.toNat] at hrows
  simp only [SoftwareCursor.Saves, SoftwareCursor.savedAt]
  omega

theorem cursorPixel_add (hsized : framebufferInfo.Sized) {row : UInt32}
    (hrow : row < cursor.savedHeight) (hk : k < cursor.savedWidth.toNat) :
    framebufferInfo.pixelAddress (cursor.y + row) cursor.x + k =
      framebufferInfo.pixelAt (cursor.x.toNat + k) (cursor.y.toNat + row.toNat) := by
  have hright := hinside.right_le
  have hbottom := hinside.bottom_le
  rw [UInt32.lt_iff_toNat_lt] at hrow
  exact hsized.pixelAddress_add (by omega) (by omega)

theorem applyAll_copyBackground (hsized : framebufferInfo.Sized)
    (hapart : ∀ a, cursor.Saves header a → ¬ framebufferInfo.Owns a) (memory : Memory UInt32)
    (hk : k < cursor.savedWidth.toNat) (hrow : row < cursor.savedHeight.toNat) :
    applyAll (copyBackground header framebufferInfo cursor) memory
        (cursor.savedAt header k row) =
      memory (framebufferInfo.pixelAt (cursor.x.toNat + k) (cursor.y.toNat + row)) := by
  have hright := hinside.right_le
  have hbottom := hinside.bottom_le
  exact applyAll_copyRows (fun row => framebufferInfo.offset (cursor.y + row) cursor.x 0)
    (fun row => cursor.savedPixels + (row * header.cursorWidth).toNat)
    (fun row => framebufferInfo.pixelAddress (cursor.y + row) cursor.x)
    cursor.savedWidth cursor.savedHeight (cursor.savedAt header)
    (fun k row => framebufferInfo.pixelAt (cursor.x.toNat + k) (cursor.y.toNat + row))
    (fun _ => rfl)
    (fun row hrow k _ => savedRow_add hinside hrow k)
    (fun row hrow k hk => cursorPixel_add hinside hsized hrow hk)
    (fun k hk row hrow k' hk' row' hrow' hword =>
      hapart _ (saves_savedAt hinside hk' hrow') (hword ▸ hsized.owns (by omega) (by omega)))
    (fun k hk row _ k' hk' row' _ hword => savedAt_inj hinside hk hk' hword)
    memory hk hrow

theorem applyAll_copySavedPixels (hsized : framebufferInfo.Sized)
    (hapart : ∀ a, cursor.Saves header a → ¬ framebufferInfo.Owns a) (memory : Memory UInt32)
    (hk : k < cursor.savedWidth.toNat) (hrow : row < cursor.savedHeight.toNat) :
    applyAll (copySavedPixels header framebufferInfo cursor) memory
        (framebufferInfo.pixelAt (cursor.x.toNat + k) (cursor.y.toNat + row)) =
      memory (cursor.savedAt header k row) := by
  have hright := hinside.right_le
  have hbottom := hinside.bottom_le
  exact applyAll_copyRows (fun row => framebufferInfo.offset (cursor.y + row) cursor.x 0)
    (fun row => framebufferInfo.pixelAddress (cursor.y + row) cursor.x)
    (fun row => cursor.savedPixels + (row * header.cursorWidth).toNat)
    cursor.savedWidth cursor.savedHeight
    (fun k row => framebufferInfo.pixelAt (cursor.x.toNat + k) (cursor.y.toNat + row))
    (cursor.savedAt header)
    (fun _ => rfl)
    (fun row hrow k hk => cursorPixel_add hinside hsized hrow hk)
    (fun row hrow k _ => savedRow_add hinside hrow k)
    (fun k hk row hrow k' hk' row' hrow' hword =>
      hapart _ (saves_savedAt hinside hk hrow) (hword ▸ hsized.owns (by omega) (by omega)))
    (fun k hk row hrow k' hk' row' hrow' hword => by
      have := (hsized.pixelAt_inj (by omega) (by omega)).mp hword
      omega)
    memory hk hrow

theorem confined_copyBackground (hsized : framebufferInfo.Sized) :
    Confined (cursor.Saves header) framebufferInfo.Owns Remark.InOrder
      (copyBackground header framebufferInfo cursor) := by
  have hright := hinside.right_le
  have hbottom := hinside.bottom_le
  have hscreen := framebufferInfo.screenHeight.toNat_lt
  simp only [copyBackground, confined_flatMap, confined_append, mem_upTo]
  intro row hrow
  have hr := UInt32.lt_iff_toNat_lt.mp hrow
  have hsum := toNat_add_of_lt (a := cursor.y) (b := row) (by omega)
  refine ⟨hsized.offset (x := cursor.x) (by rw [UInt32.toNat_zero]; omega)
    (by rw [UInt32.lt_iff_toNat_lt]; omega), confined_copyPixels32 ?_ ?_⟩
  · intro k hk
    rw [savedRow_add hinside hrow]
    exact saves_savedAt hinside hk hr
  · intro k hk
    rw [cursorPixel_add hinside hsized hrow hk]
    exact hsized.owns (by omega) (by omega)

theorem confined_copySavedPixels (hsized : framebufferInfo.Sized) :
    Confined (framebufferInfo.Shows cursor.rect) (cursor.Saves header) Remark.InOrder
      (copySavedPixels header framebufferInfo cursor) := by
  have hright := hinside.right_le
  have hbottom := hinside.bottom_le
  have hscreen := framebufferInfo.screenHeight.toNat_lt
  simp only [copySavedPixels, confined_flatMap, confined_append, mem_upTo]
  intro row hrow
  have hr := UInt32.lt_iff_toNat_lt.mp hrow
  have hsum := toNat_add_of_lt (a := cursor.y) (b := row) (by omega)
  refine ⟨hsized.offset (x := cursor.x) (by rw [UInt32.toNat_zero]; omega)
    (by rw [UInt32.lt_iff_toNat_lt]; omega), confined_copyPixels32 ?_ ?_⟩
  · intro k hk
    rw [cursorPixel_add hinside hsized hrow hk]
    refine ⟨_, _, by omega, by omega, ?_, rfl⟩
    rw [SoftwareCursor.rect, contains_ofWords]
    omega
  · intro k hk
    rw [savedRow_add hinside hrow]
    exact saves_savedAt hinside hk hr

end

-- ---------------------------------------------------------------------------
-- The cursor over a picture
-- ---------------------------------------------------------------------------

section
variable (header : GeneratedBitmap)

def SoftwareCursor.indexAt (cursor : SoftwareCursor) (x y : Nat) : UInt32 :=
  UInt32.ofNat ((y - cursor.y.toNat) * header.cursorWidth.toNat + (x - cursor.x.toNat))

def SoftwareCursor.Covers (cursor : SoftwareCursor) (x y : Nat) : Prop :=
  (Rect.ofWords cursor.x cursor.y header.cursorWidth header.cursorHeight).Contains x y ∧
    cursor.opaqueMask (cursor.indexAt header x y) ≠ 0

instance (cursor : SoftwareCursor) (x y : Nat) : Decidable (cursor.Covers header x y) := by
  unfold SoftwareCursor.Covers; infer_instance

/-- What is seen at `(x, y)` when `below` is under the cursor. -/
def SoftwareCursor.over (cursor : SoftwareCursor) (x y : Nat) (below : UInt32) : UInt32 :=
  if cursor.Covers header x y then cursor.resolvedPixels (cursor.indexAt header x y) else below

end

section
variable {framebufferInfo : FramebufferInfo} {header : GeneratedBitmap} {cursor : SoftwareCursor}
  (hplaced : cursor.Placed header framebufferInfo)
include hplaced

theorem rect_contains_iff (hX : X < framebufferInfo.screenWidth.toNat)
    (hY : Y < framebufferInfo.screenHeight.toNat) :
    cursor.rect.Contains X Y ↔
      (Rect.ofWords cursor.x cursor.y header.cursorWidth header.cursorHeight).Contains X Y := by
  obtain ⟨hright, hbottom, hwidth, hheight⟩ := hplaced
  rw [SoftwareCursor.rect, contains_ofWords, contains_ofWords]
  omega

theorem mem_drawCursor (hsized : framebufferInfo.Sized) {effect : Effect UInt32 Remark}
    (h : effect ∈ drawCursor header framebufferInfo cursor) :
    (∃ remark, effect = .note remark) ∨
      ∃ x y, x < framebufferInfo.screenWidth.toNat ∧ cursor.Covers header x y ∧
        effect = .store (framebufferInfo.pixelAt x y)
          (cursor.resolvedPixels (cursor.indexAt header x y)) := by
  obtain ⟨hright, hbottom, hwidth, hheight⟩ := hplaced
  simp only [drawCursor, List.mem_flatMap, mem_upTo] at h
  obtain ⟨row, hrow, column, hcolumn, h⟩ := h
  rw [UInt32.lt_iff_toNat_lt] at hrow hcolumn
  split at h
  · cases h
  next hopaque =>
  simp only [FramebufferInfo.storePixelInRow, FramebufferInfo.offset, List.cons_append,
    List.nil_append, List.mem_cons, List.not_mem_nil, or_false] at h
  rcases h with rfl | rfl
  · exact .inl ⟨_, rfl⟩
  have hscreen := framebufferInfo.screenHeight.toNat_lt
  have hsum := toNat_add_of_lt (a := cursor.y) (b := row) (by omega)
  have hindex : cursor.indexAt header (cursor.x.toNat + column.toNat)
      (cursor.y.toNat + row.toNat) = row * header.cursorWidth + column := by
    simp [SoftwareCursor.indexAt, UInt32.ofNat_add, UInt32.ofNat_mul]
  refine .inr ⟨cursor.x.toNat + column.toNat, cursor.y.toNat + row.toNat, by omega, ⟨?_, ?_⟩, ?_⟩
  · rw [contains_ofWords]
    omega
  · rwa [hindex]
  · rw [hindex, hsized.toNat_index (by omega) (by rw [UInt32.lt_iff_toNat_lt]; omega), hsum]
    rfl

theorem pixelAt_mem_written_drawCursor (hsized : framebufferInfo.Sized)
    (hX : X < framebufferInfo.screenWidth.toNat) (hY : Y < framebufferInfo.screenHeight.toNat)
    (h : cursor.Covers header X Y) :
    framebufferInfo.pixelAt X Y ∈ written (drawCursor header framebufferInfo cursor) := by
  obtain ⟨hright, hbottom, hwidth, hheight⟩ := hplaced
  obtain ⟨hin, hopaque⟩ := h
  rw [contains_ofWords] at hin
  have hscreen := framebufferInfo.screenHeight.toNat_lt
  have hline := framebufferInfo.screenWidth.toNat_lt
  have hword : ∀ n, n < 2 ^ 32 → (UInt32.ofNat n).toNat = n := fun n hn =>
    UInt32.toNat_ofNat_of_lt' hn
  have hrow := hword (Y - cursor.y.toNat) (by omega)
  have hcolumn := hword (X - cursor.x.toNat) (by omega)
  have hsum := toNat_add_of_lt (a := cursor.y) (b := UInt32.ofNat (Y - cursor.y.toNat)) (by omega)
  simp only [drawCursor, mem_written_flatMap, mem_upTo]
  refine ⟨UInt32.ofNat (Y - cursor.y.toNat), ?_, UInt32.ofNat (X - cursor.x.toNat), ?_, ?_⟩
  · rw [UInt32.lt_iff_toNat_lt, hrow]
    omega
  · rw [UInt32.lt_iff_toNat_lt, hcolumn]
    omega
  rw [if_neg (by simpa [SoftwareCursor.indexAt, UInt32.ofNat_add, UInt32.ofNat_mul] using hopaque)]
  show _ ∈ [framebufferInfo.framebuffer + UInt32.toNat _]
  rw [hsized.toNat_index (by omega) (by rw [UInt32.lt_iff_toNat_lt]; omega), hsum, hrow, hcolumn,
    Nat.add_sub_cancel' hin.1, Nat.add_sub_cancel' hin.2.2.1, List.mem_singleton]
  rfl

theorem applyAll_drawCursor (hsized : framebufferInfo.Sized) (memory : Memory UInt32)
    (hX : X < framebufferInfo.screenWidth.toNat) (hY : Y < framebufferInfo.screenHeight.toNat) :
    applyAll (drawCursor header framebufferInfo cursor) memory (framebufferInfo.pixelAt X Y) =
      cursor.over header X Y (memory (framebufferInfo.pixelAt X Y)) := by
  have hwidth := hsized.width_le
  -- The pixel an address belongs to.
  have hdecode : ∀ x y, x < framebufferInfo.screenWidth.toNat →
      (framebufferInfo.pixelAt x y - framebufferInfo.framebuffer) %
          framebufferInfo.pixelsPerScanLine.toNat = x ∧
        (framebufferInfo.pixelAt x y - framebufferInfo.framebuffer) /
          framebufferInfo.pixelsPerScanLine.toNat = y := fun x y hx => by
    rw [FramebufferInfo.pixelAt, Nat.add_sub_cancel_left, Nat.mul_comm]
    rw [Nat.mul_add_mod, Nat.mod_eq_of_lt (by omega), Nat.mul_add_div (by omega),
      Nat.div_eq_of_lt (by omega)]
    exact ⟨rfl, rfl⟩
  rw [applyAll_stores (fun a => cursor.resolvedPixels (cursor.indexAt header
    ((a - framebufferInfo.framebuffer) % framebufferInfo.pixelsPerScanLine.toNat)
    ((a - framebufferInfo.framebuffer) / framebufferInfo.pixelsPerScanLine.toNat)))]
  · rw [(hdecode X Y hX).1, (hdecode X Y hX).2, SoftwareCursor.over]
    by_cases hcovers : cursor.Covers header X Y
    · rw [if_pos (pixelAt_mem_written_drawCursor hplaced hsized hX hY hcovers), if_pos hcovers]
    · rw [if_neg hcovers, if_neg]
      intro hin
      obtain ⟨effect, he, ha⟩ := mem_written.mp hin
      rcases mem_drawCursor hplaced hsized he with ⟨remark, rfl⟩ | ⟨x, y, hx, hxy, rfl⟩
      · cases ha
      · rw [Effect.writes, List.mem_singleton] at ha
        obtain ⟨rfl, rfl⟩ := (hsized.pixelAt_inj hX hx).mp ha
        exact hcovers hxy
  · intro effect he
    rcases mem_drawCursor hplaced hsized he with hnote | ⟨x, y, hx, -, rfl⟩
    · exact .inl hnote
    · refine .inr ⟨framebufferInfo.pixelAt x y, ?_⟩
      rw [(hdecode x y hx).1, (hdecode x y hx).2]

end

end DragonOS.Boot
