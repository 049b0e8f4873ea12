import DragonOS.Boot.MouseScreen

/-!
# Missing buffers

`EfiMain` goes on when it cannot allocate the shadow or the compose buffer. What
the loop decides does not depend on the buffers (`runKernelMouseLoop_control`),
and without the compose buffer the screen is the same. Without the shadow it is
the same only until the cursor moves: the erasing blit then copies the
framebuffer onto itself, and the old cursor stays.
-/

namespace DragonOS.Boot

open Lib

-- ---------------------------------------------------------------------------
-- Decisions
-- ---------------------------------------------------------------------------

section
variable {header : GeneratedBitmap} {surfaces surfaces' : BootSurfaces} {locals : Locals}
  {memory memory' after after' : Memory UInt32} {control control' : Control}

theorem Control.poll_congr (hsame : surfaces.framebuffer = surfaces'.framebuffer) :
    control.poll header surfaces = control.poll header surfaces' := by
  rw [Control.poll, Control.poll, hsame]

theorem Control.nextCursor_congr (hsame : surfaces.framebuffer = surfaces'.framebuffer) :
    control.nextCursor header surfaces = control.nextCursor header surfaces' := by
  rw [Control.nextCursor, Control.nextCursor, poll_congr hsame]

theorem Control.nextHovered_congr (hsame : surfaces.framebuffer = surfaces'.framebuffer) :
    control.nextHovered header surfaces = control.nextHovered header surfaces' := by
  rw [Control.nextHovered, Control.nextHovered, nextCursor_congr hsame]

theorem iterate_fst_congr (hvisible : control.cursor.visible ≠ 0)
    (hsame : surfaces.framebuffer = surfaces'.framebuffer) :
    (iterate header surfaces control).1 = (iterate header surfaces' control).1 := by
  rw [iterate_fst_eq hvisible, iterate_fst_eq hvisible, Control.next, Control.next,
    Control.nextCursor_congr hsame, Control.nextHovered_congr hsame, Control.poll_congr hsame,
    hsame]

/-- Two runs on one screen make the same decisions, whatever their buffers. -/
theorem runKernelMouseLoop_control (hsame : surfaces.framebuffer = surfaces'.framebuffer)
    (iterations : Nat)
    (h : runKernelMouseLoop header surfaces locals memory iterations = some (control, after))
    (h' : runKernelMouseLoop header surfaces' locals memory' iterations =
      some (control', after')) : control = control' := by
  induction iterations generalizing control after control' after' with
  | zero =>
    obtain ⟨rfl, -⟩ := runKernelMouseLoop_zero h
    obtain ⟨rfl, -⟩ := runKernelMouseLoop_zero h'
    rw [startLoop_fst, startLoop_fst, hsame]
  | succ iterations ih =>
    obtain ⟨previous, before, hrun, rfl, -⟩ := runKernelMouseLoop_succ h
    obtain ⟨previous', before', hrun', rfl, -⟩ := runKernelMouseLoop_succ h'
    obtain rfl := ih hrun hrun'
    exact iterate_fst_congr (runKernelMouseLoop_settled iterations hrun).visible hsame

theorem runKernelMouseLoop_earlier {iterations earlier : Nat} (hle : earlier ≤ iterations)
    (h : runKernelMouseLoop header surfaces locals memory iterations = some (control, after)) :
    ∃ previous before,
      runKernelMouseLoop header surfaces locals memory earlier = some (previous, before) := by
  induction hle generalizing control after with
  | refl => exact ⟨control, after, h⟩
  | step _ ih =>
    obtain ⟨previous, before, hrun, -, -⟩ := runKernelMouseLoop_succ h
    exact ih hrun

theorem HoverStays.congr (hsame : surfaces.framebuffer = surfaces'.framebuffer) {iterations : Nat}
    (hrun : runKernelMouseLoop header surfaces locals memory iterations = some (control, after))
    (h : HoverStays header surfaces locals memory iterations) :
    HoverStays header surfaces' locals memory' iterations := by
  intro earlier hearlier previous' before' hprevious' hresult
  obtain ⟨previous, before, hprevious⟩ := runKernelMouseLoop_earlier hearlier.le hrun
  obtain rfl := runKernelMouseLoop_control hsame earlier hprevious hprevious'
  rw [← Control.poll_congr hsame] at hresult
  rw [← Control.nextHovered_congr hsame]
  exact h earlier hearlier previous before hprevious hresult

end

-- ---------------------------------------------------------------------------
-- Views
-- ---------------------------------------------------------------------------

def SameView (framebufferInfo : FramebufferInfo) (memory memory' : Memory UInt32) : Prop :=
  ∀ X Y, X < framebufferInfo.screenWidth.toNat → Y < framebufferInfo.screenHeight.toNat →
    memory (framebufferInfo.pixelAt X Y) = memory' (framebufferInfo.pixelAt X Y)

/-- The cursor of the control state over the setup screen, and nothing else. -/
def CleanView (header : GeneratedBitmap) (framebufferInfo : FramebufferInfo)
    (mouseDetected : UInt8) (control : Control) (memory : Memory UInt32) : Prop :=
  ∀ X Y, X < framebufferInfo.screenWidth.toNat → Y < framebufferInfo.screenHeight.toNat →
    memory (framebufferInfo.pixelAt X Y) = control.cursor.over header X Y
      (setupPicture header framebufferInfo mouseDetected control.setupUiState.hoveredButton
        (framebufferInfo.pixelAt X Y))

def allocated (framebufferInfo : FramebufferInfo) (shadowReply composeReply : SurfaceReply) :
    BootSurfaces :=
  (allocateSurfaces framebufferInfo shadowReply composeReply).1

def CursorStays (header : GeneratedBitmap) (surfaces : BootSurfaces) (locals : Locals)
    (memory : Memory UInt32) (iterations : Nat) : Prop :=
  ∀ earlier < iterations, ∀ control before,
    runKernelMouseLoop header surfaces locals memory earlier = some (control, before) →
    (control.poll header surfaces).cursor.x = control.cursor.x ∧
      (control.poll header surfaces).cursor.y = control.cursor.y

section
variable {header : GeneratedBitmap} {framebufferInfo : FramebufferInfo} {locals : Locals}
  {shadowReply composeReply shadowReply' composeReply' : SurfaceReply}
  {memory memory' after after' : Memory UInt32} {control control' : Control}

theorem SurfaceReply.Obtained.shadowBase_ne
    (hseparate : (allocated framebufferInfo shadowReply composeReply).Separate header savedPixels)
    (hobtained : shadowReply.Obtained) (hcount : 0 < framebufferInfo.count) :
    (allocated framebufferInfo shadowReply composeReply).shadowBase ≠
      framebufferInfo.framebuffer := by
  intro hsame
  have hbuffer : (allocated framebufferInfo shadowReply composeReply).shadowFramebuffer =
    shadowReply.buffer := if_pos hobtained
  have happart := hseparate.shadow (by rw [hbuffer]; exact hobtained.2)
  have hself : shadowReply.buffer = framebufferInfo.framebuffer := by
    by_contra hother
    rw [BootSurfaces.shadowBase, BootSurfaces.shadowFramebufferInfo, hbuffer,
      if_pos ⟨hobtained.2, hother⟩] at hsame
    exact hother hsame
  rw [hbuffer, hself] at happart
  exact happart framebufferInfo.framebuffer ⟨Nat.le_refl _, Nat.lt_add_of_pos_right hcount⟩
    ⟨Nat.le_refl _, Nat.lt_add_of_pos_right hcount⟩

theorem runKernelMouseLoop_clean
    (hseparate : (allocated framebufferInfo shadowReply composeReply).Separate header
      locals.cursor.savedPixels)
    (iterations : Nat)
    (hlabels : LabelsInside header framebufferInfo ∨ HoverStays header
      (allocated framebufferInfo shadowReply composeReply) locals memory iterations)
    (hholds : shadowReply.Obtained ∨ CursorStays header
      (allocated framebufferInfo shadowReply composeReply) locals memory iterations)
    (hrun : runKernelMouseLoop header (allocated framebufferInfo shadowReply composeReply) locals
      memory iterations = some (control, after)) :
    CleanView header framebufferInfo locals.mouseDetected control after := by
  intro X Y hX hY
  refine (runKernelMouseLoop_painted hseparate iterations hlabels ?_ hrun).screen X Y hX hY
  intro earlier hearlier previous before hprevious hsame
  rcases hholds with hobtained | hstays
  · have hcount := Nat.lt_of_le_of_lt (Nat.zero_le _) (hseparate.sized.pixelIndex_lt hX hY)
    exact absurd hsame (hobtained.shadowBase_ne hseparate hcount)
  · exact hstays earlier hearlier previous before hprevious

/-- A run with any answers of `AllocatePool` against one that got both buffers.
They look the same when they are the same run, or when the labels stay inside
their buttons or no button was drawn again, and either the shadow was obtained or
the cursor has not moved. -/
theorem runKernelMouseLoop_fallback (hboth : shadowReply'.Obtained ∧ composeReply'.Obtained)
    (hseparate : (allocated framebufferInfo shadowReply composeReply).Separate header
      locals.cursor.savedPixels)
    (hseparate' : (allocated framebufferInfo shadowReply' composeReply').Separate header
      locals.cursor.savedPixels)
    (iterations : Nat)
    (hholds : (shadowReply = shadowReply' ∧ composeReply = composeReply' ∧ memory = memory') ∨
      ((LabelsInside header framebufferInfo ∨ HoverStays header
          (allocated framebufferInfo shadowReply composeReply) locals memory iterations) ∧
        (shadowReply.Obtained ∨ CursorStays header
          (allocated framebufferInfo shadowReply composeReply) locals memory iterations)))
    (hrun : runKernelMouseLoop header (allocated framebufferInfo shadowReply composeReply) locals
      memory iterations = some (control, after))
    (hrun' : runKernelMouseLoop header (allocated framebufferInfo shadowReply' composeReply')
      locals memory' iterations = some (control', after')) :
    SameView framebufferInfo after after' ∧
      (LabelsInside header framebufferInfo ∨ HoverStays header
          (allocated framebufferInfo shadowReply composeReply) locals memory iterations →
        CleanView header framebufferInfo locals.mouseDetected control after) := by
  rcases hholds with ⟨rfl, rfl, rfl⟩ | ⟨hlabels, hholds⟩
  · obtain ⟨rfl, rfl⟩ := Prod.mk.inj (Option.some.inj (hrun.symm.trans hrun'))
    exact ⟨fun _ _ _ _ => rfl, fun hlabels =>
      runKernelMouseLoop_clean hseparate iterations hlabels (.inl hboth.1) hrun⟩
  · have hsame : (allocated framebufferInfo shadowReply composeReply).framebuffer =
      (allocated framebufferInfo shadowReply' composeReply').framebuffer := rfl
    have hclean := runKernelMouseLoop_clean hseparate iterations hlabels hholds hrun
    have hclean' := runKernelMouseLoop_clean hseparate' iterations
      (hlabels.imp_right (HoverStays.congr hsame hrun)) (.inl hboth.1) hrun'
    obtain rfl := runKernelMouseLoop_control hsame iterations hrun hrun'
    exact ⟨fun X Y hX hY => (hclean X Y hX hY).trans (hclean' X Y hX hY).symm, fun _ => hclean⟩

end

-- ---------------------------------------------------------------------------
-- The trail
-- ---------------------------------------------------------------------------

section
variable {header : GeneratedBitmap} {surfaces : BootSurfaces} {savedPixels : Nat}
  {mouseDetected : UInt8} {control : Control}

/-- Without a shadow nothing restores what the cursor leaves behind. -/
theorem iterate_keeps (hseparate : surfaces.Separate header savedPixels)
    (hown : surfaces.shadowBase = surfaces.framebuffer.framebuffer)
    (hsettled : control.Settled header surfaces.framebuffer mouseDetected savedPixels)
    (hhover : control.nextHovered header surfaces = control.setupUiState.hoveredButton)
    (hX : X < surfaces.framebuffer.screenWidth.toNat)
    (hY : Y < surfaces.framebuffer.screenHeight.toNat)
    (hout : ¬ ((control.nextCursor header surfaces).clip header
      surfaces.framebuffer).rect.Contains X Y) (memory : Memory UInt32) :
    applyAll (iterate header surfaces control).2 memory (surfaces.framebuffer.pixelAt X Y) =
      memory (surfaces.framebuffer.pixelAt X Y) := by
  by_cases hresult : (control.poll header surfaces).result = 0
  · rw [iterate_of_still hresult]
    rfl
  have hlayout := hseparate.layout
  have hsized := hseparate.sized
  have hsaved : (control.nextCursor header surfaces).savedPixels = savedPixels :=
    (control.nextCursor_sameImage header surfaces).savedPixels.trans hsettled.savedPixels_eq
  have hself : surfaces.shadowFramebufferInfo = surfaces.framebuffer := by
    rw [BootSurfaces.shadowFramebufferInfo_eq, hown]
  have hrefresh : (refreshHover header surfaces control.setupUiState
      (control.nextHovered header surfaces)).2 = [] := by
    simp only [refreshHover, hhover, ne_eq, not_true_eq_false, if_false]
  rw [iterate_of_result hsettled.visible hresult]
  simp only [applyAll_append, hrefresh, applyAll_nil]
  rw [hself, applyAll_blitSurfaceRect_self, BootSurfaces.composeFramebufferInfo_eq]
  have howns := hsized.owns hX hY
  rw [← hsaved] at hlayout
  refine applyAll_frame (fun ha => ?_) memory
  have hwritten := written_blitCursorComposite (a := surfaces.framebuffer.pixelAt X Y) hlayout
    hsettled.nextClamped
  rw [← BootSurfaces.shadowFramebufferInfo_eq, hself] at hwritten
  rcases hwritten ha with ha | ⟨hcompose, ha⟩ | ha
  · exact (hlayout.saved_apart _ ha.1 ha.2).1 howns
  · exact (hlayout.compose_apart hcompose).1 _ howns ha
  · exact hout ((hsized.shows_pixelAt hX hY).mp ha)

end

/-- The mouse is enabled and then sends one packet, ten to the right. -/
def movingPort : Port := enablingPort ++ [⟨0x21, 0x08⟩, ⟨0x21, 10⟩, ⟨0x21, 0⟩]

theorem written_drawGradientOutlinedTextAtlas_blank (framebufferInfo : FramebufferInfo)
    (x y : Int32) (text : List UInt8) (start stop : Rgb)
    (outlineThickness glyphWidth glyphHeight fallbackAdvance : UInt32) :
    written (drawGradientOutlinedTextAtlas framebufferInfo x y text start stop outlineThickness
      (.blank glyphWidth glyphHeight) fallbackAdvance) = [] := by
  rw [List.eq_nil_iff_forall_not_mem]
  intro a ha
  simp only [drawGradientOutlinedTextAtlas, written_append, List.mem_append,
    mem_written_flatMap] at ha
  rcases ha with ha | ⟨⟨cursorX, lineY, glyph⟩, -, ha⟩
  · split at ha
    · simp only [mem_written_flatMap] at ha
      obtain ⟨offsetY, -, offsetX, -, ha⟩ := ha
      split at ha
      · cases ha
      · rw [written_drawTextStringAtlas_blank] at ha
        cases ha
    · cases ha
  · rw [written_drawGlyphAtlas_blank] at ha
    cases ha

theorem backdrop_vga : backdrop plainBitmap vgaScreen (vgaScreen.pixelAt 320 240) = 0xFAFAFA := by
  have harea : ButtonArea vgaScreen (initializeSetupUiState vgaScreen 0).panel
      (vgaScreen.pixelAt 320 240) :=
    mem_written_drawRoundedBox.mpr ⟨196, by decide, 272, by decide, by decide, by decide, by decide⟩
  simp only [backdrop, drawSetupPanel, applyAll_append]
  rw [applyAll_frame (by rw [show plainBitmap.setupUiFont = .blank 40 56 from rfl,
      written_drawTextStringAtlas_blank]; exact List.not_mem_nil),
    (onScreen_drawImageNearestAlpha vgaScreen_sized plainBitmap.setupIcon
      (.inl ⟨rfl, by decide, by decide⟩)).frame ?_,
    applyAll_frame (by rw [show plainBitmap.setupTitleFont = .blank 72 96 from rfl,
      written_drawGradientOutlinedTextAtlas_blank]; exact List.not_mem_nil),
    applyAll_drawRoundedBox, if_pos harea]
  · rfl
  · rw [vgaScreen_sized.shows_pixelAt (by decide) (by decide)]
    decide

theorem setupPicture_vga :
    setupPicture plainBitmap vgaScreen 1 0 (vgaScreen.pixelAt 320 240) = 0xFAFAFA := by
  have hout : ∀ button, ¬ (Rect.ofWords button.x button.y button.width button.height).Contains
      320 240 → ¬ ButtonArea vgaScreen button (vgaScreen.pixelAt 320 240) := fun button hrect h =>
    hrect ((vgaScreen_sized.shows_pixelAt (by decide) (by decide)).mp
      (ButtonArea.shows vgaScreen_sized h))
  have htry : ¬ TryArea vgaScreen (vgaScreen.pixelAt 320 240) := hout _ (by decide)
  have hinstall : ¬ InstallArea vgaScreen (vgaScreen.pixelAt 320 240) := hout _ (by decide)
  rw [setupPicture_eq vgaScreen_sized (plainBitmap_labelsInside vgaScreen) (by decide),
    if_neg htry, if_neg hinstall, backdrop_vga]

theorem movingPort_poll :
    let control := (vgaLocals movingPort).firstControl plainBitmap vgaScreen
    (control.poll plainBitmap vgaSurfaces).result ≠ 0 ∧
      ¬ (control.nextCursor plainBitmap vgaSurfaces).Covers plainBitmap 320 240 ∧
      control.nextHovered plainBitmap vgaSurfaces = 0 ∧
      ¬ ((control.nextCursor plainBitmap vgaSurfaces).clip plainBitmap
        vgaScreen).rect.Contains 320 240 :=
  ⟨by decide, by decide +kernel, by decide +kernel, by decide +kernel⟩

theorem movingPort_run {shadowReply composeReply : SurfaceReply} {memory after : Memory UInt32}
    {control : Control}
    (hrun : runKernelMouseLoop plainBitmap (allocated vgaScreen shadowReply composeReply)
      (vgaLocals movingPort) memory 1 = some (control, after)) :
    ∃ before, runKernelMouseLoop plainBitmap (allocated vgaScreen shadowReply composeReply)
        (vgaLocals movingPort) memory 0 =
          some ((vgaLocals movingPort).firstControl plainBitmap vgaScreen, before) ∧
      (∀ below, control.cursor.over plainBitmap 320 240 below = below) ∧
      control.setupUiState.hoveredButton = 0 ∧
      after = applyAll (iterate plainBitmap (allocated vgaScreen shadowReply composeReply)
        ((vgaLocals movingPort).firstControl plainBitmap vgaScreen)).2 before := by
  obtain ⟨previous, before, hbefore, rfl, rfl⟩ := runKernelMouseLoop_succ hrun
  have hprevious : previous = (vgaLocals movingPort).firstControl plainBitmap vgaScreen :=
    (runKernelMouseLoop_zero hbefore).1.trans startLoop_fst
  subst hprevious
  obtain ⟨hresult, hcovers, hhovered, -⟩ := movingPort_poll
  have hsame : (allocated vgaScreen shadowReply composeReply).framebuffer =
    vgaSurfaces.framebuffer := rfl
  refine ⟨before, hbefore, ?_, ?_, rfl⟩
  · rw [iterate_fst_congr (by decide) hsame, iterate_of_result (by decide) hresult]
    simp only [blitCursorComposite_fst]
    exact fun below => if_neg hcovers
  · rw [iterate_fst_congr (by decide) hsame, iterate_of_result (by decide) hresult]
    simp only [refreshHover_fst]
    exact hhovered

def shadowlessSurfaces : BootSurfaces where
  framebuffer := vgaScreen
  shadowFramebuffer := 0
  composeFramebuffer := 0x40000000

theorem shadowlessSurfaces_separate : shadowlessSurfaces.Separate plainBitmap 0x50000000 where
  sized := vgaScreen_sized
  framebuffer_ne := by decide
  shadow := fun h => absurd rfl h
  compose := fun _ => FramebufferInfo.apart_iff.mpr (by decide)
  both := fun h _ => absurd rfl h
  saved := fun a hlow _ =>
    ⟨FramebufferInfo.not_owns_of_le (Nat.le_trans (by decide) hlow), fun h => absurd rfl h,
      fun _ => FramebufferInfo.not_owns_of_le (Nat.le_trans (by decide) hlow)⟩

theorem vga_returns (header : GeneratedBitmap) (surfaces : BootSurfaces) (locals : Locals)
    (hsame : surfaces.framebuffer = vgaScreen) (iterations : Nat) :
    ∃ result, runKernelMouseLoop header surfaces locals (fun _ => 0) iterations = some result :=
  Option.isSome_iff_exists.mp (runKernelMouseLoop_isSome (by rw [hsame]; exact vgaScreen_sized)
    (by rw [hsame]; exact FramebufferInfo.blendReturns_of_format (by decide)) _ iterations)

/-- The cursor enters a button and leaves it, with a shadow but no compose buffer. -/
theorem runKernelMouseLoop_fallback_noCompose :
    let lacking := allocated vgaScreen ⟨efiSuccess, 0x30000000⟩ ⟨0x8000000000000009, 0⟩
    let reference := allocated vgaScreen ⟨efiSuccess, 0x30000000⟩ ⟨efiSuccess, 0x40000000⟩
    let locals := vgaLocals hoveringPort
    ∃ control after control' after',
      runKernelMouseLoop inkedBitmap lacking locals (fun _ => 0) 2 = some (control, after) ∧
      runKernelMouseLoop inkedBitmap reference locals (fun _ => 0) 2 = some (control', after') ∧
      SameView vgaScreen after after' ∧
      (LabelsInside inkedBitmap vgaScreen ∨ HoverStays inkedBitmap lacking locals (fun _ => 0) 2 →
        CleanView inkedBitmap vgaScreen locals.mouseDetected control after) := by
  intro lacking reference locals
  have hlacking : lacking.Separate inkedBitmap locals.cursor.savedPixels :=
    { vgaSurfaces_separate inkedBitmap with
      compose := fun h => absurd rfl h
      both := fun _ h => absurd rfl h
      saved := fun a hlow hhigh =>
        ⟨((vgaSurfaces_separate inkedBitmap).saved a hlow hhigh).1,
          ((vgaSurfaces_separate inkedBitmap).saved a hlow hhigh).2.1, fun h => absurd rfl h⟩ }
  have hreference : reference.Separate inkedBitmap locals.cursor.savedPixels :=
    vgaSurfaces_separate inkedBitmap
  obtain ⟨⟨control, after⟩, hrun⟩ := vga_returns inkedBitmap lacking locals rfl 2
  obtain ⟨⟨control', after'⟩, hrun'⟩ := vga_returns inkedBitmap reference locals rfl 2
  exact ⟨control, after, control', after', hrun, hrun',
    runKernelMouseLoop_fallback ⟨by decide, by decide⟩ hlacking hreference 2
      (.inr ⟨.inl inkedBitmap_labelsInside, .inl (by decide)⟩) hrun hrun'⟩

/-- The pixel the cursor has left stays white without a shadow, and shows the
panel again with one. -/
theorem runKernelMouseLoop_fallback_trail :
    let lacking := allocated vgaScreen ⟨0x8000000000000009, 0⟩ ⟨efiSuccess, 0x40000000⟩
    let reference := allocated vgaScreen ⟨efiSuccess, 0x30000000⟩ ⟨efiSuccess, 0x40000000⟩
    let locals := vgaLocals movingPort
    ∃ control after control' after',
      runKernelMouseLoop plainBitmap lacking locals (fun _ => 0) 1 = some (control, after) ∧
      runKernelMouseLoop plainBitmap reference locals (fun _ => 0) 1 = some (control', after') ∧
      ¬ SameView vgaScreen after after' ∧
      ¬ CleanView plainBitmap vgaScreen locals.mouseDetected control after := by
  intro lacking reference locals
  have hlabels := plainBitmap_labelsInside vgaScreen
  have hlacking : lacking.Separate plainBitmap locals.cursor.savedPixels :=
    shadowlessSurfaces_separate
  have hreference : reference.Separate plainBitmap locals.cursor.savedPixels :=
    vgaSurfaces_separate plainBitmap
  have hX : 320 < vgaScreen.screenWidth.toNat := by decide
  have hY : 240 < vgaScreen.screenHeight.toNat := by decide
  obtain ⟨⟨control, after⟩, hrun⟩ := vga_returns plainBitmap lacking locals rfl 1
  obtain ⟨⟨control', after'⟩, hrun'⟩ := vga_returns plainBitmap reference locals rfl 1
  obtain ⟨before, hbefore, hover, hhovered, hafter⟩ := movingPort_run hrun
  obtain ⟨before', -, hover', hhovered', -⟩ := movingPort_run hrun'
  have hwhite : after (vgaScreen.pixelAt 320 240) = 0xFFFFFF := by
    have hpainted := runKernelMouseLoop_painted hlacking 0 (.inl hlabels)
      (fun _ h => absurd h (Nat.not_lt_zero _)) hbefore
    have hkeep := iterate_keeps hlacking rfl (runKernelMouseLoop_settled 0 hbefore)
      movingPort_poll.2.2.1 hX hY movingPort_poll.2.2.2 before
    rw [hafter]
    refine hkeep.trans ((hpainted.screen 320 240 hX hY).trans ?_)
    rw [SoftwareCursor.over, if_pos (by decide +kernel)]
    decide +kernel
  have hpanel : setupPicture plainBitmap vgaScreen locals.mouseDetected 0
      (vgaScreen.pixelAt 320 240) = 0xFAFAFA := setupPicture_vga
  have hclean : after' (vgaScreen.pixelAt 320 240) = 0xFAFAFA := by
    rw [runKernelMouseLoop_clean hreference 1 (.inl hlabels) (.inl (by decide)) hrun' 320 240 hX hY,
      hover', hhovered', hpanel]
  refine ⟨control, after, control', after', hrun, hrun', fun hsame => ?_, fun hview => ?_⟩
  · have := hsame 320 240 hX hY
    rw [hwhite, hclean] at this
    exact absurd this (by decide)
  · have := hview 320 240 hX hY
    rw [hwhite, hover, hhovered, hpanel] at this
    exact absurd this (by decide)

end DragonOS.Boot
