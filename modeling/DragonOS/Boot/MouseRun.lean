import DragonOS.Boot.Repaint

/-!
# Runs of the mouse loop

What holds at the end of every iteration. The control state is settled: the
cursor is on the screen, its background was saved where it is now, and the setup
state is that of the hovered button. The pixels follow from it: the shadow holds
the picture of the setup state, and the framebuffer shows the cursor over it.
-/

namespace DragonOS.Boot

open Lib

-- ---------------------------------------------------------------------------
-- The control state
-- ---------------------------------------------------------------------------

section
variable {header : GeneratedBitmap} {framebufferInfo : FramebufferInfo}

structure Control.Settled (header : GeneratedBitmap) (framebufferInfo : FramebufferInfo)
    (mouseDetected : UInt8) (savedPixels : Nat) (control : Control) : Prop where
  placed : control.cursor.Placed header framebufferInfo
  visible : control.cursor.visible ≠ 0
  savedPixels_eq : control.cursor.savedPixels = savedPixels
  ui : control.setupUiState =
    setupUi framebufferInfo mouseDetected control.setupUiState.hoveredButton
  enabled : mouseDetected = 0 → control.mouseState.enabled = 0

theorem SoftwareCursor.Placed.clamped {cursor : SoftwareCursor}
    (h : cursor.Placed header framebufferInfo) : cursor.Clamped header framebufferInfo := by
  obtain ⟨hright, hbottom, hwidth, hheight⟩ := h
  exact ⟨by omega, by omega⟩

theorem SoftwareCursor.Placed.congr {cursor cursor' : SoftwareCursor}
    (h : cursor.Placed header framebufferInfo) (himage : cursor'.SameImage cursor)
    (hx : cursor'.x = cursor.x) (hy : cursor'.y = cursor.y) :
    cursor'.Placed header framebufferInfo := by
  obtain ⟨hright, hbottom, hwidth, hheight⟩ := h
  refine ⟨?_, ?_, ?_, ?_⟩
  · rwa [hx, himage.savedWidth]
  · rwa [hy, himage.savedHeight]
  · rwa [himage.savedWidth]
  · rwa [himage.savedHeight]

theorem SoftwareCursor.SameImage.over {cursor cursor' : SoftwareCursor}
    (himage : cursor'.SameImage cursor) (hx : cursor'.x = cursor.x) (hy : cursor'.y = cursor.y)
    (below : UInt32) : cursor'.over header X Y below = cursor.over header X Y below := by
  have hindex : cursor'.indexAt header X Y = cursor.indexAt header X Y := by
    simp only [SoftwareCursor.indexAt, hx, hy]
  have hcovers : cursor'.Covers header X Y ↔ cursor.Covers header X Y := by
    simp only [SoftwareCursor.Covers, hindex, hx, hy, himage.opaqueMask]
  simp only [SoftwareCursor.over, hcovers, hindex, himage.resolvedPixels]

theorem initializeCursorSurface_eq (header : GeneratedBitmap) (framebufferInfo : FramebufferInfo)
    (cursor : SoftwareCursor) :
    ∃ opaqueMask resolvedPixels,
      initializeCursorSurface header framebufferInfo cursor =
        { cursor with opaqueMask, resolvedPixels } := by
  refine List.foldlRecOn (motive := fun after : SoftwareCursor =>
    ∃ opaqueMask resolvedPixels, after = { cursor with opaqueMask, resolvedPixels }) _ _
      ⟨_, _, rfl⟩ fun before hbefore y _ => ?_
  refine List.foldlRecOn (motive := fun after : SoftwareCursor =>
    ∃ opaqueMask resolvedPixels, after = { cursor with opaqueMask, resolvedPixels }) _ _
      hbefore fun before hbefore x _ => ?_
  obtain ⟨opaqueMask, resolvedPixels, rfl⟩ := hbefore
  simp only [initializeCursorPixel]
  split <;> exact ⟨_, _, rfl⟩

theorem initializeCursorSurface_sameRect (header : GeneratedBitmap)
    (framebufferInfo : FramebufferInfo) (cursor : SoftwareCursor) :
    (initializeCursorSurface header framebufferInfo cursor).x = cursor.x ∧
      (initializeCursorSurface header framebufferInfo cursor).y = cursor.y ∧
      (initializeCursorSurface header framebufferInfo cursor).savedPixels = cursor.savedPixels := by
  obtain ⟨opaqueMask, resolvedPixels, heq⟩ :=
    initializeCursorSurface_eq header framebufferInfo cursor
  rw [heq]
  exact ⟨rfl, rfl, rfl⟩

theorem initializePs2Mouse_enabled (mouseState : Ps2MouseState) (controller : Controller)
    (h : ((initializePs2Mouse mouseState).run controller).1.1 = 0) :
    ((initializePs2Mouse mouseState).run controller).1.2.enabled = 0 := by
  revert h
  simp only [initializePs2Mouse, StateT.run_bind]
  cases ((ps2EnableMouse).run controller : Bool × Controller) with
  | mk enabled controller =>
    cases enabled with
    | false => exact fun _ => rfl
    | true => exact fun h => absurd h (by decide : ¬ ((1 : UInt8) = 0))

theorem updateCursorFromPs2Mouse_disabled (mouseState : Ps2MouseState) (cursor : SoftwareCursor)
    (port : Port) (h : mouseState.enabled = 0) :
    updateCursorFromPs2Mouse header framebufferInfo mouseState cursor port =
      { result := 0, mouse := mouseState, cursor, port, packets := [] } := if_pos h

end

-- ---------------------------------------------------------------------------
-- The buffers
-- ---------------------------------------------------------------------------

/-- The buffers there are overlap neither each other nor the array at
`savedPixels`. A null framebuffer is no surface. -/
structure BootSurfaces.Separate (header : GeneratedBitmap) (savedPixels : Nat)
    (surfaces : BootSurfaces) : Prop where
  sized : surfaces.framebuffer.Sized
  framebuffer_ne : surfaces.framebuffer.framebuffer ≠ 0
  shadow : surfaces.shadowFramebuffer ≠ 0 →
    surfaces.framebuffer.Apart surfaces.shadowFramebuffer
  compose : surfaces.composeFramebuffer ≠ 0 →
    surfaces.framebuffer.Apart surfaces.composeFramebuffer
  both : surfaces.shadowFramebuffer ≠ 0 → surfaces.composeFramebuffer ≠ 0 →
    (surfaces.framebuffer.withBase surfaces.shadowFramebuffer).Apart surfaces.composeFramebuffer
  saved : ∀ a, savedPixels ≤ a →
    a < savedPixels + header.cursorWidth.toNat * header.cursorHeight.toNat →
    ¬ surfaces.framebuffer.Owns a ∧
      (surfaces.shadowFramebuffer ≠ 0 →
        ¬ (surfaces.framebuffer.withBase surfaces.shadowFramebuffer).Owns a) ∧
      (surfaces.composeFramebuffer ≠ 0 →
        ¬ (surfaces.framebuffer.withBase surfaces.composeFramebuffer).Owns a)

namespace BootSurfaces

variable {header : GeneratedBitmap} {surfaces : BootSurfaces}

/-- Where the loop finds the shadow, which may be the framebuffer. -/
def shadowBase (surfaces : BootSurfaces) : Nat := surfaces.shadowFramebufferInfo.framebuffer

def composeBase (surfaces : BootSurfaces) : Nat := surfaces.composeFramebufferInfo.framebuffer

theorem shadowFramebufferInfo_eq :
    surfaces.shadowFramebufferInfo = surfaces.framebuffer.withBase surfaces.shadowBase := by
  unfold shadowBase shadowFramebufferInfo
  split <;> rfl

theorem composeFramebufferInfo_eq :
    surfaces.composeFramebufferInfo = surfaces.framebuffer.withBase surfaces.composeBase := by
  unfold composeBase composeFramebufferInfo
  split <;> rfl

theorem shadowBase_cases (surfaces : BootSurfaces) :
    (surfaces.shadowFramebuffer ≠ 0 ∧
        surfaces.shadowFramebuffer ≠ surfaces.framebuffer.framebuffer ∧
        surfaces.shadowBase = surfaces.shadowFramebuffer) ∨
      surfaces.shadowBase = surfaces.framebuffer.framebuffer := by
  unfold shadowBase shadowFramebufferInfo
  split
  next h => exact .inl ⟨h.1, h.2, rfl⟩
  next => exact .inr rfl

theorem composeBase_cases :
    (surfaces.composeFramebuffer ≠ 0 ∧
        surfaces.composeFramebuffer ≠ surfaces.framebuffer.framebuffer ∧
        surfaces.composeFramebuffer ≠ surfaces.shadowBase ∧
        surfaces.composeBase = surfaces.composeFramebuffer) ∨
      surfaces.composeBase = 0 := by
  unfold composeBase composeFramebufferInfo
  split
  next h => exact .inl ⟨h.1, h.2.1, h.2.2, rfl⟩
  next => exact .inr rfl

theorem Separate.layout (h : surfaces.Separate header savedPixels) :
    Layout header surfaces.framebuffer surfaces.shadowBase surfaces.composeBase savedPixels := by
  have hcompose : surfaces.composeBase ≠ 0 → surfaces.composeFramebuffer ≠ 0 ∧
      surfaces.composeFramebuffer ≠ surfaces.framebuffer.framebuffer ∧
      surfaces.composeFramebuffer ≠ surfaces.shadowBase ∧
      surfaces.composeBase = surfaces.composeFramebuffer := fun hne =>
    composeBase_cases.resolve_right hne
  rcases shadowBase_cases surfaces with ⟨hne, hother, hbase⟩ | hbase
  · refine ⟨h.sized, h.framebuffer_ne, by rwa [hbase], fun _ => by rw [hbase]; exact h.shadow hne,
      fun hc => ?_, fun hc => ?_, fun a hlow hhigh => ?_⟩
    · obtain ⟨-, h₁, h₂, hc⟩ := hcompose hc
      exact ⟨by rwa [hc], by rwa [hc]⟩
    · obtain ⟨hc', -, -, hc⟩ := hcompose hc
      rw [hc, hbase]
      exact ⟨h.compose hc', h.both hne hc'⟩
    · obtain ⟨hf, hs, hm⟩ := h.saved a hlow hhigh
      refine ⟨hf, by rw [hbase]; exact hs hne, fun hc => ?_⟩
      obtain ⟨hc', -, -, hc⟩ := hcompose hc
      rw [hc]
      exact hm hc'
  · refine ⟨h.sized, h.framebuffer_ne, by rw [hbase]; exact h.framebuffer_ne,
      fun hne => absurd hbase hne, fun hc => ?_, fun hc => ?_, fun a hlow hhigh => ?_⟩
    · obtain ⟨-, h₁, h₂, hc⟩ := hcompose hc
      exact ⟨by rwa [hc], by rwa [hc]⟩
    · obtain ⟨hc', -, -, hc⟩ := hcompose hc
      rw [hc, hbase]
      exact ⟨h.compose hc', h.compose hc'⟩
    · obtain ⟨hf, hs, hm⟩ := h.saved a hlow hhigh
      refine ⟨hf, by rw [hbase]; exact hf, fun hc => ?_⟩
      obtain ⟨hc', -, -, hc⟩ := hcompose hc
      rw [hc]
      exact hm hc'

end BootSurfaces

-- ---------------------------------------------------------------------------
-- The pixels
-- ---------------------------------------------------------------------------

section
variable {header : GeneratedBitmap} {framebufferInfo : FramebufferInfo}

/-- The shadow holds the picture, and the framebuffer shows the cursor over it. -/
structure Painted (header : GeneratedBitmap) (framebufferInfo : FramebufferInfo) (shadow : Nat)
    (mouseDetected : UInt8) (hoveredButton : UInt32) (cursor : SoftwareCursor)
    (memory : Memory UInt32) : Prop where
  shadow_eq : shadow ≠ framebufferInfo.framebuffer →
    Agree framebufferInfo.count shadow framebufferInfo.framebuffer memory
      (setupPicture header framebufferInfo mouseDetected hoveredButton)
  screen : ∀ X Y, X < framebufferInfo.screenWidth.toNat → Y < framebufferInfo.screenHeight.toNat →
    memory (framebufferInfo.pixelAt X Y) = cursor.over header X Y
      (setupPicture header framebufferInfo mouseDetected hoveredButton
        (framebufferInfo.pixelAt X Y))

/-- What the composite needs: the framebuffer shows the shadow, and below the
cursor it may differ from the picture. -/
structure Erased (header : GeneratedBitmap) (framebufferInfo : FramebufferInfo) (shadow : Nat)
    (mouseDetected : UInt8) (hoveredButton : UInt32) (cursor : SoftwareCursor)
    (memory : Memory UInt32) : Prop where
  shadow_eq : shadow ≠ framebufferInfo.framebuffer →
    Agree framebufferInfo.count shadow framebufferInfo.framebuffer memory
      (setupPicture header framebufferInfo mouseDetected hoveredButton)
  same : ∀ X Y, X < framebufferInfo.screenWidth.toNat → Y < framebufferInfo.screenHeight.toNat →
    memory (framebufferInfo.pixelAt X Y) = memory ((framebufferInfo.withBase shadow).pixelAt X Y)
  screen : ∀ X Y, X < framebufferInfo.screenWidth.toNat → Y < framebufferInfo.screenHeight.toNat →
    cursor.over header X Y (memory (framebufferInfo.pixelAt X Y)) = cursor.over header X Y
      (setupPicture header framebufferInfo mouseDetected hoveredButton
        (framebufferInfo.pixelAt X Y))

variable {shadow compose savedPixels : Nat} {mouseDetected : UInt8} {hoveredButton : UInt32}
  {cursor : SoftwareCursor} {memory : Memory UInt32}

theorem agree_pixelAt (hsized : framebufferInfo.Sized) {picture : Memory UInt32}
    (h : Agree framebufferInfo.count shadow framebufferInfo.framebuffer memory picture)
    (hX : X < framebufferInfo.screenWidth.toNat) (hY : Y < framebufferInfo.screenHeight.toNat) :
    memory ((framebufferInfo.withBase shadow).pixelAt X Y) =
      picture (framebufferInfo.pixelAt X Y) :=
  h _ (hsized.pixelIndex_lt hX hY)

theorem Painted.clip (h : Painted header framebufferInfo shadow mouseDetected hoveredButton cursor
    memory) : Painted header framebufferInfo shadow mouseDetected hoveredButton
      { cursor.clip header framebufferInfo with visible := 1 } memory :=
  ⟨h.shadow_eq, fun X Y hX hY => h.screen X Y hX hY⟩

theorem Erased.of_shadow (hsized : framebufferInfo.Sized)
    (hshadow : Agree framebufferInfo.count shadow framebufferInfo.framebuffer memory
      (setupPicture header framebufferInfo mouseDetected hoveredButton))
    (hsame : ∀ X Y, X < framebufferInfo.screenWidth.toNat →
      Y < framebufferInfo.screenHeight.toNat →
      memory (framebufferInfo.pixelAt X Y) =
        memory ((framebufferInfo.withBase shadow).pixelAt X Y)) :
    Erased header framebufferInfo shadow mouseDetected hoveredButton cursor memory where
  shadow_eq := fun _ => hshadow
  same := hsame
  screen := fun X Y hX hY => by rw [hsame X Y hX hY, agree_pixelAt hsized hshadow hX hY]

theorem Erased.congr (h : Erased header framebufferInfo shadow mouseDetected hoveredButton cursor
    memory) (hover : ∀ X Y below, cursor'.over header X Y below = cursor.over header X Y below) :
    Erased header framebufferInfo shadow mouseDetected hoveredButton cursor' memory :=
  ⟨h.shadow_eq, h.same, fun X Y hX hY => by rw [hover, hover, h.screen X Y hX hY]⟩

theorem Erased.composite (hlayout : Layout header framebufferInfo shadow compose savedPixels)
    (hclamped : cursor.Clamped header framebufferInfo) (hsaved : cursor.savedPixels = savedPixels)
    (h : Erased header framebufferInfo shadow mouseDetected hoveredButton cursor memory) :
    Painted header framebufferInfo shadow mouseDetected hoveredButton cursor
      (applyAll (blitCursorComposite header framebufferInfo (framebufferInfo.withBase shadow)
        (framebufferInfo.withBase compose) cursor).2 memory) := by
  subst hsaved
  refine ⟨fun hne i hi => ?_, fun X Y hX hY => ?_⟩
  · -- The composite does not write to a shadow of its own.
    have howns : (framebufferInfo.withBase shadow).Owns (shadow + i) :=
      ⟨Nat.le_add_right _ _, Nat.add_lt_add_left hi _⟩
    rw [applyAll_frame _ memory, h.shadow_eq hne i hi]
    intro ha
    rcases written_blitCursorComposite hlayout hclamped ha with ha | ⟨hc, ha⟩ | ha
    · exact (hlayout.saved_apart _ ha.1 ha.2).2.1 howns
    · exact (hlayout.compose_apart hc).2 _ howns ha
    · exact hlayout.shadow_apart hne _ (hlayout.sized.shows_owns ha) howns
  · rw [blitCursorComposite_shows hlayout hclamped memory (h.same X Y hX hY) hX hY,
      ← h.same X Y hX hY, h.screen X Y hX hY]

theorem Painted.erase (hlayout : Layout header framebufferInfo shadow compose savedPixels)
    (hne : shadow ≠ framebufferInfo.framebuffer) (hplaced : cursor.Placed header framebufferInfo)
    (h : Painted header framebufferInfo shadow mouseDetected hoveredButton cursor memory)
    (cursor' : SoftwareCursor) :
    Erased header framebufferInfo shadow mouseDetected hoveredButton cursor'
      (applyAll (blitSurfaceRect framebufferInfo (framebufferInfo.withBase shadow) cursor.x
        cursor.y cursor.savedWidth cursor.savedHeight) memory) := by
  have hsized := hlayout.sized
  have happart := hlayout.shadow_apart hne
  have hshadow : Agree framebufferInfo.count shadow framebufferInfo.framebuffer
      (applyAll (blitSurfaceRect framebufferInfo (framebufferInfo.withBase shadow) cursor.x
        cursor.y cursor.savedWidth cursor.savedHeight) memory)
      (setupPicture header framebufferInfo mouseDetected hoveredButton) := fun i hi => by
    rw [(confined_blitSurfaceRect hsized (hsized.withBase shadow) _ _ _ _).frame, h.shadow_eq hne i hi]
    exact fun hshows => happart _ (hsized.shows_owns hshows)
      ⟨Nat.le_add_right _ _, Nat.add_lt_add_left hi _⟩
  refine .of_shadow hsized hshadow fun X Y hX hY => ?_
  rw [agree_pixelAt hsized hshadow hX hY, applyAll_blitSurfaceRect_withBase hsized
    hlayout.framebuffer_ne hlayout.shadow_ne happart _ _ _ _ _ hX hY]
  split
  next => exact agree_pixelAt hsized (h.shadow_eq hne) hX hY
  next hout => rw [h.screen X Y hX hY, over_of_not_rect hplaced hX hY hout]

/-- Blitting a surface onto itself does nothing, so the old cursor stays. -/
theorem Painted.keep (hsame : shadow = framebufferInfo.framebuffer)
    (h : Painted header framebufferInfo shadow mouseDetected hoveredButton cursor memory) :
    Erased header framebufferInfo shadow mouseDetected hoveredButton cursor memory where
  shadow_eq := fun hne => absurd hsame hne
  same := fun X Y _ _ => by rw [hsame]
  screen := fun X Y hX hY => by rw [h.screen X Y hX hY, over_over]

/-- Some of the shadow has been blitted to the framebuffer, at least the words `W`. -/
structure Blitted (framebufferInfo : FramebufferInfo) (shadow : Nat) (W : Nat → Prop)
    (before after : Memory UInt32) : Prop where
  shadow_eq : ∀ i < framebufferInfo.count, after (shadow + i) = before (shadow + i)
  shown : ∀ X Y, X < framebufferInfo.screenWidth.toNat → Y < framebufferInfo.screenHeight.toNat →
    W (framebufferInfo.pixelAt X Y) →
    after (framebufferInfo.pixelAt X Y) = before ((framebufferInfo.withBase shadow).pixelAt X Y)
  either : ∀ X Y, X < framebufferInfo.screenWidth.toNat → Y < framebufferInfo.screenHeight.toNat →
    after (framebufferInfo.pixelAt X Y) = before (framebufferInfo.pixelAt X Y) ∨
      after (framebufferInfo.pixelAt X Y) = before ((framebufferInfo.withBase shadow).pixelAt X Y)

theorem Blitted.trans (hsized : framebufferInfo.Sized) {W W' : Nat → Prop}
    (h : Blitted framebufferInfo shadow W m m') (h' : Blitted framebufferInfo shadow W' m' m'') :
    Blitted framebufferInfo shadow (fun a => W a ∨ W' a) m m'' := by
  have hshadow : ∀ X Y, X < framebufferInfo.screenWidth.toNat →
      Y < framebufferInfo.screenHeight.toNat →
      m' ((framebufferInfo.withBase shadow).pixelAt X Y) =
        m ((framebufferInfo.withBase shadow).pixelAt X Y) := fun X Y hX hY =>
    h.shadow_eq _ (hsized.pixelIndex_lt hX hY)
  refine ⟨fun i hi => (h'.shadow_eq i hi).trans (h.shadow_eq i hi), fun X Y hX hY hW => ?_,
    fun X Y hX hY => ?_⟩
  · rcases hW with hW | hW
    · rcases h'.either X Y hX hY with heq | heq
      · exact heq.trans (h.shown X Y hX hY hW)
      · exact heq.trans (hshadow X Y hX hY)
    · exact (h'.shown X Y hX hY hW).trans (hshadow X Y hX hY)
  · rcases h'.either X Y hX hY with heq | heq
    · exact (h.either X Y hX hY).imp heq.trans heq.trans
    · exact .inr (heq.trans (hshadow X Y hX hY))

theorem blitted_if (hlayout : Layout header framebufferInfo shadow compose savedPixels)
    (hne : shadow ≠ framebufferInfo.framebuffer) (c : Prop) [Decidable c]
    (x y width height : UInt32) (memory : Memory UInt32) :
    Blitted framebufferInfo shadow
      (fun a => c ∧ framebufferInfo.Shows (.ofWords x y width height) a) memory
      (applyAll (if c then
          blitSurfaceRect framebufferInfo (framebufferInfo.withBase shadow) x y width height
        else []) memory) := by
  have hsized := hlayout.sized
  have happart := hlayout.shadow_apart hne
  split
  next hc =>
    have hblit := fun X Y => applyAll_blitSurfaceRect_withBase (X := X) (Y := Y) hsized
      hlayout.framebuffer_ne hlayout.shadow_ne happart x y width height memory
    refine ⟨fun i hi => ?_, fun X Y hX hY hW => ?_, fun X Y hX hY => ?_⟩
    · refine (confined_blitSurfaceRect hsized (hsized.withBase shadow) _ _ _ _).frame ?_ memory
      exact fun hshows => happart _ (hsized.shows_owns hshows)
        ⟨Nat.le_add_right _ _, Nat.add_lt_add_left hi _⟩
    · rw [hblit X Y hX hY, if_pos ((hsized.shows_pixelAt hX hY).mp hW.2)]
    · rw [hblit X Y hX hY]
      split
      · exact .inr rfl
      · exact .inl rfl
  next hc => exact ⟨fun _ _ => rfl, fun X Y _ _ hW => absurd hW.1 hc, fun X Y _ _ => .inl rfl⟩

theorem hoverShows_withBase (hsized : framebufferInfo.Sized) (previous current : UInt32)
    (hX : X < framebufferInfo.screenWidth.toNat) (hY : Y < framebufferInfo.screenHeight.toNat) :
    HoverShows (framebufferInfo.withBase shadow) previous current
        ((framebufferInfo.withBase shadow).pixelAt X Y) ↔
      HoverShows framebufferInfo previous current (framebufferInfo.pixelAt X Y) := by
  simp only [HoverShows, (hsized.withBase shadow).shows_pixelAt hX hY, hsized.shows_pixelAt hX hY]
  rfl

section
variable (hlayout : Layout header framebufferInfo shadow compose savedPixels)
  (hlabels : LabelsInside header framebufferInfo) (hdetected : mouseDetected ≠ 0)
  {previous current : UInt32} (hne : previous ≠ current)
include hlayout hlabels hdetected hne

theorem refreshSetupButtons_agree
    (h : Agree framebufferInfo.count shadow framebufferInfo.framebuffer memory
      (setupPicture header framebufferInfo mouseDetected previous)) :
    Agree framebufferInfo.count shadow framebufferInfo.framebuffer
      (applyAll (refreshSetupButtons header (framebufferInfo.withBase shadow)
        (setupUi framebufferInfo mouseDetected current) previous current) memory)
      (setupPicture header framebufferInfo mouseDetected current) := fun i hi => by
  have hsized := hlayout.sized
  have hpicture := fun hovered =>
    setupPicture_withBase hsized header shadow mouseDetected hovered i hi
  rcases refreshSetupButtons_cases (hsized.withBase shadow) (hlabels.withBase hsized shadow)
    hdetected hne memory (shadow + i) with ⟨-, hnew⟩ | ⟨hkeep, hpictures⟩
  · exact hnew.trans (hpicture current)
  · rw [hpicture, hpicture] at hpictures
    exact hkeep.trans ((h i hi).trans hpictures)

/-- The redraw leaves the framebuffer alone, and what it does not blit there is
the same in both pictures. -/
theorem refreshSetupButtons_screen (memory : Memory UInt32)
    (hown : shadow ≠ framebufferInfo.framebuffer)
    (hX : X < framebufferInfo.screenWidth.toNat) (hY : Y < framebufferInfo.screenHeight.toNat) :
    applyAll (refreshSetupButtons header (framebufferInfo.withBase shadow)
        (setupUi framebufferInfo mouseDetected current) previous current) memory
        (framebufferInfo.pixelAt X Y) = memory (framebufferInfo.pixelAt X Y) ∧
      (¬ HoverShows framebufferInfo previous current (framebufferInfo.pixelAt X Y) →
        setupPicture header framebufferInfo mouseDetected previous (framebufferInfo.pixelAt X Y) =
          setupPicture header framebufferInfo mouseDetected current
            (framebufferInfo.pixelAt X Y)) := by
  have hsized := hlayout.sized
  have hcases := refreshSetupButtons_cases (hsized.withBase shadow)
    (hlabels.withBase hsized shadow) hdetected hne memory
  constructor
  · rcases hcases (framebufferInfo.pixelAt X Y) with ⟨hshows, -⟩ | ⟨hkeep, -⟩
    · refine absurd ?_ (hlayout.shadow_apart hown _ (hsized.owns hX hY))
      rcases hshows with ⟨-, hshows⟩ | ⟨-, hshows⟩
      · exact (hsized.withBase shadow).shows_owns hshows
      · exact (hsized.withBase shadow).shows_owns hshows
    · exact hkeep
  · intro hout
    have hpicture := fun hovered => setupPicture_withBase hsized header shadow
      mouseDetected hovered _ (hsized.pixelIndex_lt hX hY)
    rcases hcases ((framebufferInfo.withBase shadow).pixelAt X Y) with ⟨hshows, -⟩ | ⟨-, heq⟩
    · exact absurd ((hoverShows_withBase hsized previous current hX hY).mp hshows) hout
    · exact (hpicture previous).symm.trans (heq.trans (hpicture current))

end

theorem Blitted.erased (hsized : framebufferInfo.Sized) {W : Nat → Prop} {m m' : Memory UInt32}
    (h : Blitted framebufferInfo shadow W m m')
    (hshadow : Agree framebufferInfo.count shadow framebufferInfo.framebuffer m
      (setupPicture header framebufferInfo mouseDetected hoveredButton))
    (hrest : ∀ X Y, X < framebufferInfo.screenWidth.toNat →
      Y < framebufferInfo.screenHeight.toNat → ¬ W (framebufferInfo.pixelAt X Y) →
      m (framebufferInfo.pixelAt X Y) = setupPicture header framebufferInfo mouseDetected
        hoveredButton (framebufferInfo.pixelAt X Y)) :
    Erased header framebufferInfo shadow mouseDetected hoveredButton cursor m' := by
  have hagree : Agree framebufferInfo.count shadow framebufferInfo.framebuffer m'
      (setupPicture header framebufferInfo mouseDetected hoveredButton) := fun i hi =>
    (h.shadow_eq i hi).trans (hshadow i hi)
  refine .of_shadow hsized hagree fun X Y hX hY => ?_
  have hpicture := agree_pixelAt hsized hshadow hX hY
  rw [agree_pixelAt hsized hagree hX hY]
  by_cases hW : W (framebufferInfo.pixelAt X Y)
  · exact (h.shown X Y hX hY hW).trans hpicture
  · rcases h.either X Y hX hY with heq | heq
    · exact heq.trans (hrest X Y hX hY hW)
    · exact heq.trans hpicture

theorem Erased.hover (hlayout : Layout header framebufferInfo shadow compose savedPixels)
    (hdetected : mouseDetected ≠ 0) {surfaces : BootSurfaces}
    (hframebuffer : surfaces.framebuffer = framebufferInfo)
    (hshadow : surfaces.shadowBase = shadow) (current : UInt32)
    (hlabels : hoveredButton ≠ current → LabelsInside header framebufferInfo)
    (h : Erased header framebufferInfo shadow mouseDetected hoveredButton cursor memory) :
    Erased header framebufferInfo shadow mouseDetected current cursor
      (applyAll (refreshHover header surfaces
        (setupUi framebufferInfo mouseDetected hoveredButton) current).2 memory) := by
  subst hframebuffer hshadow
  have hsized := hlayout.sized
  simp only [refreshHover, BootSurfaces.shadowFramebufferInfo_eq]
  split
  next hne =>
    have hne : hoveredButton ≠ current := fun heq => hne heq.symm
    have hlabels := hlabels hne
    rw [applyAll_append]
    split
    next hown =>
      rw [applyAll_append]
      refine ((blitted_if hlayout hown (hoveredButton = 1 ∨ current = 1) _ _ _ _ _).trans hsized
        (blitted_if hlayout hown (hoveredButton = 2 ∨ current = 2) _ _ _ _ _)).erased hsized
          (refreshSetupButtons_agree hlayout hlabels hdetected hne (h.shadow_eq hown))
          fun X Y hX hY hout => ?_
      obtain ⟨hkeep, hpictures⟩ :=
        refreshSetupButtons_screen hlayout hlabels hdetected hne memory hown hX hY
      rw [← hpictures hout, ← agree_pixelAt hsized (h.shadow_eq hown) hX hY, ← h.same X Y hX hY]
      exact hkeep
    next hown =>
      rw [not_not] at hown
      have hself : surfaces.framebuffer.withBase surfaces.shadowBase = surfaces.framebuffer := by
        rw [show surfaces.shadowBase = surfaces.framebuffer.framebuffer from hown]
      refine ⟨fun hne => absurd hown hne, fun X Y _ _ => by rw [hself], fun X Y hX hY => ?_⟩
      rw [applyAll_nil, hself]
      rcases refreshSetupButtons_cases hsized hlabels hdetected hne memory
        (surfaces.framebuffer.pixelAt X Y) with ⟨-, hnew⟩ | ⟨hkeep, hpictures⟩
      · exact congrArg _ hnew
      · rw [← hpictures, ← h.screen X Y hX hY]
        exact congrArg _ hkeep
  next heq =>
    rw [not_not] at heq
    rw [heq]
    exact h

end

-- ---------------------------------------------------------------------------
-- Iterations
-- ---------------------------------------------------------------------------

section
variable {header : GeneratedBitmap} {surfaces : BootSurfaces} {savedPixels : Nat}
  {mouseDetected : UInt8} {control : Control} {memory : Memory UInt32}

def Control.nextCursor (header : GeneratedBitmap) (surfaces : BootSurfaces) (control : Control) :
    SoftwareCursor :=
  { (control.poll header surfaces).cursor with visible := 0 }

def Control.nextHovered (header : GeneratedBitmap) (surfaces : BootSurfaces) (control : Control) :
    UInt32 :=
  hitTestSetupUi header control.setupUiState (control.nextCursor header surfaces)

theorem iterate_of_result (hvisible : control.cursor.visible ≠ 0)
    (hresult : (control.poll header surfaces).result ≠ 0) :
    iterate header surfaces control =
      let hover := refreshHover header surfaces control.setupUiState
        (control.nextHovered header surfaces)
      let composite := blitCursorComposite header surfaces.framebuffer
        surfaces.shadowFramebufferInfo surfaces.composeFramebufferInfo
        (control.nextCursor header surfaces)
      ({ cursor := composite.1
         mouseState := (control.poll header surfaces).mouse
         setupUiState := hover.1
         port := (control.poll header surfaces).port },
        blitSurfaceRect surfaces.framebuffer surfaces.shadowFramebufferInfo control.cursor.x
          control.cursor.y (control.poll header surfaces).cursor.savedWidth
          (control.poll header surfaces).cursor.savedHeight ++ hover.2 ++ composite.2) := by
  simp only [iterate, if_pos hvisible, if_pos hresult]
  rfl

theorem iterate_of_still (hresult : (control.poll header surfaces).result = 0) :
    iterate header surfaces control =
      ({ control with
          cursor := (control.poll header surfaces).cursor
          mouseState := (control.poll header surfaces).mouse
          port := (control.poll header surfaces).port }, []) :=
  if_neg (not_not.mpr hresult)

theorem refreshHover_fst (hoveredButton : UInt32) (setupUiState : SetupUiState) :
    (refreshHover header surfaces setupUiState hoveredButton).1 =
      { setupUiState with hoveredButton } := by
  simp only [refreshHover]
  split
  next => rfl
  next h =>
    rw [not_not] at h
    rw [h]

theorem blitCursorComposite_fst (composeFramebufferInfo : FramebufferInfo)
    (cursor : SoftwareCursor) :
    (blitCursorComposite header surfaces.framebuffer surfaces.shadowFramebufferInfo
        composeFramebufferInfo cursor).1 =
      { cursor.clip header surfaces.framebuffer with visible := 1 } := by
  rw [BootSurfaces.shadowFramebufferInfo_eq]
  rfl

/-- A mouse that was not detected never says anything. -/
theorem Control.Settled.detected
    (h : control.Settled header surfaces.framebuffer mouseDetected savedPixels)
    (hresult : (control.poll header surfaces).result ≠ 0) : mouseDetected ≠ 0 := by
  intro hdetected
  rw [Control.poll, updateCursorFromPs2Mouse_disabled _ _ _ (h.enabled hdetected)] at hresult
  exact hresult rfl

theorem Control.nextCursor_sameImage (header : GeneratedBitmap) (surfaces : BootSurfaces)
    (control : Control) :
    (control.poll header surfaces).cursor.SameImage control.cursor :=
  updateCursorFromPs2Mouse_sameImage header surfaces.framebuffer control.mouseState control.cursor
    control.port

theorem Control.Settled.nextClamped
    (h : control.Settled header surfaces.framebuffer mouseDetected savedPixels) :
    (control.nextCursor header surfaces).Clamped header surfaces.framebuffer := by
  have hclamped := updateCursorFromPs2Mouse_clamped header surfaces.framebuffer
    control.mouseState control.port h.placed.clamped
  exact ⟨hclamped.x_le, hclamped.y_le⟩

theorem iterate_settled
    (h : control.Settled header surfaces.framebuffer mouseDetected savedPixels) :
    (iterate header surfaces control).1.Settled header surfaces.framebuffer mouseDetected
      savedPixels := by
  have himage := control.nextCursor_sameImage header surfaces
  by_cases hresult : (control.poll header surfaces).result = 0
  · obtain ⟨hx, hy⟩ := updateCursorFromPs2Mouse_still _ _ _ _ _ hresult
    rw [iterate_of_still hresult]
    refine ⟨h.placed.congr himage hx hy, ?_, himage.savedPixels.trans h.savedPixels_eq, h.ui,
      fun hdetected => ?_⟩
    · rw [himage.visible]
      exact h.visible
    · rw [Control.poll, updateCursorFromPs2Mouse_disabled _ _ _ (h.enabled hdetected)]
      exact h.enabled hdetected
  · rw [iterate_of_result h.visible hresult]
    simp only [blitCursorComposite_fst, refreshHover_fst]
    have hplaced := h.nextClamped.placed
    refine ⟨⟨hplaced.1, hplaced.2, hplaced.3, hplaced.4⟩, by simp,
      himage.savedPixels.trans h.savedPixels_eq, ?_, fun hdetected => absurd hdetected
        (h.detected hresult)⟩
    rw [h.ui]
    rfl

/-- The iteration draws no button again. -/
def Control.KeepsHover (header : GeneratedBitmap) (surfaces : BootSurfaces) (control : Control) :
    Prop :=
  (control.poll header surfaces).result ≠ 0 →
    control.nextHovered header surfaces = control.setupUiState.hoveredButton

/-- An iteration leaves the new picture with the cursor over it, unless it moves
the cursor on a framebuffer without a shadow. -/
theorem iterate_painted (hseparate : surfaces.Separate header savedPixels)
    (hlabels : LabelsInside header surfaces.framebuffer ∨ control.KeepsHover header surfaces)
    (hsettled : control.Settled header surfaces.framebuffer mouseDetected savedPixels)
    (h : Painted header surfaces.framebuffer surfaces.shadowBase mouseDetected
      control.setupUiState.hoveredButton control.cursor memory)
    (hstill : surfaces.shadowBase = surfaces.framebuffer.framebuffer →
      (control.poll header surfaces).cursor.x = control.cursor.x ∧
        (control.poll header surfaces).cursor.y = control.cursor.y) :
    Painted header surfaces.framebuffer surfaces.shadowBase mouseDetected
      (iterate header surfaces control).1.setupUiState.hoveredButton
      (iterate header surfaces control).1.cursor
      (applyAll (iterate header surfaces control).2 memory) := by
  have hlayout := hseparate.layout
  have himage := control.nextCursor_sameImage header surfaces
  by_cases hresult : (control.poll header surfaces).result = 0
  · obtain ⟨hx, hy⟩ := updateCursorFromPs2Mouse_still _ _ _ _ _ hresult
    rw [iterate_of_still hresult]
    refine ⟨h.shadow_eq, fun X Y hX hY => ?_⟩
    rw [himage.over hx hy]
    exact h.screen X Y hX hY
  · rw [iterate_of_result hsettled.visible hresult]
    simp only [blitCursorComposite_fst, refreshHover_fst, applyAll_append]
    rw [BootSurfaces.composeFramebufferInfo_eq, BootSurfaces.shadowFramebufferInfo_eq]
    have herased : Erased header surfaces.framebuffer surfaces.shadowBase mouseDetected
        control.setupUiState.hoveredButton (control.nextCursor header surfaces)
        (applyAll (blitSurfaceRect surfaces.framebuffer
          (surfaces.framebuffer.withBase surfaces.shadowBase) control.cursor.x control.cursor.y
          (control.poll header surfaces).cursor.savedWidth
          (control.poll header surfaces).cursor.savedHeight) memory) := by
      rw [himage.savedWidth, himage.savedHeight]
      by_cases hown : surfaces.shadowBase = surfaces.framebuffer.framebuffer
      · obtain ⟨hx, hy⟩ := hstill hown
        rw [hown, applyAll_blitSurfaceRect_self]
        rw [hown] at h
        exact (h.keep rfl).congr fun X Y below => himage.over hx hy below
      · exact h.erase hlayout hown hsettled.placed _
    have hhover := herased.hover hlayout (hsettled.detected hresult) rfl rfl
      (control.nextHovered header surfaces) fun hne =>
        hlabels.resolve_right fun hkeeps => hne (hkeeps hresult).symm
    rw [← hsettled.ui] at hhover
    have hpainted := hhover.composite hlayout hsettled.nextClamped
      (himage.savedPixels.trans hsettled.savedPixels_eq)
    exact hpainted.clip

end

-- ---------------------------------------------------------------------------
-- Runs
-- ---------------------------------------------------------------------------

section
variable (header : GeneratedBitmap) (surfaces : BootSurfaces) (locals : Locals)

def Locals.mouseDetected (locals : Locals) : UInt8 :=
  ((initializePs2Mouse locals.mouseState).run locals.controller).1.1

def Locals.firstCursor (header : GeneratedBitmap) (framebufferInfo : FramebufferInfo)
    (locals : Locals) : SoftwareCursor :=
  initializeCursorSurface header framebufferInfo (startCursor header framebufferInfo locals.cursor)

theorem startLoop_eq :
    startLoop header surfaces locals =
      let composite := blitCursorComposite header surfaces.framebuffer
        surfaces.shadowFramebufferInfo surfaces.composeFramebufferInfo
        (locals.firstCursor header surfaces.framebuffer)
      ({ cursor := composite.1
         mouseState := ((initializePs2Mouse locals.mouseState).run locals.controller).1.2
         setupUiState := setupUi surfaces.framebuffer locals.mouseDetected 0
         port := ((initializePs2Mouse locals.mouseState).run locals.controller).2.port },
        drawSetupScreen header surfaces.shadowFramebufferInfo
            (setupUi surfaces.framebuffer locals.mouseDetected 0) ++
          (if surfaces.shadowFramebufferInfo.framebuffer ≠ surfaces.framebuffer.framebuffer then
            copyPixels32 surfaces.framebuffer.framebuffer
              surfaces.shadowFramebufferInfo.framebuffer
              (surfaces.framebuffer.pixelsPerScanLine * surfaces.framebuffer.screenHeight)
          else []) ++ composite.2) := rfl

theorem firstCursor_clamped :
    (locals.firstCursor header surfaces.framebuffer).Clamped header surfaces.framebuffer := by
  obtain ⟨hx, hy, -⟩ := initializeCursorSurface_sameRect header surfaces.framebuffer
    (startCursor header surfaces.framebuffer locals.cursor)
  constructor
  · rw [Locals.firstCursor, hx]
    exact clampCursorAxis_le _ _ _
  · rw [Locals.firstCursor, hy]
    exact clampCursorAxis_le _ _ _

theorem firstCursor_savedPixels :
    (locals.firstCursor header surfaces.framebuffer).savedPixels = locals.cursor.savedPixels :=
  (initializeCursorSurface_sameRect header surfaces.framebuffer
    (startCursor header surfaces.framebuffer locals.cursor)).2.2

theorem startLoop_settled :
    (startLoop header surfaces locals).1.Settled header surfaces.framebuffer locals.mouseDetected
      locals.cursor.savedPixels := by
  have hplaced := (firstCursor_clamped header surfaces locals).placed
  rw [startLoop_eq]
  simp only [blitCursorComposite_fst]
  exact ⟨⟨hplaced.1, hplaced.2, hplaced.3, hplaced.4⟩, by simp,
    firstCursor_savedPixels header surfaces locals, rfl,
    initializePs2Mouse_enabled locals.mouseState locals.controller⟩

variable {header surfaces locals}

theorem blitted_copyPixels32 {framebufferInfo : FramebufferInfo} {shadow : Nat}
    (hsized : framebufferInfo.Sized) (happart : framebufferInfo.Apart shadow)
    (memory : Memory UInt32) :
    Blitted framebufferInfo shadow (fun _ => True) memory
      (applyAll (copyPixels32 framebufferInfo.framebuffer shadow
        (framebufferInfo.pixelsPerScanLine * framebufferInfo.screenHeight)) memory) := by
  have hdisjoint := FramebufferInfo.apart_iff.mp happart
  have hcopy : ∀ a, applyAll (copyPixels32 framebufferInfo.framebuffer shadow
      (framebufferInfo.pixelsPerScanLine * framebufferInfo.screenHeight)) memory a =
        if framebufferInfo.Owns a then memory (shadow + (a - framebufferInfo.framebuffer))
        else memory a := fun a => by
    rw [applyAll_copyPixels32 memory (by rwa [hsized.toNat_count]), hsized.toNat_count]
    rfl
  have hshown : ∀ X Y, X < framebufferInfo.screenWidth.toNat →
      Y < framebufferInfo.screenHeight.toNat →
      applyAll (copyPixels32 framebufferInfo.framebuffer shadow
        (framebufferInfo.pixelsPerScanLine * framebufferInfo.screenHeight)) memory
          (framebufferInfo.pixelAt X Y) =
        memory ((framebufferInfo.withBase shadow).pixelAt X Y) := fun X Y hX hY => by
    rw [hcopy, if_pos (hsized.owns hX hY), FramebufferInfo.pixelAt, Nat.add_sub_cancel_left]
    rfl
  refine ⟨fun i hi => ?_, fun X Y hX hY _ => hshown X Y hX hY, fun X Y hX hY =>
    .inr (hshown X Y hX hY)⟩
  rw [hcopy, if_neg]
  simp only [FramebufferInfo.Owns]
  omega

theorem startLoop_erased (hseparate : surfaces.Separate header locals.cursor.savedPixels)
    (memory : Memory UInt32) :
    Erased header surfaces.framebuffer surfaces.shadowBase locals.mouseDetected 0
      (locals.firstCursor header surfaces.framebuffer)
      (applyAll (drawSetupScreen header (surfaces.framebuffer.withBase surfaces.shadowBase)
            (setupUi surfaces.framebuffer locals.mouseDetected 0) ++
          if surfaces.shadowBase ≠ surfaces.framebuffer.framebuffer then
            copyPixels32 surfaces.framebuffer.framebuffer surfaces.shadowBase
              (surfaces.framebuffer.pixelsPerScanLine * surfaces.framebuffer.screenHeight)
          else []) memory) := by
  have hsized := hseparate.sized
  have hagree : Agree surfaces.framebuffer.count surfaces.shadowBase
      surfaces.framebuffer.framebuffer
      (applyAll (drawSetupScreen header (surfaces.framebuffer.withBase surfaces.shadowBase)
        (setupUi surfaces.framebuffer locals.mouseDetected 0)) memory)
      (setupPicture header surfaces.framebuffer locals.mouseDetected 0) :=
    drawSetupScreen_agree hsized surfaces.shadowBase surfaces.framebuffer.framebuffer header
      (setupUi surfaces.framebuffer locals.mouseDetected 0) memory _
  rw [applyAll_append]
  split
  next hown =>
    exact (blitted_copyPixels32 hsized (hseparate.layout.shadow_apart hown) _).erased hsized hagree
      fun _ _ _ _ hrest => absurd trivial hrest
  next hown =>
    rw [not_not] at hown
    refine ⟨fun hne => absurd hown hne, fun X Y _ _ => by rw [hown], fun X Y hX hY => ?_⟩
    rw [← agree_pixelAt hsized hagree hX hY, hown]
    rfl

theorem startLoop_painted (hseparate : surfaces.Separate header locals.cursor.savedPixels)
    (memory : Memory UInt32) :
    Painted header surfaces.framebuffer surfaces.shadowBase locals.mouseDetected
      (startLoop header surfaces locals).1.setupUiState.hoveredButton
      (startLoop header surfaces locals).1.cursor
      (applyAll (startLoop header surfaces locals).2 memory) := by
  have hpainted := (startLoop_erased hseparate memory).composite hseparate.layout
    (firstCursor_clamped header surfaces locals) (firstCursor_savedPixels header surfaces locals)
  rw [startLoop_eq]
  simp only [blitCursorComposite_fst, applyAll_append] at hpainted ⊢
  rw [BootSurfaces.composeFramebufferInfo_eq, BootSurfaces.shadowFramebufferInfo_eq]
  exact hpainted.clip

variable {control : Control} {memory after : Memory UInt32}

theorem runKernelMouseLoop_succ {iterations : Nat}
    (h : runKernelMouseLoop header surfaces locals memory (iterations + 1) = some (control, after)) :
    ∃ previous before,
      runKernelMouseLoop header surfaces locals memory iterations = some (previous, before) ∧
      control = (iterate header surfaces previous).1 ∧
      after = applyAll (iterate header surfaces previous).2 before := by
  simp only [runKernelMouseLoop, Option.bind_eq_bind, Option.bind_eq_some_iff, Prod.exists,
    Option.map_eq_some_iff, Prod.mk.injEq] at h
  obtain ⟨previous, before, hrun, after', hafter, rfl, rfl⟩ := h
  exact ⟨previous, before, hrun, rfl, runAll_eq_some hafter⟩

theorem runKernelMouseLoop_zero
    (h : runKernelMouseLoop header surfaces locals memory 0 = some (control, after)) :
    control = (startLoop header surfaces locals).1 ∧
      after = applyAll (startLoop header surfaces locals).2 memory := by
  simp only [runKernelMouseLoop, Option.map_eq_some_iff, Prod.mk.injEq] at h
  obtain ⟨after', hafter, rfl, rfl⟩ := h
  exact ⟨rfl, runAll_eq_some hafter⟩

theorem runKernelMouseLoop_settled (iterations : Nat)
    (h : runKernelMouseLoop header surfaces locals memory iterations = some (control, after)) :
    control.Settled header surfaces.framebuffer locals.mouseDetected
      locals.cursor.savedPixels := by
  induction iterations generalizing control after with
  | zero =>
    obtain ⟨rfl, -⟩ := runKernelMouseLoop_zero h
    exact startLoop_settled header surfaces locals
  | succ iterations ih =>
    obtain ⟨previous, before, hrun, rfl, -⟩ := runKernelMouseLoop_succ h
    exact iterate_settled (ih hrun)

/-- Either there is a shadow, or no iteration before `iterations` moves the
cursor. -/
def StaysClean (header : GeneratedBitmap) (surfaces : BootSurfaces) (locals : Locals)
    (memory : Memory UInt32) (iterations : Nat) : Prop :=
  ∀ earlier < iterations, ∀ control before,
    runKernelMouseLoop header surfaces locals memory earlier = some (control, before) →
    surfaces.shadowBase = surfaces.framebuffer.framebuffer →
      (control.poll header surfaces).cursor.x = control.cursor.x ∧
        (control.poll header surfaces).cursor.y = control.cursor.y

def HoverStays (header : GeneratedBitmap) (surfaces : BootSurfaces) (locals : Locals)
    (memory : Memory UInt32) (iterations : Nat) : Prop :=
  ∀ earlier < iterations, ∀ control before,
    runKernelMouseLoop header surfaces locals memory earlier = some (control, before) →
    control.KeepsHover header surfaces

theorem HoverStays.earlier {iterations earlier : Nat} (hle : earlier ≤ iterations)
    (h : HoverStays header surfaces locals memory iterations) :
    HoverStays header surfaces locals memory earlier :=
  fun before hbefore => h before (Nat.lt_of_lt_of_le hbefore hle)

theorem runKernelMouseLoop_painted (hseparate : surfaces.Separate header locals.cursor.savedPixels)
    (iterations : Nat)
    (hlabels : LabelsInside header surfaces.framebuffer ∨
      HoverStays header surfaces locals memory iterations)
    (hclean : StaysClean header surfaces locals memory iterations)
    (h : runKernelMouseLoop header surfaces locals memory iterations = some (control, after)) :
    Painted header surfaces.framebuffer surfaces.shadowBase locals.mouseDetected
      control.setupUiState.hoveredButton control.cursor after := by
  induction iterations generalizing control after with
  | zero =>
    obtain ⟨rfl, rfl⟩ := runKernelMouseLoop_zero h
    exact startLoop_painted hseparate memory
  | succ iterations ih =>
    obtain ⟨previous, before, hrun, rfl, rfl⟩ := runKernelMouseLoop_succ h
    have hpainted := ih (hlabels.imp_right (HoverStays.earlier (Nat.le_succ _)))
      (fun earlier hearlier => hclean earlier (Nat.lt_succ_of_lt hearlier)) hrun
    have hkeeps : LabelsInside header surfaces.framebuffer ∨ previous.KeepsHover header surfaces :=
      hlabels.imp_right fun hstays => hstays iterations (Nat.lt_succ_self _) previous before hrun
    exact iterate_painted hseparate hkeeps (runKernelMouseLoop_settled iterations hrun) hpainted
      (hclean iterations (Nat.lt_succ_self _) previous before hrun)

end

end DragonOS.Boot
