import DragonOS.Boot.MouseRun
import DragonOS.Boot.RoundedBox

/-!
# The mouse loop keeps the screen up to date

With a shadow of its own the loop shows, after every iteration and whatever the
mouse sends, the cursor over the shadow and on the shadow the setup screen of
the button that is hovered. The loop itself never gets stuck: it returns from
every iteration when blending a pixel does.
-/

namespace DragonOS.Boot

open Lib

-- ---------------------------------------------------------------------------
-- Every iteration returns
-- ---------------------------------------------------------------------------

section
variable {framebufferInfo : FramebufferInfo} {header : GeneratedBitmap}

theorem FramebufferInfo.BlendReturns.isSome (h : framebufferInfo.BlendReturns)
    {f : UInt32 → Option UInt32} (hf : framebufferInfo.Blend f) (v : UInt32) : (f v).isSome := by
  obtain ⟨color, alpha, rfl⟩ := hf
  exact h v color alpha

theorem total_offset (y x step : UInt32) : Total (framebufferInfo.offset y x step) := by
  intro effect he
  rw [FramebufferInfo.offset, List.mem_singleton] at he
  rw [he]
  trivial

theorem total_copyPixels32 (destination source : Nat) (count : UInt32) :
    Total (copyPixels32 destination source count) := by
  intro effect he
  rcases mem_copyPixels32 he with ⟨k, -, rfl⟩ | ⟨k, -, rfl⟩ <;> trivial

theorem total_clearScreen (color : UInt32) (ignoreBlackPixels : UInt8) :
    Total (clearScreen framebufferInfo color ignoreBlackPixels) := by
  unfold clearScreen
  split
  · exact total_nil
  · intro effect he
    rcases mem_fillPixels32 he with ⟨k, -, rfl⟩ | ⟨k, -, rfl⟩ <;> trivial

theorem total_blitSurfaceRect (destination source : FramebufferInfo)
    (x y width height : UInt32) :
    Total (blitSurfaceRect destination source x y width height) := by
  unfold blitSurfaceRect
  split
  · exact total_nil
  split
  · exact total_nil
  refine total_flatMap fun row _ => ?_
  rw [total_append, total_append]
  exact ⟨⟨total_offset _ _ _, total_offset _ _ _⟩, total_copyPixels32 _ _ _⟩

theorem total_drawCursor (cursor : SoftwareCursor) :
    Total (drawCursor header framebufferInfo cursor) := by
  refine total_flatMap fun row _ => total_flatMap fun column _ => ?_
  simp only
  split
  · exact total_nil
  · rw [FramebufferInfo.storePixelInRow, total_append]
    exact ⟨total_offset _ _ _, fun effect he => by rw [List.mem_singleton.mp he]; trivial⟩

theorem total_blitCursorComposite (destination shadow compose : FramebufferInfo)
    (cursor : SoftwareCursor) :
    Total (blitCursorComposite header destination shadow compose cursor).2 := by
  simp only [blitCursorComposite, saveCursorBackground, total_append]
  constructor
  · refine total_flatMap fun row _ => ?_
    rw [total_append]
    exact ⟨total_offset _ _ _, total_copyPixels32 _ _ _⟩
  split
  · rw [total_append, total_append]
    refine ⟨⟨total_flatMap fun row _ => ?_, total_drawCursor _⟩, total_blitSurfaceRect _ _ _ _ _ _⟩
    rw [total_append]
    exact ⟨total_offset _ _ _, total_copyPixels32 _ _ _⟩
  · exact total_drawCursor _

variable (hsized : framebufferInfo.Sized) (hblend : framebufferInfo.BlendReturns) (base : Nat)
include hsized hblend

theorem total_drawSetupButton (button : UiBox) (label : List UInt8) (hovered : Bool) :
    Total (drawSetupButton header (framebufferInfo.withBase base) button label hovered) :=
  (sameDraw_drawSetupButton hsized base base header button label hovered).total fun _ hf =>
    hblend.isSome hf

theorem total_drawSetupScreen (setupUiState : SetupUiState) :
    Total (drawSetupScreen header (framebufferInfo.withBase base) setupUiState) := by
  simp only [drawSetupScreen, total_append]
  exact ⟨⟨⟨⟨total_clearScreen _ _,
    (sameDraw_drawSetupPanel hsized base base header setupUiState).total fun _ hf =>
      hblend.isSome hf⟩,
    total_drawSetupButton hsized hblend base _ _ _⟩,
    total_drawSetupButton hsized hblend base _ _ _⟩,
    (sameDraw_drawMouseHint hsized base base header setupUiState).total fun _ hf =>
      hblend.isSome hf⟩

theorem total_refreshSetupButtons (setupUiState : SetupUiState) (previous current : UInt32) :
    Total (refreshSetupButtons header (framebufferInfo.withBase base) setupUiState previous
      current) := by
  unfold refreshSetupButtons
  split
  · exact total_nil
  rw [total_append]
  constructor <;> split
  · exact total_drawSetupButton hsized hblend base _ _ _
  · exact total_nil
  · exact total_drawSetupButton hsized hblend base _ _ _
  · exact total_nil

end

section
variable {header : GeneratedBitmap} {surfaces : BootSurfaces} {locals : Locals}
  (hsized : surfaces.framebuffer.Sized) (hblend : surfaces.framebuffer.BlendReturns)
include hsized hblend

theorem total_refreshHover (setupUiState : SetupUiState) (hoveredButton : UInt32) :
    Total (refreshHover header surfaces setupUiState hoveredButton).2 := by
  simp only [refreshHover, BootSurfaces.shadowFramebufferInfo_eq]
  split
  · rw [total_append]
    refine ⟨total_refreshSetupButtons hsized hblend _ _ _ _, ?_⟩
    split
    · rw [total_append]
      constructor <;> split
      · exact total_blitSurfaceRect _ _ _ _ _ _
      · exact total_nil
      · exact total_blitSurfaceRect _ _ _ _ _ _
      · exact total_nil
    · exact total_nil
  · exact total_nil

theorem iterate_total (control : Control) : Total (iterate header surfaces control).2 := by
  simp only [iterate]
  split
  · rw [total_append, total_append]
    refine ⟨⟨?_, total_refreshHover hsized hblend _ _⟩, total_blitCursorComposite _ _ _ _⟩
    split
    · exact total_blitSurfaceRect _ _ _ _ _ _
    · exact total_nil
  · exact total_nil

theorem startLoop_total : Total (startLoop header surfaces locals).2 := by
  rw [startLoop_eq]
  simp only [total_append]
  refine ⟨⟨?_, ?_⟩, total_blitCursorComposite _ _ _ _⟩
  · rw [BootSurfaces.shadowFramebufferInfo_eq]
    exact total_drawSetupScreen hsized hblend _ _
  · split
    · exact total_copyPixels32 _ _ _
    · exact total_nil

theorem runKernelMouseLoop_isSome (memory : Memory UInt32) (iterations : Nat) :
    (runKernelMouseLoop header surfaces locals memory iterations).isSome := by
  induction iterations with
  | zero =>
    simp only [runKernelMouseLoop, (startLoop_total hsized hblend).runAll_eq]
    rfl
  | succ iterations ih =>
    obtain ⟨⟨control, before⟩, hrun⟩ := Option.isSome_iff_exists.mp ih
    simp only [runKernelMouseLoop, hrun, Option.bind_eq_bind, Option.bind_some,
      (iterate_total hsized hblend control).runAll_eq]
    rfl

end

-- ---------------------------------------------------------------------------
-- What is seen
-- ---------------------------------------------------------------------------

section
variable {header : GeneratedBitmap} {surfaces : BootSurfaces} {locals : Locals}

structure Shown (header : GeneratedBitmap) (surfaces : BootSurfaces) (mouseDetected : UInt8)
    (control : Control) (memory : Memory UInt32) : Prop where
  ui : control.setupUiState =
    { initializeSetupUiState surfaces.framebuffer mouseDetected with
      hoveredButton := control.setupUiState.hoveredButton }
  shadow_eq : ∀ scratch, ∀ i < surfaces.framebuffer.count,
    memory (surfaces.shadowFramebuffer + i) =
      applyAll (drawSetupScreen header surfaces.shadowFramebufferInfo control.setupUiState) scratch
        (surfaces.shadowFramebuffer + i)
  screen : ∀ X Y, X < surfaces.framebuffer.screenWidth.toNat →
    Y < surfaces.framebuffer.screenHeight.toNat →
    memory (surfaces.framebuffer.pixelAt X Y) =
      if control.cursor.Covers header X Y then
        control.cursor.resolvedPixels (control.cursor.indexAt header X Y)
      else memory (surfaces.shadowFramebufferInfo.pixelAt X Y)

/-- After any number of iterations the framebuffer shows the cursor over the
shadow and the shadow the screen of the hovered button. That button is the one
under the cursor once the mouse has said something, and the loop goes on for
ever if blending returns. -/
theorem runKernelMouseLoop_shows
    (hseparate : surfaces.Separate header locals.cursor.savedPixels)
    (hshadow : surfaces.shadowFramebuffer ≠ 0)
    (hown : surfaces.shadowFramebuffer ≠ surfaces.framebuffer.framebuffer)
    (hlabels : LabelsInside header surfaces.framebuffer) (memory : Memory UInt32)
    (iterations : Nat) :
    (∀ control after,
      runKernelMouseLoop header surfaces locals memory iterations = some (control, after) →
      Shown header surfaces locals.mouseDetected control after) ∧
    (∀ previous before control after,
      runKernelMouseLoop header surfaces locals memory iterations = some (previous, before) →
      runKernelMouseLoop header surfaces locals memory (iterations + 1) = some (control, after) →
      (previous.poll header surfaces).result ≠ 0 →
      control.setupUiState.hoveredButton =
        hitTestSetupUi header control.setupUiState control.cursor) ∧
    (surfaces.framebuffer.BlendReturns →
      (runKernelMouseLoop header surfaces locals memory iterations).isSome) := by
  have hsized := hseparate.sized
  have hbase : surfaces.shadowBase = surfaces.shadowFramebuffer := by
    rw [BootSurfaces.shadowBase, BootSurfaces.shadowFramebufferInfo, if_pos ⟨hshadow, hown⟩]
  refine ⟨fun control after hrun => ?_, fun previous before control after hbefore hafter hresult =>
    ?_, fun hblend => runKernelMouseLoop_isSome hsized hblend memory iterations⟩
  · have hui := (runKernelMouseLoop_settled iterations hrun).ui
    have hpainted := runKernelMouseLoop_painted hseparate iterations (.inl hlabels)
      (fun _ _ _ _ _ hsame => absurd (hbase.symm.trans hsame) hown) hrun
    have hagree := hpainted.shadow_eq (hbase.trans_ne hown)
    refine ⟨hui, fun scratch i hi => ?_, fun X Y hX hY => ?_⟩
    · have hscratch := drawSetupScreen_agree hsized surfaces.shadowBase
        surfaces.framebuffer.framebuffer header
        (setupUi surfaces.framebuffer locals.mouseDetected control.setupUiState.hoveredButton)
        scratch (fun _ => 0)
      rw [← hbase, BootSurfaces.shadowFramebufferInfo_eq, hagree i hi, hui]
      exact (hscratch i hi).symm
    · rw [hpainted.screen X Y hX hY, BootSurfaces.shadowFramebufferInfo_eq,
        agree_pixelAt hsized hagree hX hY]
      rfl
  · obtain ⟨previous', before', hbefore', rfl, -⟩ := runKernelMouseLoop_succ hafter
    obtain ⟨rfl, rfl⟩ := Prod.mk.inj (Option.some.inj (hbefore.symm.trans hbefore'))
    have hvisible := (runKernelMouseLoop_settled iterations hbefore).visible
    rw [iterate_of_result hvisible hresult]
    simp only [blitCursorComposite_fst, refreshHover_fst]
    rfl

end

-- ---------------------------------------------------------------------------
-- Decisions
-- ---------------------------------------------------------------------------

section
variable {header : GeneratedBitmap} {surfaces : BootSurfaces} {locals : Locals} {control : Control}

def Locals.firstControl (header : GeneratedBitmap) (framebufferInfo : FramebufferInfo)
    (locals : Locals) : Control where
  cursor :=
    { (locals.firstCursor header framebufferInfo).clip header framebufferInfo with visible := 1 }
  mouseState := ((initializePs2Mouse locals.mouseState).run locals.controller).1.2
  setupUiState := setupUi framebufferInfo locals.mouseDetected 0
  port := ((initializePs2Mouse locals.mouseState).run locals.controller).2.port

theorem startLoop_fst :
    (startLoop header surfaces locals).1 = locals.firstControl header surfaces.framebuffer := by
  rw [startLoop_eq]
  simp only [blitCursorComposite_fst]
  rfl

def Control.next (header : GeneratedBitmap) (surfaces : BootSurfaces) (control : Control) :
    Control :=
  if (control.poll header surfaces).result = 0 then
    { control with
      cursor := (control.poll header surfaces).cursor
      mouseState := (control.poll header surfaces).mouse
      port := (control.poll header surfaces).port }
  else
    { cursor :=
        { (control.nextCursor header surfaces).clip header surfaces.framebuffer with visible := 1 }
      mouseState := (control.poll header surfaces).mouse
      setupUiState :=
        { control.setupUiState with hoveredButton := control.nextHovered header surfaces }
      port := (control.poll header surfaces).port }

theorem iterate_fst_eq (hvisible : control.cursor.visible ≠ 0) :
    (iterate header surfaces control).1 = control.next header surfaces := by
  by_cases hresult : (control.poll header surfaces).result = 0
  · rw [iterate_of_still hresult, Control.next, if_pos hresult]
  · rw [iterate_of_result hvisible hresult, Control.next, if_neg hresult]
    simp only [blitCursorComposite_fst, refreshHover_fst]

end

-- ---------------------------------------------------------------------------
-- A machine
-- ---------------------------------------------------------------------------

theorem written_drawGlyphAtlas_blank (framebufferInfo : FramebufferInfo) (x y : Int32)
    (glyph : UInt8) (color : Rgb) (glyphWidth glyphHeight : UInt32) :
    let font := FontAtlas.blank glyphWidth glyphHeight
    written (drawGlyphAtlas framebufferInfo x y glyph color font.firstChar font.glyphCount
      font.glyphWidth font.glyphHeight font.alpha) = [] := by
  have hentry : ∀ index, entry (FontAtlas.blank glyphWidth glyphHeight).alpha index = 0 := by
    intro index
    simp only [entry, FontAtlas.blank, List.getD_eq_getElem?_getD, List.getElem?_replicate]
    split <;> rfl
  rw [List.eq_nil_iff_forall_not_mem]
  intro a ha
  simp only [drawGlyphAtlas] at ha
  split at ha
  · cases ha
  simp only [drawGlyphCells, mem_written_flatMap, hentry, if_true] at ha
  obtain ⟨row, -, ha⟩ := ha
  split at ha
  · cases ha
  simp only [mem_written_flatMap] at ha
  obtain ⟨column, -, ha⟩ := ha
  split at ha
  · cases ha
  · cases ha

theorem written_drawTextStringAtlas_blank (framebufferInfo : FramebufferInfo) (x y : Int32)
    (text : List UInt8) (color : Rgb) (glyphWidth glyphHeight : UInt32) :
    written (drawTextStringAtlas framebufferInfo x y text color
      (.blank glyphWidth glyphHeight)) = [] := by
  rw [List.eq_nil_iff_forall_not_mem]
  intro a ha
  rw [drawTextStringAtlas, mem_written_flatMap] at ha
  obtain ⟨⟨cursorX, lineY, glyph⟩, -, ha⟩ := ha
  rw [written_drawGlyphAtlas_blank] at ha
  cases ha

theorem plainBitmap_labelsInside (framebufferInfo : FramebufferInfo) :
    LabelsInside plainBitmap framebufferInfo where
  install := fun a ha => by
    rw [drawButtonLabel, plainBitmap, written_drawTextStringAtlas_blank] at ha
    cases ha
  try_ := fun a ha => by
    rw [drawButtonLabel, plainBitmap, written_drawTextStringAtlas_blank] at ha
    cases ha

section
variable {framebufferInfo : FramebufferInfo} {button : UiBox} {rect : Rect}

def Rect.Between (rect : Rect) (button : UiBox) : Prop :=
  rect.Fits ∧ (button.x.toNat + button.radius.toNat : Int) ≤ rect.x ∧
    rect.x + rect.width + button.radius.toNat ≤ button.x.toNat + button.width.toNat ∧
    button.y.toNat ≤ rect.y ∧ rect.y + rect.height ≤ button.y.toNat + button.height.toNat

instance (rect : Rect) (button : UiBox) : Decidable (rect.Between button) := by
  unfold Rect.Between Rect.Fits
  infer_instance

theorem buttonArea_of_between (hsized : framebufferInfo.Sized) (hbutton : button.Rounded)
    (hbetween : rect.Between button) (h : framebufferInfo.Shows rect a) :
    ButtonArea framebufferInfo button a := by
  obtain ⟨X, Y, hX, hY, ⟨hleft, hright, htop, hbottom⟩, rfl⟩ := h
  obtain ⟨-, hcorner, hcorner', hedge, hedge'⟩ := hbetween
  have hradius := hbutton.radius_pos
  have hwidth := hbutton.radius_le_width
  have hscreen := framebufferInfo.screenWidth.toNat_lt
  have hscreen' := framebufferInfo.screenHeight.toNat_lt
  have hx : (UInt32.ofNat X).toNat = X := UInt32.toNat_ofNat_of_lt' (by rw [UInt32.size]; omega)
  have hy : (UInt32.ofNat Y).toNat = Y := UInt32.toNat_ofNat_of_lt' (by rw [UInt32.size]; omega)
  rw [← hx, ← hy, buttonArea_pixelAt hsized hbutton (by rw [UInt32.lt_iff_toNat_lt]; omega)
    (by rw [UInt32.lt_iff_toNat_lt]; omega), pointInRoundedBox_iff hbutton, hx, hy,
    UInt32.le_iff_toNat_le, UInt32.le_iff_toNat_le, hx, hy]
  have hinset : inset button.radius.toNat button.width.toNat (X - button.x.toNat) = 0 := by
    unfold inset
    omega
  exact ⟨by omega, by omega, .of_inset_zero (by omega) (by omega) (by omega) (.inl hinset)⟩

def labelCells (header : GeneratedBitmap) (button : UiBox) (label : List UInt8) : List Rect :=
  let font := header.setupUiFont
  let x := button.x.toInt32 +
    (button.width.toInt32 - measureTextStringAtlas label font (font.glyphWidth / 2)) / 2
  let y := button.y.toInt32 + (button.height.toInt32 - font.glyphHeight.toInt32) / 2
  (layoutText x font.glyphHeight.toInt32 (font.glyphAdvance (font.glyphWidth / 2).toInt32) x y
    label).map fun (cursorX, y, _) => font.cell cursorX y

theorem labelInside_of_between (header : GeneratedBitmap) (hsized : framebufferInfo.Sized)
    (hbutton : button.Rounded) {label : List UInt8}
    (hcells : (labelCells header button label).all (·.Between button)) :
    LabelInside header framebufferInfo button label := by
  intro a ha
  rw [drawButtonLabel, drawTextStringAtlas, mem_written_flatMap] at ha
  obtain ⟨⟨cursorX, y, glyph⟩, hplace, ha⟩ := ha
  have hbetween : (header.setupUiFont.cell cursorX y).Between button :=
    of_decide_eq_true (List.all_eq_true.mp hcells _ (List.mem_map_of_mem hplace))
  exact buttonArea_of_between hsized hbutton hbetween
    ((onScreen_drawGlyphAtlas hsized header.setupUiFont (.inl ⟨rfl, hbetween.1⟩) glyph _).writes a ha)

end

theorem inkedBitmap_labelsInside : LabelsInside inkedBitmap vgaScreen where
  install := labelInside_of_between inkedBitmap vgaScreen_sized
    ⟨by decide, by decide, by decide, by decide, by decide, by decide, by decide, by decide⟩
    (by decide +kernel)
  try_ := labelInside_of_between inkedBitmap vgaScreen_sized
    ⟨by decide, by decide, by decide, by decide, by decide, by decide, by decide, by decide⟩
    (by decide +kernel)

def vgaSurfaces : BootSurfaces where
  framebuffer := vgaScreen
  shadowFramebuffer := 0x30000000
  composeFramebuffer := 0x40000000

theorem vgaSurfaces_separate (header : GeneratedBitmap) :
    vgaSurfaces.Separate header 0x50000000 where
  sized := vgaScreen_sized
  framebuffer_ne := by decide
  shadow := fun _ => FramebufferInfo.apart_iff.mpr (by decide)
  compose := fun _ => FramebufferInfo.apart_iff.mpr (by decide)
  both := fun _ _ => FramebufferInfo.apart_iff.mpr (by decide)
  saved := fun a hlow _ =>
    ⟨FramebufferInfo.not_owns_of_le (Nat.le_trans (by decide) hlow),
      fun _ => FramebufferInfo.not_owns_of_le (Nat.le_trans (by decide) hlow),
      fun _ => FramebufferInfo.not_owns_of_le (Nat.le_trans (by decide) hlow)⟩

/-- The stack keeps the saved pixels away from the buffers. -/
def vgaLocals (port : Port) : Locals where
  cursor := { (default : SoftwareCursor) with savedPixels := 0x50000000 }
  mouseState := default
  controller := ⟨port, []⟩

/-- A controller that lets the mouse be enabled. -/
def enablingPort : Port :=
  [⟨0, 0⟩, ⟨0, 0⟩, ⟨0, 0⟩, ⟨0x01, 0x47⟩, ⟨0, 0⟩, ⟨0, 0⟩, ⟨0, 0⟩, ⟨0, 0⟩, ⟨0, 0⟩, ⟨0x21, 0xFA⟩,
    ⟨0, 0⟩, ⟨0, 0⟩, ⟨0x21, 0xFA⟩]

/-- A packet for 40 down, and after a pause one for 40 up. -/
def hoveringPort : Port :=
  enablingPort ++ [⟨0x21, 0x28⟩, ⟨0x21, 0⟩, ⟨0x21, 0xD8⟩, ⟨0, 0⟩, ⟨0x21, 0x08⟩, ⟨0x21, 0⟩, ⟨0x21, 0x28⟩]

theorem hoveringPort_polls {first second third : Control}
    (hfirst : first = (vgaLocals hoveringPort).firstControl inkedBitmap vgaScreen)
    (hsecond : second = first.next inkedBitmap vgaSurfaces)
    (hthird : third = second.next inkedBitmap vgaSurfaces) :
    (first.poll inkedBitmap vgaSurfaces).result = 1 ∧ second.setupUiState.hoveredButton = 2 ∧
      (second.poll inkedBitmap vgaSurfaces).result = 1 ∧ third.setupUiState.hoveredButton = 0 := by
  subst hfirst hsecond hthird
  exact ⟨by decide +kernel, by decide +kernel, by decide +kernel, by decide +kernel⟩

/-- The mouse is detected and the cursor enters a button and leaves it. -/
theorem runKernelMouseLoop_shows_hover :
    let locals := vgaLocals hoveringPort
    let run := runKernelMouseLoop inkedBitmap vgaSurfaces locals fun _ => 0
    locals.mouseDetected = 1 ∧ ∃ first before second between third after,
      run 0 = some (first, before) ∧ run 1 = some (second, between) ∧ run 2 = some (third, after) ∧
      (first.poll inkedBitmap vgaSurfaces).result = 1 ∧ second.setupUiState.hoveredButton = 2 ∧
      (second.poll inkedBitmap vgaSurfaces).result = 1 ∧ third.setupUiState.hoveredButton = 0 ∧
      Shown inkedBitmap vgaSurfaces locals.mouseDetected second between ∧
      Shown inkedBitmap vgaSurfaces locals.mouseDetected third after ∧
      second.setupUiState.hoveredButton =
        hitTestSetupUi inkedBitmap second.setupUiState second.cursor ∧
      third.setupUiState.hoveredButton =
        hitTestSetupUi inkedBitmap third.setupUiState third.cursor := by
  intro locals run
  have hshows := @runKernelMouseLoop_shows inkedBitmap vgaSurfaces locals
    (vgaSurfaces_separate inkedBitmap) (by decide) (by decide) inkedBitmap_labelsInside fun _ => 0
  have hblend : vgaSurfaces.framebuffer.BlendReturns :=
    FramebufferInfo.blendReturns_of_format (by decide)
  obtain ⟨⟨third, after⟩, hthird⟩ := Option.isSome_iff_exists.mp ((hshows 2).2.2 hblend)
  obtain ⟨second, between, hsecond, hthirdEq, -⟩ := runKernelMouseLoop_succ hthird
  obtain ⟨first, before, hfirst, hsecondEq, -⟩ := runKernelMouseLoop_succ hsecond
  rw [iterate_fst_eq (runKernelMouseLoop_settled 1 hsecond).visible] at hthirdEq
  rw [iterate_fst_eq (runKernelMouseLoop_settled 0 hfirst).visible] at hsecondEq
  have hfirstEq : first = (vgaLocals hoveringPort).firstControl inkedBitmap vgaScreen :=
    (runKernelMouseLoop_zero hfirst).1.trans startLoop_fst
  obtain ⟨hpoll, hentered, hpoll', hleft⟩ := hoveringPort_polls hfirstEq hsecondEq hthirdEq
  refine ⟨by decide +kernel, first, before, second, between, third, after, hfirst, hsecond, hthird,
    hpoll, hentered, hpoll', hleft, (hshows 1).1 second between hsecond,
    (hshows 2).1 third after hthird, ?_, ?_⟩
  · exact (hshows 0).2.1 first before second between hfirst hsecond (by rw [hpoll]; decide)
  · exact (hshows 1).2.1 second between third after hsecond hthird (by rw [hpoll']; decide)

end DragonOS.Boot
