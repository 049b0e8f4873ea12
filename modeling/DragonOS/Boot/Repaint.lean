import DragonOS.Boot.MouseLoop
import DragonOS.Boot.Paint

/-!
# The screen follows the cursor

`setupPicture` is the setup screen drawn from scratch. Redrawing the buttons
turns the picture of one hovered button into that of another, and the composite
shows the cursor over the picture. Both hold pixel by pixel, so the loop's
invariant does too.
-/

namespace DragonOS.Boot

open Lib

-- ---------------------------------------------------------------------------
-- The picture
-- ---------------------------------------------------------------------------

def setupUi (framebufferInfo : FramebufferInfo) (mouseDetected : UInt8) (hoveredButton : UInt32) :
    SetupUiState :=
  { initializeSetupUiState framebufferInfo mouseDetected with hoveredButton }

def setupPicture (header : GeneratedBitmap) (framebufferInfo : FramebufferInfo)
    (mouseDetected : UInt8) (hoveredButton : UInt32) : Memory UInt32 :=
  applyAll (drawSetupScreen header framebufferInfo
    (setupUi framebufferInfo mouseDetected hoveredButton)) fun _ => 0

section
variable {header : GeneratedBitmap} {framebufferInfo : FramebufferInfo} {mouseDetected : UInt8}

def InstallArea (framebufferInfo : FramebufferInfo) (a : Nat) : Prop :=
  ButtonArea framebufferInfo (initializeSetupUiState framebufferInfo 0).installButton a

def TryArea (framebufferInfo : FramebufferInfo) (a : Nat) : Prop :=
  ButtonArea framebufferInfo (initializeSetupUiState framebufferInfo 0).tryButton a

instance (framebufferInfo : FramebufferInfo) (a : Nat) :
    Decidable (InstallArea framebufferInfo a) := by
  unfold InstallArea; infer_instance

instance (framebufferInfo : FramebufferInfo) (a : Nat) :
    Decidable (TryArea framebufferInfo a) := by
  unfold TryArea; infer_instance

structure LabelsInside (header : GeneratedBitmap) (framebufferInfo : FramebufferInfo) : Prop where
  install : LabelInside header framebufferInfo
    (initializeSetupUiState framebufferInfo 0).installButton (text "Install")
  try_ : LabelInside header framebufferInfo
    (initializeSetupUiState framebufferInfo 0).tryButton (text "Try")

def installFace (header : GeneratedBitmap) (framebufferInfo : FramebufferInfo) (hovered : Bool) :
    Memory UInt32 :=
  buttonFace header framebufferInfo (initializeSetupUiState framebufferInfo 0).installButton
    (text "Install") hovered

def tryFace (header : GeneratedBitmap) (framebufferInfo : FramebufferInfo) (hovered : Bool) :
    Memory UInt32 :=
  buttonFace header framebufferInfo (initializeSetupUiState framebufferInfo 0).tryButton
    (text "Try") hovered

def backdrop (header : GeneratedBitmap) (framebufferInfo : FramebufferInfo) : Memory UInt32 :=
  applyAll (clearScreen framebufferInfo (framebufferInfo.compose ⟨208, 208, 208⟩) 0 ++
    drawSetupPanel header framebufferInfo (initializeSetupUiState framebufferInfo 0)) fun _ => 0

theorem ButtonArea.shows (hsized : framebufferInfo.Sized) {button : UiBox}
    (h : ButtonArea framebufferInfo button a) :
    framebufferInfo.Shows (.ofWords button.x button.y button.width button.height) a :=
  (onScreen_drawRoundedBox hsized button).writes a h

/-- The second button begins 98 rows below the first, which is 64 rows high; a
first row that wraps around is above everything. -/
theorem not_installArea_of_tryArea (hsized : framebufferInfo.Sized)
    (htry : TryArea framebufferInfo a) : ¬ InstallArea framebufferInfo a := by
  intro hinstall
  obtain ⟨x, y, hx, hy, hrect, rfl⟩ := ButtonArea.shows hsized hinstall
  have hshows := ButtonArea.shows hsized htry
  rw [hsized.shows_pixelAt hx hy] at hshows
  rw [contains_ofWords] at hrect hshows
  have hrow : (initializeSetupUiState framebufferInfo 0).tryButton.y =
      (initializeSetupUiState framebufferInfo 0).installButton.y + 64 + 34 := rfl
  have hinstallHeight :
    (initializeSetupUiState framebufferInfo 0).installButton.height.toNat = 64 := rfl
  have htryHeight : (initializeSetupUiState framebufferInfo 0).tryButton.height.toNat = 64 := rfl
  rw [hrow, UInt32.toNat_add, UInt32.toNat_add] at hshows
  have := (initializeSetupUiState framebufferInfo 0).installButton.y.toNat_lt
  simp only [UInt32.reduceToNat] at hshows
  omega

theorem applyAll_drawInstallButton (hsized : framebufferInfo.Sized)
    (hlabels : LabelsInside header framebufferInfo) (hoveredButton current : UInt32)
    (memory : Memory UInt32) :
    applyAll (drawInstallButton header framebufferInfo
        (setupUi framebufferInfo mouseDetected hoveredButton) current) memory a =
      if InstallArea framebufferInfo a then installFace header framebufferInfo (current = 1) a
      else memory a :=
  applyAll_drawSetupButton hsized hlabels.install _ memory

theorem applyAll_drawTryButton (hsized : framebufferInfo.Sized)
    (hlabels : LabelsInside header framebufferInfo) (hoveredButton current : UInt32)
    (memory : Memory UInt32) :
    applyAll (drawTryButton header framebufferInfo
        (setupUi framebufferInfo mouseDetected hoveredButton) current) memory a =
      if TryArea framebufferInfo a then tryFace header framebufferInfo (current = 2) a
      else memory a :=
  applyAll_drawSetupButton hsized hlabels.try_ _ memory

theorem setupPicture_eq (hsized : framebufferInfo.Sized)
    (hlabels : LabelsInside header framebufferInfo) (hdetected : mouseDetected ≠ 0)
    (hoveredButton : UInt32) :
    setupPicture header framebufferInfo mouseDetected hoveredButton a =
      if TryArea framebufferInfo a then tryFace header framebufferInfo (hoveredButton = 2) a
      else if InstallArea framebufferInfo a then
        installFace header framebufferInfo (hoveredButton = 1) a
      else backdrop header framebufferInfo a := by
  have hhint : drawMouseHint header framebufferInfo
      (setupUi framebufferInfo mouseDetected hoveredButton) = [] := if_neg hdetected
  rw [setupPicture, drawSetupScreen, hhint, List.append_nil, applyAll_append, applyAll_append,
    applyAll_drawTryButton hsized hlabels, applyAll_drawInstallButton hsized hlabels]
  rfl

theorem applyAll_refreshSetupButtons (hsized : framebufferInfo.Sized)
    (hlabels : LabelsInside header framebufferInfo) {previous current : UInt32}
    (hne : previous ≠ current) (memory : Memory UInt32) :
    applyAll (refreshSetupButtons header framebufferInfo
        (setupUi framebufferInfo mouseDetected current) previous current) memory a =
      if (previous = 2 ∨ current = 2) ∧ TryArea framebufferInfo a then
        tryFace header framebufferInfo (current = 2) a
      else if (previous = 1 ∨ current = 1) ∧ InstallArea framebufferInfo a then
        installFace header framebufferInfo (current = 1) a
      else memory a := by
  have hoptional : ∀ (c : Prop) [Decidable c] (draw : Draw) (m : Memory UInt32),
      applyAll (if c then draw else []) m a = if c then applyAll draw m a else m a := by
    intro c _ draw m
    split <;> rfl
  simp only [refreshSetupButtons, if_neg hne, applyAll_append, hoptional,
    applyAll_drawTryButton hsized hlabels, applyAll_drawInstallButton hsized hlabels]
  by_cases htry : previous = 2 ∨ current = 2 <;>
    by_cases hinstall : previous = 1 ∨ current = 1 <;> simp [htry, hinstall]

def HoverShows (framebufferInfo : FramebufferInfo) (previous current : UInt32) (a : Nat) : Prop :=
  let ui := initializeSetupUiState framebufferInfo 0
  ((previous = 1 ∨ current = 1) ∧ framebufferInfo.Shows (.ofWords ui.installButton.x
      ui.installButton.y ui.installButton.width ui.installButton.height) a) ∨
    ((previous = 2 ∨ current = 2) ∧ framebufferInfo.Shows (.ofWords ui.tryButton.x
      ui.tryButton.y ui.tryButton.width ui.tryButton.height) a)

/-- What redrawing the buttons does at an address: it puts the new picture there,
inside one of the two rectangles, or leaves what is the same in both pictures. -/
theorem refreshSetupButtons_cases (hsized : framebufferInfo.Sized)
    (hlabels : LabelsInside header framebufferInfo) (hdetected : mouseDetected ≠ 0)
    {previous current : UInt32} (hne : previous ≠ current) (memory : Memory UInt32) (a : Nat) :
    (HoverShows framebufferInfo previous current a ∧
      applyAll (refreshSetupButtons header framebufferInfo
        (setupUi framebufferInfo mouseDetected current) previous current) memory a =
          setupPicture header framebufferInfo mouseDetected current a) ∨
    (applyAll (refreshSetupButtons header framebufferInfo
        (setupUi framebufferInfo mouseDetected current) previous current) memory a = memory a ∧
      setupPicture header framebufferInfo mouseDetected previous a =
        setupPicture header framebufferInfo mouseDetected current a) := by
  rw [applyAll_refreshSetupButtons hsized hlabels hne, setupPicture_eq hsized hlabels hdetected,
    setupPicture_eq hsized hlabels hdetected]
  -- A button neither left nor entered is not hovered before or after.
  by_cases htry : TryArea framebufferInfo a
  · have hinstall := not_installArea_of_tryArea hsized htry
    by_cases hhover : previous = 2 ∨ current = 2
    · exact .inl ⟨.inr ⟨hhover, ButtonArea.shows hsized htry⟩, by simp [htry, hhover]⟩
    · rw [not_or] at hhover
      exact .inr (by simp [htry, hinstall, hhover])
  · by_cases hinstall : InstallArea framebufferInfo a
    · by_cases hhover : previous = 1 ∨ current = 1
      · exact .inl ⟨.inl ⟨hhover, ButtonArea.shows hsized hinstall⟩,
          by simp [htry, hinstall, hhover]⟩
      · rw [not_or] at hhover
        exact .inr (by simp [htry, hinstall, hhover])
    · exact .inr (by simp [htry, hinstall])

end

-- ---------------------------------------------------------------------------
-- The picture on another surface
-- ---------------------------------------------------------------------------

section
variable {header : GeneratedBitmap} {framebufferInfo : FramebufferInfo}
  (hsized : framebufferInfo.Sized)
include hsized

theorem setupPicture_withBase (header : GeneratedBitmap) (base : Nat) (mouseDetected : UInt8) (hoveredButton : UInt32) :
    Agree framebufferInfo.count base framebufferInfo.framebuffer
      (setupPicture header (framebufferInfo.withBase base) mouseDetected hoveredButton)
      (setupPicture header framebufferInfo mouseDetected hoveredButton) :=
  drawSetupScreen_agree hsized base framebufferInfo.framebuffer header
    (setupUi framebufferInfo mouseDetected hoveredButton) _ _

theorem buttonArea_withBase (base : Nat) (button : UiBox) :
    ButtonArea (framebufferInfo.withBase base) button (base + i) ↔
      ButtonArea framebufferInfo button (framebufferInfo.framebuffer + i) :=
  (sameDraw_drawRoundedBox hsized base framebufferInfo.framebuffer button).mem_written

theorem LabelInside.withBase (h : LabelInside header framebufferInfo button label) (base : Nat) :
    LabelInside header (framebufferInfo.withBase base) button label := by
  intro a ha
  have hlabel := sameDraw_drawButtonLabel hsized base framebufferInfo.framebuffer header button label
  have hself := sameDraw_drawButtonLabel hsized base base header button label
  obtain ⟨effect, he, hwrites⟩ := mem_written.mp ha
  obtain ⟨i, rfl⟩ := Nat.exists_eq_add_of_le ((hself.inPlace effect he).2 a hwrites).1
  exact (buttonArea_withBase hsized base button).mpr (h _ (hlabel.mem_written.mp ha))

theorem LabelsInside.withBase (h : LabelsInside header framebufferInfo) (base : Nat) :
    LabelsInside header (framebufferInfo.withBase base) :=
  ⟨h.install.withBase hsized base, h.try_.withBase hsized base⟩

end

-- ---------------------------------------------------------------------------
-- The composite
-- ---------------------------------------------------------------------------

/-- Where the surfaces lie that an iteration works on. The shadow may be the
framebuffer itself and the compose surface may be missing; what is there
overlaps nothing else. -/
structure Layout (header : GeneratedBitmap) (framebufferInfo : FramebufferInfo)
    (shadow compose savedPixels : Nat) : Prop where
  sized : framebufferInfo.Sized
  framebuffer_ne : framebufferInfo.framebuffer ≠ 0
  shadow_ne : shadow ≠ 0
  shadow_apart : shadow ≠ framebufferInfo.framebuffer → framebufferInfo.Apart shadow
  compose_ne : compose ≠ 0 → compose ≠ framebufferInfo.framebuffer ∧ compose ≠ shadow
  compose_apart : compose ≠ 0 →
    framebufferInfo.Apart compose ∧ (framebufferInfo.withBase shadow).Apart compose
  saved_apart : ∀ a, savedPixels ≤ a →
    a < savedPixels + header.cursorWidth.toNat * header.cursorHeight.toNat →
    ¬ framebufferInfo.Owns a ∧ ¬ (framebufferInfo.withBase shadow).Owns a ∧
      (compose ≠ 0 → ¬ (framebufferInfo.withBase compose).Owns a)

section
variable {header : GeneratedBitmap} {framebufferInfo : FramebufferInfo} {cursor : SoftwareCursor}

theorem SoftwareCursor.Placed.withBase (h : cursor.Placed header framebufferInfo) (base : Nat) :
    cursor.Placed header (framebufferInfo.withBase base) :=
  ⟨h.right_le, h.bottom_le, h.width_eq, h.height_eq⟩

@[simp] theorem clip_withBase (base : Nat) :
    cursor.clip header (framebufferInfo.withBase base) = cursor.clip header framebufferInfo := rfl

theorem over_of_not_rect (hplaced : cursor.Placed header framebufferInfo)
    (hX : X < framebufferInfo.screenWidth.toNat) (hY : Y < framebufferInfo.screenHeight.toNat)
    (h : ¬ cursor.rect.Contains X Y) (below : UInt32) : cursor.over header X Y below = below := by
  rw [SoftwareCursor.over, if_neg]
  rintro ⟨hin, -⟩
  exact h ((rect_contains_iff hplaced hX hY).mpr hin)

theorem over_over (cursor : SoftwareCursor) (below : UInt32) :
    cursor.over header X Y (cursor.over header X Y below) = cursor.over header X Y below := by
  simp only [SoftwareCursor.over]
  split <;> rfl

theorem applyAll_restore (hplaced : cursor.Placed header framebufferInfo)
    (hsized : framebufferInfo.Sized)
    (hfrom : ∀ a, cursor.Saves header a → ¬ (framebufferInfo.withBase source).Owns a)
    (hto : ∀ a, cursor.Saves header a → ¬ (framebufferInfo.withBase destination).Owns a)
    (memory : Memory UInt32) (hin : cursor.rect.Contains X Y) :
    applyAll (copySavedPixels header (framebufferInfo.withBase destination) cursor)
        (applyAll (copyBackground header (framebufferInfo.withBase source) cursor) memory)
        ((framebufferInfo.withBase destination).pixelAt X Y) =
      memory ((framebufferInfo.withBase source).pixelAt X Y) := by
  have hrect := contains_ofWords.mp hin
  obtain ⟨k, rfl⟩ := Nat.exists_eq_add_of_le hrect.1
  obtain ⟨row, rfl⟩ := Nat.exists_eq_add_of_le hrect.2.2.1
  rw [applyAll_copySavedPixels (hplaced.withBase destination).inside (hsized.withBase destination) hto _
      (by omega) (by omega),
    applyAll_copyBackground (hplaced.withBase source).inside (hsized.withBase source) hfrom _ (by omega)
      (by omega)]

variable {shadow compose : Nat}
  (hlayout : Layout header framebufferInfo shadow compose cursor.savedPixels)
  (hclamped : cursor.Clamped header framebufferInfo)
include hlayout hclamped

theorem written_blitCursorComposite (ha : a ∈ written (blitCursorComposite header framebufferInfo
      (framebufferInfo.withBase shadow) (framebufferInfo.withBase compose) cursor).2) :
    cursor.Saves header a ∨ (compose ≠ 0 ∧ (framebufferInfo.withBase compose).Owns a) ∨
      framebufferInfo.Shows (cursor.clip header framebufferInfo).rect a := by
  have hsized := hlayout.sized
  simp only [blitCursorComposite, written_append, List.mem_append] at ha
  rcases ha with ha | ha
  · exact .inl ((confined_saveCursorBackground header (hsized.withBase shadow)
      ⟨hclamped.x_le, hclamped.y_le⟩).writes a ha)
  split at ha
  next hcompose =>
    have hcomposed := hsized.withBase compose
    have hplaced := hclamped.placed.withBase compose
    simp only [written_append, List.mem_append] at ha
    rcases ha with (ha | ha) | ha
    · exact .inr (.inl ⟨hcompose.1, hcomposed.shows_owns
        ((confined_copySavedPixels hplaced.inside hcomposed).writes a ha)⟩)
    · exact .inr (.inl ⟨hcompose.1, hcomposed.shows_owns
        ((onScreen_drawCursor header hcomposed hplaced.inside.right_le
          hplaced.inside.bottom_le).writes a ha)⟩)
    · exact .inr (.inr ((confined_blitSurfaceRect hsized hcomposed _ _ _ _).writes a ha))
  next =>
    have hinside := hclamped.placed.inside
    exact .inr (.inr
      ((onScreen_drawCursor header hsized hinside.right_le hinside.bottom_le).writes a ha))

/-- When the framebuffer shows the shadow, the composite shows the cursor over
it, by either way of drawing it. -/
theorem blitCursorComposite_shows (memory : Memory UInt32)
    (hsame : memory (framebufferInfo.pixelAt X Y) =
      memory ((framebufferInfo.withBase shadow).pixelAt X Y))
    (hX : X < framebufferInfo.screenWidth.toNat) (hY : Y < framebufferInfo.screenHeight.toNat) :
    applyAll (blitCursorComposite header framebufferInfo (framebufferInfo.withBase shadow)
        (framebufferInfo.withBase compose) cursor).2 memory (framebufferInfo.pixelAt X Y) =
      cursor.over header X Y (memory ((framebufferInfo.withBase shadow).pixelAt X Y)) := by
  have hsized := hlayout.sized
  have hplaced := hclamped.placed
  have howns := hsized.owns hX hY
  have hsave : applyAll (copyBackground header (framebufferInfo.withBase shadow)
      (cursor.clip header framebufferInfo)) memory (framebufferInfo.pixelAt X Y) =
        memory (framebufferInfo.pixelAt X Y) :=
    (confined_copyBackground (hplaced.withBase shadow).inside (hsized.withBase shadow)).frame
      (fun ha => (hlayout.saved_apart _ ha.1 ha.2).1 howns) memory
  have hshown := over_of_not_rect hplaced hX hY
  simp only [blitCursorComposite, saveCursorBackground, applyAll_append, clip_withBase]
  split
  next hcompose =>
    have hcomposed := hsized.withBase compose
    have hplaced' := hplaced.withBase compose
    obtain ⟨happart, -⟩ := hlayout.compose_apart hcompose.1
    rw [applyAll_append, applyAll_append]
    refine (applyAll_blitSurfaceRect_withBase hsized hlayout.framebuffer_ne hcompose.1 happart
      _ _ _ _ _ hX hY).trans ?_
    split
    next hin =>
      -- The compose surface holds the saved pixels with the cursor over them.
      rw [applyAll_drawCursor hplaced' hcomposed _ hX hY]
      refine congrArg _ (applyAll_restore hplaced hsized
        (fun a ha => (hlayout.saved_apart a ha.1 ha.2).2.1)
        (fun a ha => (hlayout.saved_apart a ha.1 ha.2).2.2 hcompose.1) memory hin)
    next hout =>
      rw [(onScreen_drawCursor header hcomposed hplaced'.inside.right_le
          hplaced'.inside.bottom_le).frame
          (fun hshows => happart _ howns (hcomposed.shows_owns hshows)),
        (confined_copySavedPixels hplaced'.inside hcomposed).frame
          (fun hshows => happart _ howns (hcomposed.shows_owns hshows))]
      exact (hsave.trans hsame).trans (hshown hout _).symm
  next =>
    rw [applyAll_drawCursor hplaced hsized _ hX hY]
    exact congrArg _ (hsave.trans hsame)

end

end DragonOS.Boot
