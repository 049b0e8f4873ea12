import DragonOS.Boot.RoundedBox

/-!
# The layout of the setup screen

Margins and button widths are fractions of the screen with a fixed floor. From
640 by 480 pixels on the floors fit, so every subtraction is exact
(`SetupUiState.Exact`), the panel is on the screen, the buttons are in the panel
and apart, and no point hits both.
-/

namespace DragonOS.Boot

open Lib

/-- The layout in exact arithmetic. Each equation adds what the code subtracts, so
none of its subtractions wraps. -/
structure SetupUiState.Exact (framebufferInfo : FramebufferInfo) (setupUiState : SetupUiState) :
    Prop where
  panel_x : setupUiState.panel.x.toNat = max (framebufferInfo.screenWidth.toNat / 16) 48
  panel_y : setupUiState.panel.y.toNat = max (framebufferInfo.screenHeight.toNat / 14) 44
  panel_width : setupUiState.panel.width.toNat + 2 * setupUiState.panel.x.toNat =
    framebufferInfo.screenWidth.toNat
  panel_height : setupUiState.panel.height.toNat + 2 * setupUiState.panel.y.toNat =
    framebufferInfo.screenHeight.toNat
  panel_radius : setupUiState.panel.radius = 28
  button_x : setupUiState.installButton.x.toNat + setupUiState.installButton.width.toNat + 72 =
    setupUiState.panel.x.toNat + setupUiState.panel.width.toNat
  button_y : setupUiState.installButton.y.toNat + 64 * 2 + 34 + 120 =
    setupUiState.panel.y.toNat + setupUiState.panel.height.toNat
  button_width : setupUiState.installButton.width.toNat =
    max (setupUiState.panel.width.toNat / 4) 240
  button_height : setupUiState.installButton.height = 64
  button_radius : setupUiState.installButton.radius = 24
  try_eq : setupUiState.tryButton =
    { setupUiState.installButton with y := setupUiState.tryButton.y }
  try_y : setupUiState.tryButton.y.toNat = setupUiState.installButton.y.toNat + 64 + 34

theorem toNat_ite_lt (value floor : UInt32) :
    (if value < floor then floor else value).toNat = max value.toNat floor.toNat := by
  split <;> simp only [UInt32.lt_iff_toNat_lt] at * <;> omega

theorem toNat_panel {size margin : UInt32} (hsize : size.toNat < 2 ^ 31)
    (hmargin : margin.toNat * 2 ≤ size.toNat) :
    (size - margin * 2).toNat = size.toNat - margin.toNat * 2 ∧
      (margin + (size - margin * 2)).toNat = size.toNat - margin.toNat := by
  have htwo : (2 : UInt32).toNat = 2 := rfl
  have hdouble : (margin * 2).toNat = margin.toNat * 2 := toNat_mul_of_lt (by rw [htwo]; omega)
  have hpanel : (size - margin * 2).toNat = size.toNat - margin.toNat * 2 := by
    rw [toNat_sub_of_ge (by rw [hdouble]; exact hmargin), hdouble]
  refine ⟨hpanel, ?_⟩
  rw [toNat_add_of_lt] <;> rw [hpanel] <;> omega

theorem toNat_buttonX {right buttonWidth : UInt32} (h : buttonWidth.toNat + 72 ≤ right.toNat) :
    (right - buttonWidth - 72).toNat = right.toNat - buttonWidth.toNat - 72 := by
  have hfirst : (right - buttonWidth).toNat = right.toNat - buttonWidth.toNat :=
    toNat_sub_of_ge (by omega)
  have hgap : (72 : UInt32).toNat = 72 := rfl
  rw [toNat_sub_of_ge] <;> rw [hfirst, hgap]
  omega

theorem toNat_buttonY {bottom : UInt32} (h : 282 ≤ bottom.toNat) :
    (bottom - 64 * 2 - 34 - 120).toNat = bottom.toNat - 282 := by
  have hbuttons : ((64 : UInt32) * 2).toNat = 128 := rfl
  have hgap : (34 : UInt32).toNat = 34 := rfl
  have hrest : (120 : UInt32).toNat = 120 := rfl
  have hfirst : (bottom - 64 * 2).toNat = bottom.toNat - 128 := toNat_sub_of_ge (by omega)
  have hsecond : (bottom - 64 * 2 - 34).toNat = bottom.toNat - 128 - 34 := by
    rw [toNat_sub_of_ge] <;> rw [hfirst, hgap]
    omega
  rw [toNat_sub_of_ge] <;> rw [hsecond, hrest] <;> omega

theorem toNat_tryY {buttonY : UInt32} (h : buttonY.toNat < 2 ^ 31) :
    (buttonY + 64 + 34).toNat = buttonY.toNat + 64 + 34 := by
  have hheight : (64 : UInt32).toNat = 64 := rfl
  have hgap : (34 : UInt32).toNat = 34 := rfl
  have hfirst : (buttonY + 64).toNat = buttonY.toNat + 64 :=
    toNat_add_of_lt (by rw [hheight]; omega)
  rw [toNat_add_of_lt] <;> rw [hfirst, hgap]
  omega

section
variable {framebufferInfo : FramebufferInfo}

theorem initializeSetupUiState_exact (hwidth : 640 ≤ framebufferInfo.screenWidth.toNat)
    (hwidthLt : framebufferInfo.screenWidth.toNat < 2 ^ 31)
    (hheight : 480 ≤ framebufferInfo.screenHeight.toNat)
    (hheightLt : framebufferInfo.screenHeight.toNat < 2 ^ 31) (mouseDetected : UInt8) :
    (initializeSetupUiState framebufferInfo mouseDetected).Exact framebufferInfo := by
  have hmarginX := toNat_ite_lt (framebufferInfo.screenWidth / 16) 48
  have hmarginY := toNat_ite_lt (framebufferInfo.screenHeight / 14) 44
  rw [UInt32.toNat_div] at hmarginX hmarginY
  simp only [initializeSetupUiState]
  generalize (if framebufferInfo.screenWidth / 16 < 48 then 48
    else framebufferInfo.screenWidth / 16) = marginX at hmarginX ⊢
  generalize (if framebufferInfo.screenHeight / 14 < 44 then 44
    else framebufferInfo.screenHeight / 14) = marginY at hmarginY ⊢
  simp only [UInt32.reduceToNat] at hmarginX hmarginY
  -- The panel.
  have hroomX : marginX.toNat * 2 + 480 ≤ framebufferInfo.screenWidth.toNat := by omega
  have hroomY : marginY.toNat * 2 + 282 ≤ framebufferInfo.screenHeight.toNat := by omega
  obtain ⟨hpanelWidth, hright⟩ := toNat_panel hwidthLt (Nat.le_of_add_right_le hroomX)
  obtain ⟨hpanelHeight, hbottom⟩ := toNat_panel hheightLt (Nat.le_of_add_right_le hroomY)
  generalize framebufferInfo.screenWidth - marginX * 2 = panelWidth at hpanelWidth hright ⊢
  generalize framebufferInfo.screenHeight - marginY * 2 = panelHeight at hpanelHeight hbottom ⊢
  -- The buttons.
  have hbuttonWidth := toNat_ite_lt (panelWidth / 4) 240
  rw [UInt32.toNat_div] at hbuttonWidth
  generalize (if panelWidth / 4 < 240 then 240 else panelWidth / 4) = buttonWidth
    at hbuttonWidth ⊢
  simp only [UInt32.reduceToNat] at hbuttonWidth
  have hbuttonX : (marginX + panelWidth - buttonWidth - 72).toNat =
      (marginX + panelWidth).toNat - buttonWidth.toNat - 72 :=
    toNat_buttonX (by rw [hright]; clear hmarginX hmarginY; omega)
  have hbuttonY : (marginY + panelHeight - 64 * 2 - 34 - 120).toNat =
      (marginY + panelHeight).toNat - 282 :=
    toNat_buttonY (by rw [hbottom]; clear hmarginX hmarginY; omega)
  have htryY : (marginY + panelHeight - 64 * 2 - 34 - 120 + 64 + 34).toNat =
      (marginY + panelHeight - 64 * 2 - 34 - 120).toNat + 64 + 34 :=
    toNat_tryY (by rw [hbuttonY, hbottom]; clear hmarginX hmarginY; omega)
  rw [hright] at hbuttonX
  rw [hbottom] at hbuttonY
  constructor
  case panel_x => exact hmarginX
  case panel_y => exact hmarginY
  case button_width => exact hbuttonWidth
  case panel_radius | button_height | button_radius | try_eq => rfl
  all_goals dsimp only
  case try_y => exact htryY
  all_goals clear hmarginX hmarginY
  case button_x => rw [hbuttonX]; omega
  case button_y => rw [hbuttonY]; omega
  all_goals omega

/-- The buttons are rounded boxes inside the panel, one below the other, and the
panel is inside the screen. -/
structure SetupUiState.Placed (framebufferInfo : FramebufferInfo) (setupUiState : SetupUiState) :
    Prop where
  panel_right : setupUiState.panel.x.toNat + setupUiState.panel.width.toNat ≤
    framebufferInfo.screenWidth.toNat
  panel_bottom : setupUiState.panel.y.toNat + setupUiState.panel.height.toNat ≤
    framebufferInfo.screenHeight.toNat
  panel_rounded : setupUiState.panel.Rounded
  button_rounded : ∀ button ∈ [setupUiState.installButton, setupUiState.tryButton],
    button.Rounded
  button_inside : ∀ button ∈ [setupUiState.installButton, setupUiState.tryButton],
    setupUiState.panel.x ≤ button.x ∧ setupUiState.panel.y ≤ button.y ∧
    button.x.toNat + button.width.toNat ≤
      setupUiState.panel.x.toNat + setupUiState.panel.width.toNat ∧
    button.y.toNat + button.height.toNat ≤
      setupUiState.panel.y.toNat + setupUiState.panel.height.toNat
  apart : setupUiState.installButton.y.toNat + setupUiState.installButton.height.toNat ≤
    setupUiState.tryButton.y.toNat

theorem SetupUiState.Exact.placed {setupUiState : SetupUiState}
    (h : setupUiState.Exact framebufferInfo) (hwidth : 640 ≤ framebufferInfo.screenWidth.toNat)
    (hwidthLt : framebufferInfo.screenWidth.toNat < 2 ^ 31)
    (hheight : 480 ≤ framebufferInfo.screenHeight.toNat)
    (hheightLt : framebufferInfo.screenHeight.toNat < 2 ^ 31) :
    setupUiState.Placed framebufferInfo := by
  obtain ⟨hpx, hpy, hpw, hph, hpr, hbx, hby, hbw, hbh, hbr, htry, htryY⟩ := h
  have hpanelRadius : setupUiState.panel.radius.toNat = 28 := by rw [hpr]; rfl
  have hradius : setupUiState.installButton.radius.toNat = 24 := by rw [hbr]; rfl
  have hbuttonHeight : setupUiState.installButton.height.toNat = 64 := by rw [hbh]; rfl
  have hinstall : setupUiState.installButton.Rounded := by
    constructor <;> omega
  have htryButton : setupUiState.tryButton.Rounded := by
    rw [htry]
    constructor <;> dsimp only <;> omega
  have hinside : ∀ button : UiBox, button.x = setupUiState.installButton.x →
      button.width = setupUiState.installButton.width →
      button.height = setupUiState.installButton.height →
      setupUiState.installButton.y.toNat ≤ button.y.toNat →
      button.y.toNat ≤ setupUiState.installButton.y.toNat + 98 →
      setupUiState.panel.x ≤ button.x ∧ setupUiState.panel.y ≤ button.y ∧
      button.x.toNat + button.width.toNat ≤
        setupUiState.panel.x.toNat + setupUiState.panel.width.toNat ∧
      button.y.toNat + button.height.toNat ≤
        setupUiState.panel.y.toNat + setupUiState.panel.height.toNat := by
    intro button hx hw hh hlow hhigh
    rw [hx, hw, hh, UInt32.le_iff_toNat_le, UInt32.le_iff_toNat_le]
    omega
  constructor
  case panel_right | panel_bottom | apart => omega
  case panel_rounded => constructor <;> omega
  case button_rounded =>
    rintro button hbutton
    simp only [List.mem_cons, List.not_mem_nil, or_false] at hbutton
    rcases hbutton with rfl | rfl
    · exact hinstall
    · exact htryButton
  case button_inside =>
    rintro button hbutton
    simp only [List.mem_cons, List.not_mem_nil, or_false] at hbutton
    rcases hbutton with rfl | rfl
    · exact hinside _ rfl rfl rfl (Nat.le_refl _) (by omega)
    · exact hinside _ (by rw [htry]) (by rw [htry]) (by rw [htry]) (by omega) (by omega)

theorem SetupUiState.Placed.not_both {setupUiState : SetupUiState}
    (h : setupUiState.Placed framebufferInfo) (x y : UInt32) :
    ¬ (pointInRoundedBox x y setupUiState.installButton ∧
      pointInRoundedBox x y setupUiState.tryButton) := by
  rintro ⟨hinstall, htry⟩
  have hupper := contains_of_pointInRoundedBox hinstall
  have hlower := contains_of_pointInRoundedBox htry
  rw [contains_ofWords] at hupper hlower
  have hapart := h.apart
  omega

theorem SetupUiState.Placed.hitTest {setupUiState : SetupUiState}
    (h : setupUiState.Placed framebufferInfo) (header : GeneratedBitmap)
    (cursor : SoftwareCursor) :
    let centerX := cursor.x + header.cursorWidth / 2
    let centerY := cursor.y + header.cursorHeight / 2
    (hitTestSetupUi header setupUiState cursor = 1 ↔
      pointInRoundedBox centerX centerY setupUiState.installButton) ∧
    (hitTestSetupUi header setupUiState cursor = 2 ↔
      pointInRoundedBox centerX centerY setupUiState.tryButton) := by
  intro centerX centerY
  have hboth := h.not_both centerX centerY
  have hfirst : (1 : UInt32) ≠ 2 := by decide
  have hzero : (0 : UInt32) ≠ 1 ∧ (0 : UInt32) ≠ 2 := by decide
  have htest : hitTestSetupUi header setupUiState cursor =
      if pointInRoundedBox centerX centerY setupUiState.installButton then 1
      else if pointInRoundedBox centerX centerY setupUiState.tryButton then 2 else 0 := rfl
  rw [htest]
  split
  next hinstall =>
    have htry : ¬ pointInRoundedBox centerX centerY setupUiState.tryButton := fun htry =>
      hboth ⟨hinstall, htry⟩
    exact ⟨iff_of_true rfl hinstall, iff_of_false hfirst htry⟩
  next hinstall =>
  split
  next htry => exact ⟨iff_of_false hfirst.symm hinstall, iff_of_true rfl htry⟩
  next htry => exact ⟨iff_of_false hzero.1 hinstall, iff_of_false hzero.2 htry⟩

/-- On every screen from 640 by 480 pixels on, nothing of the layout wraps, everything
is where it belongs, and no cursor position is on both buttons. -/
theorem initializeSetupUiState_layout (hwidth : 640 ≤ framebufferInfo.screenWidth.toNat)
    (hwidthLt : framebufferInfo.screenWidth.toNat < 2 ^ 31)
    (hheight : 480 ≤ framebufferInfo.screenHeight.toNat)
    (hheightLt : framebufferInfo.screenHeight.toNat < 2 ^ 31) (mouseDetected : UInt8) :
    let setupUiState := initializeSetupUiState framebufferInfo mouseDetected
    setupUiState.Exact framebufferInfo ∧ setupUiState.Placed framebufferInfo ∧
      ∀ (header : GeneratedBitmap) (cursor : SoftwareCursor),
        let centerX := cursor.x + header.cursorWidth / 2
        let centerY := cursor.y + header.cursorHeight / 2
        ¬ (pointInRoundedBox centerX centerY setupUiState.installButton ∧
          pointInRoundedBox centerX centerY setupUiState.tryButton) ∧
        (hitTestSetupUi header setupUiState cursor = 1 ↔
          pointInRoundedBox centerX centerY setupUiState.installButton) ∧
        (hitTestSetupUi header setupUiState cursor = 2 ↔
          pointInRoundedBox centerX centerY setupUiState.tryButton) := by
  have hexact := initializeSetupUiState_exact hwidth hwidthLt hheight hheightLt mouseDetected
  have hplaced := hexact.placed hwidth hwidthLt hheight hheightLt
  exact ⟨hexact, hplaced, fun header cursor =>
    ⟨hplaced.not_both _ _, hplaced.hitTest header cursor⟩⟩

end

theorem initializeSetupUiState_layout_vga :
    let setupUiState := initializeSetupUiState vgaScreen 0
    setupUiState.Exact vgaScreen ∧ setupUiState.Placed vgaScreen ∧
      ∀ (header : GeneratedBitmap) (cursor : SoftwareCursor),
        let centerX := cursor.x + header.cursorWidth / 2
        let centerY := cursor.y + header.cursorHeight / 2
        ¬ (pointInRoundedBox centerX centerY setupUiState.installButton ∧
          pointInRoundedBox centerX centerY setupUiState.tryButton) ∧
        (hitTestSetupUi header setupUiState cursor = 1 ↔
          pointInRoundedBox centerX centerY setupUiState.installButton) ∧
        (hitTestSetupUi header setupUiState cursor = 2 ↔
          pointInRoundedBox centerX centerY setupUiState.tryButton) :=
  initializeSetupUiState_layout (by decide) (by decide) (by decide) (by decide) 0

end DragonOS.Boot
