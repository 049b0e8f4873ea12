import DragonOS.Boot.Cursor

/-!
# The setup screen

Text layout, the two buttons and the screen they are on. A C string is the list
of its bytes before the terminating zero. The functions that take the six parts
of an atlas take the atlas here; every caller passes the parts of one.
-/

namespace DragonOS.Boot

open Lib

-- ---------------------------------------------------------------------------
-- Text
-- ---------------------------------------------------------------------------

def text (literal : String) : List UInt8 := literal.toList.map fun c => c.toNat.toUInt8

def newline : UInt8 := 10

def FontAtlas.glyphAdvance (font : FontAtlas) (fallbackAdvance : Int32) (glyph : UInt8) : Int32 :=
  if glyph.toUInt32 ≥ font.firstChar ∧ glyph.toUInt32 < font.firstChar + font.glyphCount then
    (entry font.advance (glyph.toUInt32 - font.firstChar)).toUInt32.toInt32
  else fallbackAdvance

/-- The position of each glyph: the loop that all the text functions share. A
newline returns to the left edge, one line further down. -/
def layoutText (x lineHeight : Int32) (advance : UInt8 → Int32) :
    (cursorX y : Int32) → List UInt8 → List (Int32 × Int32 × UInt8)
  | _, _, [] => []
  | cursorX, y, glyph :: rest =>
    if glyph = newline then layoutText x lineHeight advance x (y + lineHeight) rest
    else (cursorX, y, glyph) :: layoutText x lineHeight advance (cursorX + advance glyph) y rest

def drawTextStringAtlas (framebufferInfo : FramebufferInfo) (x y : Int32) (text : List UInt8)
    (color : Rgb) (font : FontAtlas) : Draw :=
  (layoutText x font.glyphHeight.toInt32 (font.glyphAdvance (font.glyphWidth / 2).toInt32) x y
    text).flatMap fun (cursorX, y, glyph) =>
      drawGlyphAtlas framebufferInfo cursorX y glyph color font.firstChar font.glyphCount
        font.glyphWidth font.glyphHeight font.alpha

def drawTextString (header : GeneratedBitmap) (framebufferInfo : FramebufferInfo) (x y : Int32)
    (text : List UInt8) (color : Rgb) : Draw :=
  (layoutText x header.font.glyphHeight.toInt32 (header.font.glyphAdvance 8) x y text).flatMap
    fun (cursorX, y, glyph) => drawGlyph header framebufferInfo cursorX y glyph color

/-- The loop of `measureTextStringAtlas`. -/
def measureLines (advance : UInt8 → Int32) : (lineWidth maxWidth : Int32) → List UInt8 → Int32
  | lineWidth, maxWidth, [] => if lineWidth > maxWidth then lineWidth else maxWidth
  | lineWidth, maxWidth, glyph :: rest =>
    if glyph = newline then
      measureLines advance 0 (if lineWidth > maxWidth then lineWidth else maxWidth) rest
    else measureLines advance (lineWidth + advance glyph) maxWidth rest

def measureTextStringAtlas (text : List UInt8) (font : FontAtlas) (fallbackAdvance : UInt32) :
    Int32 :=
  measureLines (font.glyphAdvance fallbackAdvance.toInt32) 0 0 text

def gradientChannel (start stop : UInt8) (progress1024 : UInt32) : UInt8 :=
  (start.toUInt32.toInt32 +
    (stop.toUInt32.toInt32 - start.toUInt32.toInt32) * progress1024.toInt32 /
      1024).toUInt32.toUInt8

def drawGradientOutlinedTextAtlas (framebufferInfo : FramebufferInfo) (x y : Int32)
    (text : List UInt8) (start stop : Rgb) (outlineThickness : UInt32) (font : FontAtlas)
    (fallbackAdvance : UInt32) : Draw :=
  let totalWidth := measureTextStringAtlas text font fallbackAdvance
  let thickness := outlineThickness.toInt32
  let outline :=
    if outlineThickness ≠ 0 then
      (signedFromTo (-thickness) thickness).flatMap fun offsetY =>
        (signedFromTo (-thickness) thickness).flatMap fun offsetX =>
          if offsetX = 0 ∧ offsetY = 0 then []
          else drawTextStringAtlas framebufferInfo (x + offsetX) (y + offsetY) text ⟨0, 0, 0⟩ font
    else []
  let advance := font.glyphAdvance fallbackAdvance.toInt32
  outline ++
    (layoutText x font.glyphHeight.toInt32 advance x y text).flatMap fun (cursorX, y, glyph) =>
      let glyphCenter := cursorX - x + advance glyph / 2
      let progress1024 :=
        if totalWidth > 0 then (glyphCenter * 1024 / totalWidth).toUInt32 else 0
      let progress1024 := if progress1024 > 1024 then 1024 else progress1024
      drawGlyphAtlas framebufferInfo cursorX y glyph
        ⟨gradientChannel start.red stop.red progress1024,
          gradientChannel start.green stop.green progress1024,
          gradientChannel start.blue stop.blue progress1024⟩
        font.firstChar font.glyphCount font.glyphWidth font.glyphHeight font.alpha

-- ---------------------------------------------------------------------------
-- The setup state
-- ---------------------------------------------------------------------------

structure SetupUiState where
  panel : UiBox
  installButton : UiBox
  tryButton : UiBox
  hoveredButton : UInt32
  mouseDetected : UInt8
  deriving DecidableEq, Repr

def initializeSetupUiState (framebufferInfo : FramebufferInfo) (mouseDetected : UInt8) :
    SetupUiState :=
  let panelMarginX := framebufferInfo.screenWidth / 16
  let panelMarginX := if panelMarginX < 48 then 48 else panelMarginX
  let panelMarginY := framebufferInfo.screenHeight / 14
  let panelMarginY := if panelMarginY < 44 then 44 else panelMarginY
  let panel : UiBox :=
    { x := panelMarginX
      y := panelMarginY
      width := framebufferInfo.screenWidth - panelMarginX * 2
      height := framebufferInfo.screenHeight - panelMarginY * 2
      radius := 28
      color := framebufferInfo.compose ⟨250, 250, 250⟩ }
  let buttonWidth := panel.width / 4
  let buttonWidth := if buttonWidth < 240 then 240 else buttonWidth
  let buttonHeight := 64
  let buttonGap := 34
  let buttonX := panel.x + panel.width - buttonWidth - 72
  let buttonStartY := panel.y + panel.height - buttonHeight * 2 - buttonGap - 120
  let installButton : UiBox :=
    { x := buttonX
      y := buttonStartY
      width := buttonWidth
      height := buttonHeight
      radius := 24
      color := framebufferInfo.compose ⟨227, 227, 229⟩ }
  { panel
    installButton
    tryButton := { installButton with y := buttonStartY + buttonHeight + buttonGap }
    hoveredButton := 0
    mouseDetected }

section
variable (header : GeneratedBitmap)

def hitTestSetupUi (setupUiState : SetupUiState) (cursor : SoftwareCursor) : UInt32 :=
  let centerX := cursor.x + header.cursorWidth / 2
  let centerY := cursor.y + header.cursorHeight / 2
  if pointInRoundedBox centerX centerY setupUiState.installButton then 1
  else if pointInRoundedBox centerX centerY setupUiState.tryButton then 2
  else 0

-- ---------------------------------------------------------------------------
-- Drawing it
-- ---------------------------------------------------------------------------

def buttonBox (framebufferInfo : FramebufferInfo) (button : UiBox) (hovered : Bool) : UiBox :=
  { button with
    color :=
      if hovered then framebufferInfo.compose ⟨212, 212, 215⟩
      else framebufferInfo.compose ⟨227, 227, 229⟩ }

def drawButtonLabel (framebufferInfo : FramebufferInfo) (button : UiBox) (label : List UInt8) :
    Draw :=
  let font := header.setupUiFont
  let buttonTextX := button.x.toInt32 +
    (button.width.toInt32 - measureTextStringAtlas label font (font.glyphWidth / 2)) / 2
  let buttonTextY :=
    button.y.toInt32 + (button.height.toInt32 - font.glyphHeight.toInt32) / 2
  drawTextStringAtlas framebufferInfo buttonTextX buttonTextY label ⟨12, 12, 12⟩ font

def drawSetupButton (framebufferInfo : FramebufferInfo) (button : UiBox) (label : List UInt8)
    (hovered : Bool) : Draw :=
  drawRoundedBox framebufferInfo (buttonBox framebufferInfo button hovered) ++
    drawButtonLabel header framebufferInfo button label

def drawInstallButton (framebufferInfo : FramebufferInfo) (setupUiState : SetupUiState)
    (hoveredButton : UInt32) : Draw :=
  drawSetupButton header framebufferInfo setupUiState.installButton (text "Install")
    (hoveredButton = 1)

def drawTryButton (framebufferInfo : FramebufferInfo) (setupUiState : SetupUiState)
    (hoveredButton : UInt32) : Draw :=
  drawSetupButton header framebufferInfo setupUiState.tryButton (text "Try") (hoveredButton = 2)

def refreshSetupButtons (framebufferInfo : FramebufferInfo) (setupUiState : SetupUiState)
    (previousHoveredButton currentHoveredButton : UInt32) : Draw :=
  if previousHoveredButton = currentHoveredButton then []
  else
    (if previousHoveredButton = 1 ∨ currentHoveredButton = 1 then
        drawInstallButton header framebufferInfo setupUiState currentHoveredButton
      else []) ++
      (if previousHoveredButton = 2 ∨ currentHoveredButton = 2 then
        drawTryButton header framebufferInfo setupUiState currentHoveredButton
      else [])

def setupIconSize (setupUiState : SetupUiState) : UInt32 × UInt32 :=
  let panel := setupUiState.panel
  let iconDrawHeight := if panel.height > 280 then panel.height - 250 else panel.height / 2
  let iconDrawHeight := if iconDrawHeight > 420 then 420 else iconDrawHeight
  let iconDrawHeight := if iconDrawHeight < 200 then 200 else iconDrawHeight
  (header.setupIcon.width * iconDrawHeight / header.setupIcon.height, iconDrawHeight)

/-- Everything of the setup screen above its background and below its buttons. -/
def drawSetupPanel (framebufferInfo : FramebufferInfo) (setupUiState : SetupUiState) : Draw :=
  let panel := setupUiState.panel
  let titleFont := header.setupTitleFont
  let uiFont := header.setupUiFont
  let titleText := text "Dragon OS Setup"
  let promptText := text "What would you like to do with Dragon OS?"
  let titleY := panel.y.toInt32 + 48
  let titleX := panel.x.toInt32 + (panel.width.toInt32 -
    measureTextStringAtlas titleText titleFont (titleFont.glyphWidth / 2)) / 2
  let (iconDrawWidth, iconDrawHeight) := setupIconSize header setupUiState
  let rightZoneX := panel.x.toInt32 + (panel.width / 2).toInt32 - 10
  let rightZoneWidth := panel.width.toInt32 - (rightZoneX - panel.x.toInt32) - 48
  let promptY := panel.y.toInt32 + 210
  let promptX := rightZoneX + (rightZoneWidth -
    measureTextStringAtlas promptText uiFont (uiFont.glyphWidth / 2)) / 2
  drawRoundedBox framebufferInfo panel ++
    drawGradientOutlinedTextAtlas framebufferInfo titleX titleY titleText ⟨101, 235, 255⟩
      ⟨76, 255, 84⟩ 3 titleFont (titleFont.glyphWidth / 2) ++
    drawImageNearestAlpha framebufferInfo (panel.x.toInt32 + 58) (panel.y.toInt32 + 160)
      iconDrawWidth iconDrawHeight header.setupIcon.width header.setupIcon.height
      header.setupIcon.pixels header.setupIcon.alpha ++
    drawTextStringAtlas framebufferInfo promptX promptY promptText ⟨18, 18, 18⟩ uiFont

def drawMouseHint (framebufferInfo : FramebufferInfo) (setupUiState : SetupUiState) : Draw :=
  let panel := setupUiState.panel
  if setupUiState.mouseDetected = 0 then
    drawTextString header framebufferInfo (panel.x.toInt32 + 34)
      (panel.y + panel.height - 34).toInt32
      (text "USB combo mouse still needs a future HID driver on real hardware.") ⟨128, 128, 128⟩
  else []

def drawSetupScreen (framebufferInfo : FramebufferInfo) (setupUiState : SetupUiState) : Draw :=
  clearScreen framebufferInfo (framebufferInfo.compose ⟨208, 208, 208⟩) 0 ++
    drawSetupPanel header framebufferInfo setupUiState ++
    drawInstallButton header framebufferInfo setupUiState setupUiState.hoveredButton ++
    drawTryButton header framebufferInfo setupUiState setupUiState.hoveredButton ++
    drawMouseHint header framebufferInfo setupUiState

end

end DragonOS.Boot
