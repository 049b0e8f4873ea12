import DragonOS.Boot.Setup
import DragonOS.Boot.Surface

/-!
# Painting at any base

Apart from clearing it, everything that is drawn on a surface is a list of
stores and blends of single pixels, the same list wherever the surface lies.
`SameDraw` says so for each primitive and for the parts of the setup screen. It
gives at once that they return when blending does, that they read only what
they write, and that two surfaces drawn alike look alike.
-/

namespace DragonOS.Boot

open Lib

def FramebufferInfo.Blend (framebufferInfo : FramebufferInfo) (f : UInt32 → Option UInt32) : Prop :=
  ∃ color alpha, f = fun pixel => alphaBlendPixel framebufferInfo pixel color alpha

abbrev SameDraw (framebufferInfo : FramebufferInfo) (base base' : Nat) : Draw → Draw → Prop :=
  SameProgram framebufferInfo.Blend framebufferInfo.count base base'

section
variable {framebufferInfo : FramebufferInfo} (hsized : framebufferInfo.Sized) (base base' : Nat)

theorem sameDraw_fetch (table : List UInt8) (index : UInt32) :
    SameDraw framebufferInfo base base' (fetch table index) (fetch table index) :=
  .cons .note .nil

theorem sameDraw_weightedFetches (table : List UInt8) (sourceWidth scale channel : UInt32)
    (column row : Sample) :
    SameDraw framebufferInfo base base'
      (weightedFetches table sourceWidth scale channel column row)
      (weightedFetches table sourceWidth scale channel column row) :=
  .flatMap fun _ _ => sameDraw_fetch base base' table _

include hsized

theorem FramebufferInfo.Sized.index_lt_count {y x : UInt32}
    (hx : x < framebufferInfo.screenWidth) (hy : y < framebufferInfo.screenHeight) :
    (y * framebufferInfo.pixelsPerScanLine + x).toNat < framebufferInfo.count := by
  have howns := hsized.owns (UInt32.lt_iff_toNat_lt.mp hx) (UInt32.lt_iff_toNat_lt.mp hy)
  rw [← hsized.pixelAddress (UInt32.le_of_lt hx) hy, FramebufferInfo.pixelAddress] at howns
  simp only [FramebufferInfo.Owns] at howns
  omega

theorem sameDraw_storePixel {y x : UInt32} (hx : x < framebufferInfo.screenWidth)
    (hy : y < framebufferInfo.screenHeight) (value : UInt32) :
    SameDraw framebufferInfo base base' ((framebufferInfo.withBase base).storePixel y x value)
      ((framebufferInfo.withBase base').storePixel y x value) :=
  .cons .note (.cons (.store (hsized.index_lt_count hx hy)) .nil)

theorem sameDraw_blendPixel {y x : UInt32} (hx : x < framebufferInfo.screenWidth)
    (hy : y < framebufferInfo.screenHeight) (color : Rgb) (alpha : UInt8) :
    SameDraw framebufferInfo base base'
      ((framebufferInfo.withBase base).blendPixel y x color alpha)
      ((framebufferInfo.withBase base').blendPixel y x color alpha) :=
  .cons .note (.cons (.modify (hsized.index_lt_count hx hy) ⟨color, alpha, rfl⟩) .nil)

theorem sameDraw_drawRoundedBox (box : UiBox) :
    SameDraw framebufferInfo base base' (drawRoundedBox (framebufferInfo.withBase base) box)
      (drawRoundedBox (framebufferInfo.withBase base') box) := by
  refine .flatMap fun row _ => .flatMap fun column _ => ?_
  simp only
  split
  · exact .nil
  next hin =>
  simp only [ge_iff_le, not_or, UInt32.not_le] at hin
  split
  · exact sameDraw_storePixel hsized base base' hin.1 hin.2 _
  · exact .nil

theorem sameDraw_drawGlyphCells (x y : Int32) (color : Rgb)
    (glyphIndex glyphWidth glyphHeight : UInt32) (glyphAlpha : List UInt8) :
    SameDraw framebufferInfo base base'
      (drawGlyphCells (framebufferInfo.withBase base) x y color glyphIndex glyphWidth glyphHeight
        glyphAlpha)
      (drawGlyphCells (framebufferInfo.withBase base') x y color glyphIndex glyphWidth glyphHeight
        glyphAlpha) := by
  refine .flatMap fun row _ => ?_
  simp only
  split
  · exact .nil
  next hy =>
  refine .flatMap fun column _ => ?_
  split
  · exact .nil
  next hx =>
  refine (sameDraw_fetch base base' glyphAlpha _).append ?_
  split
  · exact .nil
  · exact sameDraw_blendPixel hsized base base' (lt_of_shown hx) (lt_of_shown hy) color _

theorem sameDraw_drawGlyphAtlas (x y : Int32) (glyph : UInt8) (color : Rgb)
    (firstChar glyphCount glyphWidth glyphHeight : UInt32) (glyphAlpha : List UInt8) :
    SameDraw framebufferInfo base base'
      (drawGlyphAtlas (framebufferInfo.withBase base) x y glyph color firstChar glyphCount
        glyphWidth glyphHeight glyphAlpha)
      (drawGlyphAtlas (framebufferInfo.withBase base') x y glyph color firstChar glyphCount
        glyphWidth glyphHeight glyphAlpha) := by
  simp only [drawGlyphAtlas]
  split
  · exact .nil
  · exact sameDraw_drawGlyphCells hsized base base' ..

theorem sameDraw_drawTextStringAtlas (x y : Int32) (text : List UInt8) (color : Rgb)
    (font : FontAtlas) :
    SameDraw framebufferInfo base base'
      (drawTextStringAtlas (framebufferInfo.withBase base) x y text color font)
      (drawTextStringAtlas (framebufferInfo.withBase base') x y text color font) :=
  .flatMap fun _ _ => sameDraw_drawGlyphAtlas hsized base base' ..

theorem sameDraw_drawTextString (header : GeneratedBitmap) (x y : Int32) (text : List UInt8)
    (color : Rgb) :
    SameDraw framebufferInfo base base'
      (drawTextString header (framebufferInfo.withBase base) x y text color)
      (drawTextString header (framebufferInfo.withBase base') x y text color) :=
  .flatMap fun _ _ => sameDraw_drawGlyphAtlas hsized base base' ..

theorem sameDraw_drawGradientOutlinedTextAtlas (x y : Int32) (text : List UInt8)
    (start stop : Rgb) (outlineThickness : UInt32) (font : FontAtlas) (fallbackAdvance : UInt32) :
    SameDraw framebufferInfo base base'
      (drawGradientOutlinedTextAtlas (framebufferInfo.withBase base) x y text start stop
        outlineThickness font fallbackAdvance)
      (drawGradientOutlinedTextAtlas (framebufferInfo.withBase base') x y text start stop
        outlineThickness font fallbackAdvance) := by
  refine .append ?_ (.flatMap fun _ _ => sameDraw_drawGlyphAtlas hsized base base' ..)
  split
  · refine .flatMap fun offsetY _ => .flatMap fun offsetX _ => ?_
    split
    · exact .nil
    · exact sameDraw_drawTextStringAtlas hsized base base' ..
  · exact .nil

theorem sameDraw_drawImageNearestAlpha (x y : Int32)
    (drawWidth drawHeight sourceWidth sourceHeight : UInt32) (pixels alpha : List UInt8) :
    SameDraw framebufferInfo base base'
      (drawImageNearestAlpha (framebufferInfo.withBase base) x y drawWidth drawHeight sourceWidth
        sourceHeight pixels alpha)
      (drawImageNearestAlpha (framebufferInfo.withBase base') x y drawWidth drawHeight sourceWidth
        sourceHeight pixels alpha) := by
  simp only [drawImageNearestAlpha]
  split
  · exact .nil
  refine .flatMap fun row _ => ?_
  split
  · exact .nil
  next hy =>
  refine .flatMap fun column _ => ?_
  split
  · exact .nil
  next hx =>
  refine (sameDraw_weightedFetches base base' ..).append ?_
  split
  · exact .nil
  refine .append (.flatMap fun _ _ => sameDraw_weightedFetches base base' ..) ?_
  exact sameDraw_blendPixel hsized base base' (lt_of_shown hx) (lt_of_shown hy) _ _

-- ---------------------------------------------------------------------------
-- The parts of the setup screen
-- ---------------------------------------------------------------------------

variable (header : GeneratedBitmap) (setupUiState : SetupUiState)

theorem sameDraw_drawSetupPanel :
    SameDraw framebufferInfo base base'
      (drawSetupPanel header (framebufferInfo.withBase base) setupUiState)
      (drawSetupPanel header (framebufferInfo.withBase base') setupUiState) :=
  (((sameDraw_drawRoundedBox hsized base base' _).append
    (sameDraw_drawGradientOutlinedTextAtlas hsized base base' ..)).append
      (sameDraw_drawImageNearestAlpha hsized base base' ..)).append
        (sameDraw_drawTextStringAtlas hsized base base' ..)

theorem sameDraw_drawButtonLabel (button : UiBox) (label : List UInt8) :
    SameDraw framebufferInfo base base'
      (drawButtonLabel header (framebufferInfo.withBase base) button label)
      (drawButtonLabel header (framebufferInfo.withBase base') button label) :=
  sameDraw_drawTextStringAtlas hsized base base' ..

theorem sameDraw_drawSetupButton (button : UiBox) (label : List UInt8) (hovered : Bool) :
    SameDraw framebufferInfo base base'
      (drawSetupButton header (framebufferInfo.withBase base) button label hovered)
      (drawSetupButton header (framebufferInfo.withBase base') button label hovered) :=
  (sameDraw_drawRoundedBox hsized base base' _).append
    (sameDraw_drawButtonLabel hsized base base' header button label)

theorem sameDraw_drawMouseHint :
    SameDraw framebufferInfo base base'
      (drawMouseHint header (framebufferInfo.withBase base) setupUiState)
      (drawMouseHint header (framebufferInfo.withBase base') setupUiState) := by
  simp only [drawMouseHint]
  split
  · exact sameDraw_drawTextString hsized base base' ..
  · exact .nil

theorem FramebufferInfo.Sized.toNat_count :
    (framebufferInfo.pixelsPerScanLine * framebufferInfo.screenHeight).toNat =
      framebufferInfo.count :=
  toNat_mul_of_lt hsized.count_lt

theorem applyAll_clearScreen (color : UInt32) (memory : Memory UInt32) :
    applyAll (clearScreen framebufferInfo color 0) memory a =
      if framebufferInfo.Owns a then color else memory a := by
  rw [clearScreen, if_neg (by simp), applyAll_fillPixels32, hsized.toNat_count]
  rfl

/-- The setup screen looks the same on every surface and over every memory. -/
theorem drawSetupScreen_agree (m m' : Memory UInt32) :
    Agree framebufferInfo.count base base'
      (applyAll (drawSetupScreen header (framebufferInfo.withBase base) setupUiState) m)
      (applyAll (drawSetupScreen header (framebufferInfo.withBase base') setupUiState) m') := by
  simp only [drawSetupScreen, applyAll_append]
  refine (sameDraw_drawMouseHint hsized base base' header setupUiState).agree ?_
  refine (sameDraw_drawSetupButton hsized base base' header ..).agree ?_
  refine (sameDraw_drawSetupButton hsized base base' header ..).agree ?_
  refine (sameDraw_drawSetupPanel hsized base base' header setupUiState).agree ?_
  intro i hi
  rw [applyAll_clearScreen (hsized.withBase base), applyAll_clearScreen (hsized.withBase base'),
    if_pos ⟨Nat.le_add_right _ _, Nat.add_lt_add_left hi _⟩,
    if_pos ⟨Nat.le_add_right _ _, Nat.add_lt_add_left hi _⟩]
  rfl

end

-- ---------------------------------------------------------------------------
-- Buttons
-- ---------------------------------------------------------------------------

section
variable {framebufferInfo : FramebufferInfo} (hsized : framebufferInfo.Sized)

theorem mem_written_drawRoundedBox {box : UiBox} :
    a ∈ written (drawRoundedBox framebufferInfo box) ↔
      ∃ row < box.height, ∃ column < box.width,
        ¬ (box.x + column ≥ framebufferInfo.screenWidth ∨
          box.y + row ≥ framebufferInfo.screenHeight) ∧
        pointInRoundedBox (box.x + column) (box.y + row) box ∧
        a = framebufferInfo.pixelAddress (box.y + row) (box.x + column) := by
  simp only [drawRoundedBox, mem_written_flatMap, mem_upTo]
  refine exists_congr fun row => and_congr_right fun _ => exists_congr fun column =>
    and_congr_right fun _ => ?_
  split
  next hout => simp [hout]
  next hin =>
  split
  next hbox => simp [hin, hbox, written, FramebufferInfo.storePixel, FramebufferInfo.offset,
    Effect.writes]
  next hbox => simp [hin, hbox]

/-- The words a button's box covers, whatever its colour. -/
def ButtonArea (framebufferInfo : FramebufferInfo) (button : UiBox) (a : Nat) : Prop :=
  a ∈ written (drawRoundedBox framebufferInfo button)

instance (framebufferInfo : FramebufferInfo) (button : UiBox) (a : Nat) :
    Decidable (ButtonArea framebufferInfo button a) := by
  unfold ButtonArea; infer_instance

theorem mem_written_buttonBox (hovered : Bool) :
    a ∈ written (drawRoundedBox framebufferInfo (buttonBox framebufferInfo button hovered)) ↔
      ButtonArea framebufferInfo button a := by
  rw [ButtonArea, mem_written_drawRoundedBox, mem_written_drawRoundedBox]
  rfl

theorem applyAll_drawRoundedBox (box : UiBox) (memory : Memory UInt32) :
    applyAll (drawRoundedBox framebufferInfo box) memory a =
      if ButtonArea framebufferInfo box a then box.color else memory a := by
  refine applyAll_stores (fun _ => box.color) (fun effect he => ?_) memory
  simp only [drawRoundedBox, List.mem_flatMap] at he
  obtain ⟨row, -, column, -, he⟩ := he
  split at he
  · cases he
  split at he
  · simp only [FramebufferInfo.storePixel, FramebufferInfo.offset, List.cons_append,
      List.nil_append, List.mem_cons, List.not_mem_nil, or_false] at he
    exact he.imp (fun h => ⟨_, h⟩) (fun h => ⟨_, h⟩)
  · cases he

/-- The glyph pixels of a label fall inside the area its button's box paints. -/
def LabelInside (header : GeneratedBitmap) (framebufferInfo : FramebufferInfo) (button : UiBox)
    (label : List UInt8) : Prop :=
  ∀ a ∈ written (drawButtonLabel header framebufferInfo button label),
    ButtonArea framebufferInfo button a

def buttonFace (header : GeneratedBitmap) (framebufferInfo : FramebufferInfo) (button : UiBox)
    (label : List UInt8) (hovered : Bool) : Memory UInt32 :=
  applyAll (drawSetupButton header framebufferInfo button label hovered) fun _ => 0

include hsized

theorem drawButtonLabel_inPlace (header : GeneratedBitmap) (button : UiBox) (label : List UInt8) :
    ∀ effect ∈ drawButtonLabel header framebufferInfo button label,
      ∀ a ∈ effect.reads, a ∈ effect.writes := fun effect he =>
  ((sameDraw_drawButtonLabel hsized framebufferInfo.framebuffer framebufferInfo.framebuffer header
    button label).inPlace effect he).1

/-- A button looks the same whatever it is drawn over, and covers its area only. -/
theorem applyAll_drawSetupButton {header : GeneratedBitmap}
    (hlabel : LabelInside header framebufferInfo button label) (hovered : Bool)
    (memory : Memory UInt32) :
    applyAll (drawSetupButton header framebufferInfo button label hovered) memory a =
      if ButtonArea framebufferInfo button a then
        buttonFace header framebufferInfo button label hovered a
      else memory a := by
  split
  next harea =>
    simp only [buttonFace, drawSetupButton, applyAll_append]
    -- The label reads only what the box has painted before it.
    refine applyAll_agree (S := ButtonArea framebufferInfo button) (fun effect he b hb => ?_)
      (fun b hb => ?_) (.inl harea)
    · exact hlabel b (mem_written.mpr ⟨effect, he, drawButtonLabel_inPlace hsized _ _ _ _ he b hb⟩)
    · have hbox : ButtonArea framebufferInfo (buttonBox framebufferInfo button hovered) b :=
        (mem_written_buttonBox hovered).mpr hb
      rw [applyAll_drawRoundedBox, applyAll_drawRoundedBox, if_pos hbox, if_pos hbox]
  next harea =>
    refine applyAll_frame (fun hin => harea ?_) memory
    rw [drawSetupButton, written_append, List.mem_append] at hin
    exact hin.elim (mem_written_buttonBox hovered).mp (hlabel a)

end

end DragonOS.Boot
