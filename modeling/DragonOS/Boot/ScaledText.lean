import DragonOS.Boot.Setup

/-!
# Scaled text

The text functions of the loader that enlarge the font by a whole factor. They
read a glyph before they look whether it is on the screen, and advance by a
32-bit product. At factor one they draw what the plain functions draw.
-/

namespace DragonOS.Boot

open Lib

section
variable (header : GeneratedBitmap)

def scaledAdvance (scale : UInt32) (glyph : UInt8) : Int32 :=
  if glyph.toUInt32 ≥ header.font.firstChar ∧
      glyph.toUInt32 < header.font.firstChar + header.font.glyphCount then
    ((entry header.font.advance (glyph.toUInt32 - header.font.firstChar)).toUInt32 *
      scale).toInt32
  else (8 * scale).toInt32

def drawTextStringScaled (framebufferInfo : FramebufferInfo) (x y : Int32) (text : List UInt8)
    (color : Rgb) (scale : UInt32) : Draw :=
  if scale = 0 then []
  else
    (layoutText x (header.font.glyphHeight * scale).toInt32 (scaledAdvance header scale) x y
      text).flatMap fun (cursorX, y, glyph) =>
        drawGlyphScaled header framebufferInfo cursorX y glyph color scale

def measureTextStringScaled (text : List UInt8) (scale : UInt32) : Int32 :=
  if scale = 0 then 0 else measureLines (scaledAdvance header scale) 0 0 text

def drawGradientOutlinedTextScaled (framebufferInfo : FramebufferInfo) (x y : Int32)
    (text : List UInt8) (scale : UInt32) (start stop : Rgb) (outlineThickness : UInt32) : Draw :=
  if scale = 0 then []
  else
    let totalWidth := measureTextStringScaled header text scale
    let thickness := outlineThickness.toInt32
    let outline :=
      if outlineThickness ≠ 0 then
        (signedFromTo (-thickness) thickness).flatMap fun offsetY =>
          (signedFromTo (-thickness) thickness).flatMap fun offsetX =>
            if offsetX = 0 ∧ offsetY = 0 then []
            else
              drawTextStringScaled header framebufferInfo (x + offsetX) (y + offsetY) text
                ⟨0, 0, 0⟩ scale
      else []
    let advance := scaledAdvance header scale
    outline ++
      (layoutText x (header.font.glyphHeight * scale).toInt32 advance x y text).flatMap
        fun (cursorX, y, glyph) =>
          let glyphCenter := cursorX - x + advance glyph / 2
          let progress1024 :=
            if totalWidth > 0 then (glyphCenter * 1024 / totalWidth).toUInt32 else 0
          let progress1024 := if progress1024 > 1024 then 1024 else progress1024
          drawGlyphScaled header framebufferInfo cursorX y glyph
            ⟨gradientChannel start.red stop.red progress1024,
              gradientChannel start.green stop.green progress1024,
              gradientChannel start.blue stop.blue progress1024⟩
            scale

end

-- ---------------------------------------------------------------------------
-- At factor one
-- ---------------------------------------------------------------------------

section
variable (header : GeneratedBitmap) (framebufferInfo : FramebufferInfo)

@[simp] theorem silent_fetch (table : List UInt8) (index : UInt32) :
    silent (fetch table index) = [] := rfl

theorem upTo_one : upTo 1 = [0] := rfl

/-- Both functions blend the same pixels in the same order. -/
theorem silent_drawGlyphScaled_one (x y : Int32) (glyph : UInt8) (color : Rgb) :
    silent (drawGlyphScaled header framebufferInfo x y glyph color 1) =
      silent (drawGlyph header framebufferInfo x y glyph color) := by
  unfold drawGlyphScaled drawGlyph drawGlyphCells
  have hone : ¬ (1 : UInt32) = 0 := by decide
  simp only [hone, false_or]
  split
  · rfl
  simp only [silent_flatMap]
  refine List.flatMap_congr fun row _ => ?_
  by_cases hy : y + row.toInt32 < 0 ∨ y + row.toInt32 ≥ framebufferInfo.screenHeight.toInt32
  · -- The scaled function looks at the row for each pixel.
    rw [if_pos hy, silent_nil, List.flatMap_eq_nil_iff]
    intro column _
    simp [upTo_one, hy]
  · simp only [hy, if_false, silent_flatMap]
    refine List.flatMap_congr fun column _ => ?_
    simp only [upTo_one, List.flatMap_cons, List.flatMap_nil, UInt32.mul_one, UInt32.add_zero, hy,
      if_false, List.append_nil]
    split <;> split <;> simp_all

theorem scaledAdvance_one : scaledAdvance header 1 = header.font.glyphAdvance 8 := by
  funext glyph
  simp [scaledAdvance, FontAtlas.glyphAdvance]

theorem silent_drawTextStringScaled_one (x y : Int32) (text : List UInt8) (color : Rgb) :
    silent (drawTextStringScaled header framebufferInfo x y text color 1) =
      silent (drawTextString header framebufferInfo x y text color) := by
  have hone : ¬ (1 : UInt32) = 0 := by decide
  rw [drawTextStringScaled, if_neg hone, drawTextString, scaledAdvance_one, UInt32.mul_one,
    silent_flatMap, silent_flatMap]
  exact List.flatMap_congr fun place _ =>
    silent_drawGlyphScaled_one header framebufferInfo place.1 place.2.1 place.2.2 color

/-- The renderers agree: scaled text at factor one is plain text, and a glyph of the
font's atlas is a plain glyph. -/
theorem glyphRenderers_agree (x y : Int32) (text : List UInt8) (color : Rgb) :
    (∀ memory : Memory UInt32,
      applyAll (drawTextStringScaled header framebufferInfo x y text color 1) memory =
          applyAll (drawTextString header framebufferInfo x y text color) memory ∧
        runAll (drawTextStringScaled header framebufferInfo x y text color 1) memory =
          runAll (drawTextString header framebufferInfo x y text color) memory) ∧
    ∀ glyph : UInt8,
      drawGlyphAtlas framebufferInfo x y glyph color header.font.firstChar header.font.glyphCount
          header.font.glyphWidth header.font.glyphHeight header.font.alpha =
        drawGlyph header framebufferInfo x y glyph color := by
  have hsame := silent_drawTextStringScaled_one header framebufferInfo x y text color
  refine ⟨fun memory => ⟨?_, ?_⟩, fun glyph => rfl⟩
  · rw [← applyAll_silent, hsame, applyAll_silent]
  · rw [← runAll_silent, hsame, runAll_silent]

end

end DragonOS.Boot
