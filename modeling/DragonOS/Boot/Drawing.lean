import DragonOS.Boot.Pixel
import DragonOS.Lib.Effects

/-!
# Drawing primitives

Each primitive is the list of effects it has on memory, in source order. None
of them looks at a framebuffer word to decide what to do next, so the list
depends on the arguments and the generated tables alone. Two remarks make the
arithmetic inspectable: `offset` for each framebuffer index that is computed,
with its operands, and `fetch` for each read of a generated table.
-/

namespace DragonOS.Boot

open Lib

/-- `offset` marks the 32-bit index `y * pitch + x + step`, `fetch` a read at
`index` of a table with `length` entries. -/
inductive Remark
  | offset (y pitch x step : UInt32)
  | fetch (index length : Nat)
  deriving DecidableEq, Repr

abbrev Draw := Program UInt32 Remark

-- ---------------------------------------------------------------------------
-- The generated header
-- ---------------------------------------------------------------------------

/-- A glyph atlas as the builder emits it. The four atlases of the header all
start at character 32 and hold 95 glyphs; their cells are 24 by 32, 8 by 8,
72 by 96 and 40 by 56 pixels. -/
structure FontAtlas where
  firstChar : UInt32
  glyphCount : UInt32
  glyphWidth : UInt32
  glyphHeight : UInt32
  alpha : List UInt8
  advance : List UInt8
  alpha_length : alpha.length = glyphCount.toNat * glyphWidth.toNat * glyphHeight.toNat
  advance_length : advance.length = glyphCount.toNat

/-- A picture of 24-bit pixels. The builder holds them in one array, so there
are fewer than 2^31 bytes. -/
structure PixelTable where
  width : UInt32
  height : UInt32
  pixels : List UInt8
  pixels_length : pixels.length = width.toNat * height.toNat * 3
  pixels_lt : pixels.length < 2 ^ 31

structure AlphaPixelTable extends PixelTable where
  alpha : List UInt8
  alpha_length : alpha.length = width.toNat * height.toNat

/-- The tables of `generated_bitmap.h`; each has the length its declaration
gives it. -/
structure GeneratedBitmap where
  splash : PixelTable
  cursor : AlphaPixelTable
  setupIcon : AlphaPixelTable
  font : FontAtlas
  iconFont : FontAtlas
  setupTitleFont : FontAtlas
  setupUiFont : FontAtlas

abbrev GeneratedBitmap.cursorWidth (header : GeneratedBitmap) : UInt32 := header.cursor.width
abbrev GeneratedBitmap.cursorHeight (header : GeneratedBitmap) : UInt32 := header.cursor.height

-- ---------------------------------------------------------------------------
-- Words and pixels
-- ---------------------------------------------------------------------------

def fetch (table : List UInt8) (index : UInt32) : Draw :=
  [.note (.fetch index.toNat table.length)]

/-- The entry a read past the end would give never matters: every `fetch` is
in bounds. -/
def entry (table : List UInt8) (index : UInt32) : UInt8 := table.getD index.toNat 0

namespace FramebufferInfo

def pixelAddress (framebufferInfo : FramebufferInfo) (y x : UInt32) : Nat :=
  framebufferInfo.framebuffer + (y * framebufferInfo.pixelsPerScanLine + x).toNat

def offset (framebufferInfo : FramebufferInfo) (y x step : UInt32) : Draw :=
  [.note (.offset y framebufferInfo.pixelsPerScanLine x step)]

def storePixel (framebufferInfo : FramebufferInfo) (y x value : UInt32) : Draw :=
  framebufferInfo.offset y x 0 ++ [.store (framebufferInfo.pixelAddress y x) value]

/-- A store at `x` words past the start of a row whose index is computed first. -/
def storePixelInRow (framebufferInfo : FramebufferInfo) (y startX x value : UInt32) : Draw :=
  framebufferInfo.offset y startX x ++
    [.store (framebufferInfo.framebuffer +
      (y * framebufferInfo.pixelsPerScanLine + startX + x).toNat) value]

def blendPixel (framebufferInfo : FramebufferInfo) (y x : UInt32) (color : Rgb) (alpha : UInt8) :
    Draw :=
  framebufferInfo.offset y x 0 ++
    [.modify (framebufferInfo.pixelAddress y x) fun pixel =>
      alphaBlendPixel framebufferInfo pixel color alpha]

end FramebufferInfo

/-- The loops `fillPixels32` and `copyPixels32` share: when the pointers allow
it, `pair` handles two words at once, eight pairs a turn and then the pairs
left over; `single` handles the words that remain. -/
def transferPixels32 (aligned : Prop) [Decidable aligned] (pair single : UInt32 → Effect UInt32 Remark)
    (count : UInt32) : Draw :=
  if aligned then
    let pairCount := count >>> 1
    let bulkPairCount := pairCount &&& ~~~7
    ((upTo (bulkPairCount / 8)).flatMap fun turn => (upTo 8).map fun k => pair (8 * turn + k)) ++
      (fromTo bulkPairCount pairCount).map pair ++ (fromTo (pairCount <<< 1) count).map single
  else (upTo count).map single

/-- A word address is even exactly when the byte address is a multiple of
eight. -/
def fillPixels32 (destination : Nat) (count color : UInt32) : Draw :=
  transferPixels32 (destination % 2 = 0)
    (fun pairIndex => .storePair (destination + 2 * pairIndex.toNat) color)
    (fun index => .store (destination + index.toNat) color) count

def copyPixels32 (destination source : Nat) (count : UInt32) : Draw :=
  transferPixels32 (destination % 2 = 0 ∧ source % 2 = 0)
    (fun pairIndex =>
      .copyPair (destination + 2 * pairIndex.toNat) (source + 2 * pairIndex.toNat))
    (fun index => .copy (destination + index.toNat) (source + index.toNat)) count

-- ---------------------------------------------------------------------------
-- Rectangles
-- ---------------------------------------------------------------------------

def clearScreen (framebufferInfo : FramebufferInfo) (color : UInt32) (ignoreBlackPixels : UInt8) :
    Draw :=
  if ignoreBlackPixels ≠ 0 ∧ color = 0 then []
  else
    fillPixels32 framebufferInfo.framebuffer
      (framebufferInfo.pixelsPerScanLine * framebufferInfo.screenHeight) color

def clearRect (framebufferInfo : FramebufferInfo) (x y width height color : UInt32) : Draw :=
  if x ≥ framebufferInfo.screenWidth ∨ y ≥ framebufferInfo.screenHeight then []
  else
    let maxWidth := framebufferInfo.screenWidth - x
    let maxHeight := framebufferInfo.screenHeight - y
    let width := if width > maxWidth then maxWidth else width
    let height := if height > maxHeight then maxHeight else height
    (upTo height).flatMap fun row =>
      framebufferInfo.offset (y + row) x 0 ++
        fillPixels32 (framebufferInfo.pixelAddress (y + row) x) width color

def blitSurfaceRect (destination source : FramebufferInfo) (x y width height : UInt32) : Draw :=
  if destination.framebuffer = 0 ∨ source.framebuffer = 0 then []
  else if x ≥ destination.screenWidth ∨ y ≥ destination.screenHeight ∨
      x ≥ source.screenWidth ∨ y ≥ source.screenHeight then []
  else
    let maxWidth := destination.screenWidth - x
    let maxWidth := if source.screenWidth - x < maxWidth then source.screenWidth - x else maxWidth
    let maxHeight := destination.screenHeight - y
    let maxHeight :=
      if source.screenHeight - y < maxHeight then source.screenHeight - y else maxHeight
    let width := if width > maxWidth then maxWidth else width
    let height := if height > maxHeight then maxHeight else height
    (upTo height).flatMap fun row =>
      destination.offset (y + row) x 0 ++ source.offset (y + row) x 0 ++
        copyPixels32 (destination.pixelAddress (y + row) x) (source.pixelAddress (y + row) x) width

structure UiBox where
  x : UInt32
  y : UInt32
  width : UInt32
  height : UInt32
  radius : UInt32
  color : UInt32
  deriving DecidableEq, Repr

def pointInRoundedBox (x y : UInt32) (box : UiBox) : Bool :=
  if x < box.x ∨ y < box.y ∨ x ≥ box.x + box.width ∨ y ≥ box.y + box.height then false
  else
    let radius := box.radius.toInt32
    if radius ≤ 0 then true
    else
      let localX := (x - box.x).toInt32
      let localY := (y - box.y).toInt32
      if localX.toUInt32 ≥ box.radius ∧ localX.toUInt32 < box.width - box.radius then true
      else if localY.toUInt32 ≥ box.radius ∧ localY.toUInt32 < box.height - box.radius then true
      else
        let dx :=
          if localX < radius then radius - 1 - localX else localX - (box.width.toInt32 - radius)
        let dy :=
          if localY < radius then radius - 1 - localY else localY - (box.height.toInt32 - radius)
        dx * dx + dy * dy < radius * radius

def drawRoundedBox (framebufferInfo : FramebufferInfo) (box : UiBox) : Draw :=
  (upTo box.height).flatMap fun row =>
    (upTo box.width).flatMap fun column =>
      let pixelX := box.x + column
      let pixelY := box.y + row
      if pixelX ≥ framebufferInfo.screenWidth ∨ pixelY ≥ framebufferInfo.screenHeight then []
      else if pointInRoundedBox pixelX pixelY box then
        framebufferInfo.storePixel pixelY pixelX box.color
      else []

-- ---------------------------------------------------------------------------
-- Glyphs
-- ---------------------------------------------------------------------------

/-- The loops over the cells of one glyph that `drawGlyph`, `drawGlyphAtlas` and
`drawIconGlyph` share. -/
def drawGlyphCells (framebufferInfo : FramebufferInfo) (x y : Int32) (color : Rgb)
    (glyphIndex glyphWidth glyphHeight : UInt32) (glyphAlpha : List UInt8) : Draw :=
  (upTo glyphHeight).flatMap fun row =>
    let pixelY := y + row.toInt32
    if pixelY < 0 ∨ pixelY ≥ framebufferInfo.screenHeight.toInt32 then []
    else
      (upTo glyphWidth).flatMap fun column =>
        let pixelX := x + column.toInt32
        if pixelX < 0 ∨ pixelX ≥ framebufferInfo.screenWidth.toInt32 then []
        else
          let alphaIndex := glyphIndex * glyphWidth * glyphHeight + row * glyphWidth + column
          let alpha := entry glyphAlpha alphaIndex
          fetch glyphAlpha alphaIndex ++
            if alpha = 0 then []
            else framebufferInfo.blendPixel pixelY.toUInt32 pixelX.toUInt32 color alpha

def drawGlyphAtlas (framebufferInfo : FramebufferInfo) (x y : Int32) (glyph : UInt8) (color : Rgb)
    (firstChar glyphCount glyphWidth glyphHeight : UInt32) (glyphAlpha : List UInt8) : Draw :=
  if glyph.toUInt32 < firstChar ∨ glyph.toUInt32 ≥ firstChar + glyphCount then []
  else
    drawGlyphCells framebufferInfo x y color (glyph.toUInt32 - firstChar) glyphWidth glyphHeight
      glyphAlpha

section
variable (header : GeneratedBitmap)

def drawGlyph (framebufferInfo : FramebufferInfo) (x y : Int32) (glyph : UInt8) (color : Rgb) :
    Draw :=
  if glyph.toUInt32 < header.font.firstChar ∨
      glyph.toUInt32 ≥ header.font.firstChar + header.font.glyphCount then []
  else
    drawGlyphCells framebufferInfo x y color (glyph.toUInt32 - header.font.firstChar)
      header.font.glyphWidth header.font.glyphHeight header.font.alpha

def drawIconGlyph (framebufferInfo : FramebufferInfo) (x y : Int32) (glyph : UInt8) (color : Rgb) :
    Draw :=
  if glyph.toUInt32 < header.iconFont.firstChar ∨
      glyph.toUInt32 ≥ header.iconFont.firstChar + header.iconFont.glyphCount then []
  else
    drawGlyphCells framebufferInfo x y color (glyph.toUInt32 - header.iconFont.firstChar)
      header.iconFont.glyphWidth header.iconFont.glyphHeight header.iconFont.alpha

def drawGlyphScaled (framebufferInfo : FramebufferInfo) (x y : Int32) (glyph : UInt8) (color : Rgb)
    (scale : UInt32) : Draw :=
  if scale = 0 ∨ glyph.toUInt32 < header.font.firstChar ∨
      glyph.toUInt32 ≥ header.font.firstChar + header.font.glyphCount then []
  else
    let glyphIndex := glyph.toUInt32 - header.font.firstChar
    (upTo header.font.glyphHeight).flatMap fun row =>
      (upTo header.font.glyphWidth).flatMap fun column =>
        let alphaIndex := glyphIndex * header.font.glyphWidth * header.font.glyphHeight +
          row * header.font.glyphWidth + column
        let alpha := entry header.font.alpha alphaIndex
        fetch header.font.alpha alphaIndex ++
          if alpha = 0 then []
          else
            (upTo scale).flatMap fun scaleY =>
              let pixelY := y + (row * scale + scaleY).toInt32
              if pixelY < 0 ∨ pixelY ≥ framebufferInfo.screenHeight.toInt32 then []
              else
                (upTo scale).flatMap fun scaleX =>
                  let pixelX := x + (column * scale + scaleX).toInt32
                  if pixelX < 0 ∨ pixelX ≥ framebufferInfo.screenWidth.toInt32 then []
                  else framebufferInfo.blendPixel pixelY.toUInt32 pixelX.toUInt32 color alpha

end

-- ---------------------------------------------------------------------------
-- Images
-- ---------------------------------------------------------------------------

/-- The two source positions along one axis and the weight of the second one,
in 256ths. -/
structure Sample where
  first : UInt32
  next : UInt32
  blend : UInt32

def samplePosition (position drawSize sourceSize : UInt32) : Sample :=
  let fixed := if drawSize > 1 then (position * (sourceSize - 1) * 256) / (drawSize - 1) else 0
  let first := fixed >>> 8
  { first, next := if first + 1 < sourceSize then first + 1 else first, blend := fixed &&& 0xFF }

/-- The sum of four table entries under the weights of the two axes; `scale`
and `channel` select a byte of each pixel. -/
def weightedSum (table : List UInt8) (sourceWidth scale channel : UInt32) (column row : Sample) :
    UInt32 :=
  let at_ (y x : UInt32) : UInt32 :=
    (entry table ((y * sourceWidth + x) * scale + channel)).toUInt32
  at_ row.first column.first * ((256 - column.blend) * (256 - row.blend)) +
    at_ row.first column.next * (column.blend * (256 - row.blend)) +
    at_ row.next column.first * ((256 - column.blend) * row.blend) +
    at_ row.next column.next * (column.blend * row.blend)

def weightedFetches (table : List UInt8) (sourceWidth scale channel : UInt32)
    (column row : Sample) : Draw :=
  [(row.first, column.first), (row.first, column.next), (row.next, column.first),
    (row.next, column.next)].flatMap fun (y, x) =>
      fetch table ((y * sourceWidth + x) * scale + channel)

def roundedByte (sum : UInt32) : UInt8 := ((sum + 32768) >>> 16).toUInt8

def drawImageNearestAlpha (framebufferInfo : FramebufferInfo) (x y : Int32)
    (drawWidth drawHeight sourceWidth sourceHeight : UInt32) (pixels alpha : List UInt8) : Draw :=
  if drawWidth = 0 ∨ drawHeight = 0 ∨ sourceWidth = 0 ∨ sourceHeight = 0 then []
  else
    (upTo drawHeight).flatMap fun row =>
      let sampleY := samplePosition row drawHeight sourceHeight
      let pixelY := y + row.toInt32
      if pixelY < 0 ∨ pixelY ≥ framebufferInfo.screenHeight.toInt32 then []
      else
        (upTo drawWidth).flatMap fun column =>
          let sampleX := samplePosition column drawWidth sourceWidth
          let pixelX := x + column.toInt32
          if pixelX < 0 ∨ pixelX ≥ framebufferInfo.screenWidth.toInt32 then []
          else
            let sourceAlpha := roundedByte (weightedSum alpha sourceWidth 1 0 sampleX sampleY)
            weightedFetches alpha sourceWidth 1 0 sampleX sampleY ++
              if sourceAlpha = 0 then []
              else
                let channel := fun k => roundedByte (weightedSum pixels sourceWidth 3 k sampleX sampleY)
                ([0, 1, 2].flatMap fun k => weightedFetches pixels sourceWidth 3 k sampleX sampleY) ++
                  framebufferInfo.blendPixel pixelY.toUInt32 pixelX.toUInt32
                    ⟨channel 0, channel 1, channel 2⟩ sourceAlpha

structure SplashRect where
  startX : UInt32
  startY : UInt32
  drawWidth : UInt32
  drawHeight : UInt32

section
variable (header : GeneratedBitmap)

def computeSplashRect (framebufferInfo : FramebufferInfo) (scale1024 : UInt32) : SplashRect :=
  let drawWidth := (header.splash.width * scale1024) / 1024
  let drawHeight := (header.splash.height * scale1024) / 1024
  let drawWidth :=
    if drawWidth > framebufferInfo.screenWidth then framebufferInfo.screenWidth else drawWidth
  let drawHeight :=
    if drawHeight > framebufferInfo.screenHeight then framebufferInfo.screenHeight else drawHeight
  if drawWidth = 0 ∨ drawHeight = 0 then { startX := 0, startY := 0, drawWidth, drawHeight }
  else
    { startX :=
        if framebufferInfo.screenWidth > drawWidth then
          (framebufferInfo.screenWidth - drawWidth) >>> 1
        else 0
      startY :=
        if framebufferInfo.screenHeight > drawHeight then
          (framebufferInfo.screenHeight - drawHeight) >>> 1
        else 0
      drawWidth
      drawHeight }

def drawSplashFrame (framebufferInfo : FramebufferInfo) (alpha : UInt8) (scale1024 : UInt32) :
    Draw :=
  let rect := computeSplashRect header framebufferInfo scale1024
  if rect.drawWidth = 0 ∨ rect.drawHeight = 0 then []
  else
    (upTo rect.drawHeight).flatMap fun y =>
      let sourceY := (y * header.splash.height) / rect.drawHeight
      let sourceRow := sourceY * header.splash.width * 3
      (upTo rect.drawWidth).flatMap fun x =>
        let sourceX := (x * header.splash.width) / rect.drawWidth
        let sourceIndex := sourceRow + sourceX * 3
        let channel := fun k =>
          blendChannelOverBlack (entry header.splash.pixels (sourceIndex + k)) alpha
        ([0, 1, 2].flatMap fun k => fetch header.splash.pixels (sourceIndex + k)) ++
          framebufferInfo.storePixelInRow (rect.startY + y) rect.startX x
            (framebufferInfo.compose ⟨channel 0, channel 1, channel 2⟩)

end

end DragonOS.Boot
