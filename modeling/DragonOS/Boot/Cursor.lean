import DragonOS.Boot.Drawing

/-!
# The software cursor

The cursor keeps its picture as words ready to store and the background it
covers in `SavedPixels`, an array in memory like the framebuffers. The saved
rectangle is the cursor's, cut off at the right and bottom edge of the screen.
-/

namespace DragonOS.Boot

open Lib

/-- `savedPixels` is the address of the array; the picture is indexed like the
arrays of the source. -/
structure SoftwareCursor where
  x : UInt32
  y : UInt32
  savedWidth : UInt32
  savedHeight : UInt32
  visible : UInt8
  savedPixels : Nat
  resolvedPixels : UInt32 → UInt32
  opaqueMask : UInt32 → UInt8
  accumX : Int32
  accumY : Int32
  leftButtonDown : UInt8
  lastRawX : Int32
  lastRawY : Int32
  lastPixelX : Int32
  lastPixelY : Int32
  lastPollCount : UInt32
  deriving Inhabited

variable (header : GeneratedBitmap)

/-- The body of the inner loop of `initializeCursorSurface`. -/
def initializeCursorPixel (framebufferInfo : FramebufferInfo) (y : UInt32)
    (cursor : SoftwareCursor) (x : UInt32) : SoftwareCursor :=
  let cursorRow := y * header.cursorWidth
  let pixelRow := cursorRow * 3
  let pixelIndex := cursorRow + x
  let sourceIndex := pixelRow + x * 3
  let alpha := entry header.cursor.alpha pixelIndex
  if alpha = 0 then
    { cursor with
      opaqueMask := Function.update cursor.opaqueMask pixelIndex 0
      resolvedPixels := Function.update cursor.resolvedPixels pixelIndex 0 }
  else
    let channel := fun k =>
      blendChannelOverBlack (entry header.cursor.pixels (sourceIndex + k)) alpha
    { cursor with
      opaqueMask := Function.update cursor.opaqueMask pixelIndex 1
      resolvedPixels := Function.update cursor.resolvedPixels pixelIndex
        (framebufferInfo.compose ⟨channel 0, channel 1, channel 2⟩) }

def initializeCursorSurface (framebufferInfo : FramebufferInfo) (cursor : SoftwareCursor) :
    SoftwareCursor :=
  (upTo header.cursorHeight).foldl
    (fun cursor y =>
      (upTo header.cursorWidth).foldl (initializeCursorPixel header framebufferInfo y) cursor)
    cursor

/-- The rectangle `saveCursorBackground` settles on. -/
def SoftwareCursor.clip (framebufferInfo : FramebufferInfo) (cursor : SoftwareCursor) :
    SoftwareCursor :=
  { cursor with
    savedWidth :=
      if cursor.x + header.cursorWidth > framebufferInfo.screenWidth then
        framebufferInfo.screenWidth - cursor.x
      else header.cursorWidth
    savedHeight :=
      if cursor.y + header.cursorHeight > framebufferInfo.screenHeight then
        framebufferInfo.screenHeight - cursor.y
      else header.cursorHeight }

def copyBackground (framebufferInfo : FramebufferInfo) (cursor : SoftwareCursor) : Draw :=
  (upTo cursor.savedHeight).flatMap fun y =>
    framebufferInfo.offset (cursor.y + y) cursor.x 0 ++
      copyPixels32 (cursor.savedPixels + (y * header.cursorWidth).toNat)
        (framebufferInfo.pixelAddress (cursor.y + y) cursor.x) cursor.savedWidth

def saveCursorBackground (framebufferInfo : FramebufferInfo) (cursor : SoftwareCursor) :
    SoftwareCursor × Draw :=
  let cursor := cursor.clip header framebufferInfo
  (cursor, copyBackground header framebufferInfo cursor)

def drawCursor (framebufferInfo : FramebufferInfo) (cursor : SoftwareCursor) : Draw :=
  (upTo cursor.savedHeight).flatMap fun y =>
    let cursorRow := y * header.cursorWidth
    (upTo cursor.savedWidth).flatMap fun x =>
      let pixelIndex := cursorRow + x
      if cursor.opaqueMask pixelIndex = 0 then []
      else
        framebufferInfo.storePixelInRow (cursor.y + y) cursor.x x
          (cursor.resolvedPixels pixelIndex)

def copySavedPixels (framebufferInfo : FramebufferInfo) (cursor : SoftwareCursor) : Draw :=
  (upTo cursor.savedHeight).flatMap fun y =>
    framebufferInfo.offset (cursor.y + y) cursor.x 0 ++
      copyPixels32 (framebufferInfo.pixelAddress (cursor.y + y) cursor.x)
        (cursor.savedPixels + (y * header.cursorWidth).toNat) cursor.savedWidth

def restoreCursorBackground (framebufferInfo : FramebufferInfo) (cursor : SoftwareCursor) :
    SoftwareCursor × Draw :=
  if cursor.visible = 0 then (cursor, [])
  else ({ cursor with visible := 0 }, copySavedPixels header framebufferInfo cursor)

/-- Draws the cursor over the shadow's pixels, by way of the compose surface
when that is a surface of its own. -/
def blitCursorComposite (destinationFramebufferInfo shadowFramebufferInfo
    composeFramebufferInfo : FramebufferInfo) (cursor : SoftwareCursor) : SoftwareCursor × Draw :=
  let (cursor, save) := saveCursorBackground header shadowFramebufferInfo cursor
  let draw :=
    if composeFramebufferInfo.framebuffer ≠ 0 ∧
        composeFramebufferInfo.framebuffer ≠ destinationFramebufferInfo.framebuffer ∧
        composeFramebufferInfo.framebuffer ≠ shadowFramebufferInfo.framebuffer then
      copySavedPixels header composeFramebufferInfo cursor ++
        drawCursor header composeFramebufferInfo cursor ++
        blitSurfaceRect destinationFramebufferInfo composeFramebufferInfo cursor.x cursor.y
          cursor.savedWidth cursor.savedHeight
    else drawCursor header destinationFramebufferInfo cursor
  ({ cursor with visible := 1 }, save ++ draw)

end DragonOS.Boot
