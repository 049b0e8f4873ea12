import DragonOS.Boot.ExitBoot
import DragonOS.Boot.Ps2
import DragonOS.Boot.Setup

/-!
# The kernel's mouse loop

`runKernelMouseLoop` draws the setup screen and then moves the cursor over it for
ever. What an iteration draws is decided by the cursor, the mouse and the setup
state alone (`Control`); no decision looks at a pixel. An iteration is therefore
the next control state together with the effects it has on memory.
-/

namespace DragonOS.Boot

open Lib

-- ---------------------------------------------------------------------------
-- The buffers
-- ---------------------------------------------------------------------------

/-- The part of `KERNEL_BOOT_INFO` the loop reads. A zero address is a buffer
that could not be had. -/
structure BootSurfaces where
  framebuffer : FramebufferInfo
  shadowFramebuffer : Nat
  composeFramebuffer : Nat

/-- What `AllocatePool` answers: a status, and the word address it stored. -/
structure SurfaceReply where
  status : EfiStatus
  buffer : Nat

def SurfaceReply.Obtained (reply : SurfaceReply) : Prop :=
  reply.status = efiSuccess ∧ reply.buffer ≠ 0

instance (reply : SurfaceReply) : Decidable reply.Obtained := by
  unfold SurfaceReply.Obtained; infer_instance

/-- The two allocations of `EfiMain`; the buffers it gets are filled at once. -/
def allocateSurfaces (framebufferInfo : FramebufferInfo)
    (shadowReply composeReply : SurfaceReply) : BootSurfaces × Draw :=
  let shadowPixelCount := framebufferInfo.pixelsPerScanLine * framebufferInfo.screenHeight
  let shadowFramebuffer := if shadowReply.Obtained then shadowReply.buffer else 0
  let composeFramebuffer := if composeReply.Obtained then composeReply.buffer else 0
  ({ framebuffer := framebufferInfo, shadowFramebuffer, composeFramebuffer },
    (if shadowReply.Obtained then
        copyPixels32 shadowFramebuffer framebufferInfo.framebuffer shadowPixelCount
      else []) ++
      (if composeReply.Obtained then
        if shadowFramebuffer ≠ 0 then
          copyPixels32 composeFramebuffer shadowFramebuffer shadowPixelCount
        else copyPixels32 composeFramebuffer framebufferInfo.framebuffer shadowPixelCount
      else []))

namespace BootSurfaces

variable (surfaces : BootSurfaces)

def shadowFramebufferInfo : FramebufferInfo :=
  if surfaces.shadowFramebuffer ≠ 0 ∧
      surfaces.shadowFramebuffer ≠ surfaces.framebuffer.framebuffer then
    surfaces.framebuffer.withBase surfaces.shadowFramebuffer
  else surfaces.framebuffer

def composeFramebufferInfo : FramebufferInfo :=
  if surfaces.composeFramebuffer ≠ 0 ∧
      surfaces.composeFramebuffer ≠ surfaces.framebuffer.framebuffer ∧
      surfaces.composeFramebuffer ≠ surfaces.shadowFramebufferInfo.framebuffer then
    surfaces.framebuffer.withBase surfaces.composeFramebuffer
  else surfaces.framebuffer.withBase 0

end BootSurfaces

-- ---------------------------------------------------------------------------
-- The loop
-- ---------------------------------------------------------------------------

structure Control where
  cursor : SoftwareCursor
  mouseState : Ps2MouseState
  setupUiState : SetupUiState
  port : Port

/-- The local variables on entry: whatever the stack holds, and the controller. -/
structure Locals where
  cursor : SoftwareCursor
  mouseState : Ps2MouseState
  controller : Controller

section
variable (header : GeneratedBitmap) (surfaces : BootSurfaces)

def startCursor (framebufferInfo : FramebufferInfo) (cursor : SoftwareCursor) : SoftwareCursor :=
  { cursor with
    x := clampCursorX header (framebufferInfo.screenWidth / 2).toInt32 framebufferInfo
    y := clampCursorY header (framebufferInfo.screenHeight / 2).toInt32 framebufferInfo
    savedWidth := 0
    savedHeight := 0
    visible := 0
    accumX := 0
    accumY := 0
    leftButtonDown := 0
    lastRawX := 0
    lastRawY := 0
    lastPixelX := 0
    lastPixelY := 0
    lastPollCount := 0 }

def startLoop (locals : Locals) : Control × Draw :=
  let framebufferInfo := surfaces.framebuffer
  let shadowFramebufferInfo := surfaces.shadowFramebufferInfo
  let composeFramebufferInfo := surfaces.composeFramebufferInfo
  let cursor :=
    initializeCursorSurface header framebufferInfo
      (startCursor header framebufferInfo locals.cursor)
  let ((mouseDetected, mouseState), controller) :=
    (initializePs2Mouse locals.mouseState).run locals.controller
  let setupUiState := initializeSetupUiState framebufferInfo mouseDetected
  let draw := drawSetupScreen header shadowFramebufferInfo setupUiState
  let show_ :=
    if shadowFramebufferInfo.framebuffer ≠ framebufferInfo.framebuffer then
      copyPixels32 framebufferInfo.framebuffer shadowFramebufferInfo.framebuffer
        (framebufferInfo.pixelsPerScanLine * framebufferInfo.screenHeight)
    else []
  let (cursor, composite) :=
    blitCursorComposite header framebufferInfo shadowFramebufferInfo composeFramebufferInfo cursor
  ({ cursor, mouseState, setupUiState, port := controller.port }, draw ++ show_ ++ composite)

def refreshHover (setupUiState : SetupUiState) (hoveredButton : UInt32) : SetupUiState × Draw :=
  let framebufferInfo := surfaces.framebuffer
  let shadowFramebufferInfo := surfaces.shadowFramebufferInfo
  if hoveredButton ≠ setupUiState.hoveredButton then
    let previousHoveredButton := setupUiState.hoveredButton
    let setupUiState := { setupUiState with hoveredButton }
    let install := setupUiState.installButton
    let try_ := setupUiState.tryButton
    (setupUiState,
      refreshSetupButtons header shadowFramebufferInfo setupUiState previousHoveredButton
          hoveredButton ++
        if shadowFramebufferInfo.framebuffer ≠ framebufferInfo.framebuffer then
          (if previousHoveredButton = 1 ∨ hoveredButton = 1 then
              blitSurfaceRect framebufferInfo shadowFramebufferInfo install.x install.y
                install.width install.height
            else []) ++
            (if previousHoveredButton = 2 ∨ hoveredButton = 2 then
              blitSurfaceRect framebufferInfo shadowFramebufferInfo try_.x try_.y try_.width
                try_.height
            else [])
        else [])
  else (setupUiState, [])

def Control.poll (control : Control) : PollResult :=
  updateCursorFromPs2Mouse header surfaces.framebuffer control.mouseState control.cursor
    control.port

def iterate (control : Control) : Control × Draw :=
  let framebufferInfo := surfaces.framebuffer
  let shadowFramebufferInfo := surfaces.shadowFramebufferInfo
  let composeFramebufferInfo := surfaces.composeFramebufferInfo
  let oldCursor := control.cursor
  let update := control.poll header surfaces
  if update.result ≠ 0 then
    let (cursor, erase) :=
      if oldCursor.visible ≠ 0 then
        ({ update.cursor with visible := 0 },
          blitSurfaceRect framebufferInfo shadowFramebufferInfo oldCursor.x oldCursor.y
            update.cursor.savedWidth update.cursor.savedHeight)
      else (update.cursor, [])
    let hoveredButton := hitTestSetupUi header control.setupUiState cursor
    let (setupUiState, refresh) := refreshHover header surfaces control.setupUiState hoveredButton
    let (cursor, composite) :=
      blitCursorComposite header framebufferInfo shadowFramebufferInfo composeFramebufferInfo cursor
    ({ cursor, mouseState := update.mouse, setupUiState, port := update.port },
      erase ++ refresh ++ composite)
  else
    ({ control with cursor := update.cursor, mouseState := update.mouse, port := update.port }, [])

/-- The control state and the memory after a number of iterations; `none` when a
drawing operation did not return. -/
def runKernelMouseLoop (locals : Locals) (memory : Memory UInt32) :
    (iterations : Nat) → Option (Control × Memory UInt32)
  | 0 =>
    let (control, draw) := startLoop header surfaces locals
    (runAll draw memory).map (control, ·)
  | iterations + 1 => do
    let (control, memory) ← runKernelMouseLoop locals memory iterations
    let (control, draw) := iterate header surfaces control
    (runAll draw memory).map (control, ·)

end

end DragonOS.Boot
