import DragonOS.Boot.ExitBoot
import DragonOS.Boot.OnScreen
import DragonOS.Boot.Pci
import DragonOS.Boot.Setup
import DragonOS.Build.ConsoleText

/-!
# The kernel's status screen

The screen is a column of text blocks that is laid out twice. The first pass adds
up the heights of the blocks and scrolls the column up if it is too long; the second
draws them. The passes count an empty block differently: it takes the gap below a
block in the first, and nothing in the second.
-/

namespace DragonOS.Boot

open Lib

-- ---------------------------------------------------------------------------
-- Numbers in texts
-- ---------------------------------------------------------------------------

def decimalDigits (magnitude : Nat) : List UInt8 :=
  if magnitude = 0 then [] else decimalDigits (magnitude / 10) ++ [UInt8.ofNat (48 + magnitude % 10)]

/-- The functions that append to a text give the bytes that they append. -/
def appendInt (value : Int32) : List UInt8 :=
  if value = 0 then text "0"
  else if value < 0 then text "-" ++ decimalDigits (-value).toUInt32.toNat
  else decimalDigits value.toUInt32.toNat

def appendUIntHexFixed (value digits : UInt32) : List UInt8 :=
  (upTo digits).map fun index =>
    let shift := (digits - 1 - index) * 4
    let nibble := (value >>> shift) &&& 0xF
    (if nibble < 10 then 48 + nibble else 65 + (nibble - 10)).toUInt8

-- ---------------------------------------------------------------------------
-- Blocks of text
-- ---------------------------------------------------------------------------

def countTextLines (text : List UInt8) : UInt32 :=
  if text = [] then 0
  else text.foldl (fun lines c => if c = newline then lines + 1 else lines) 1

def countIconTextLines (text : List UInt8) : UInt32 := countTextLines text

section
variable (header : GeneratedBitmap) (framebufferInfo : FramebufferInfo)

def drawIconTextString (x y : Int32) (text : List UInt8) (color : Rgb) : Draw :=
  (layoutText x header.iconFont.glyphHeight.toInt32 (header.iconFont.glyphAdvance 4) x y
    text).flatMap fun (cursorX, y, glyph) =>
      drawIconGlyph header framebufferInfo cursorX y glyph color

def advanceConsoleBlockY (y : Int32) (text : List UInt8) : Int32 :=
  y + (countTextLines text * header.font.glyphHeight).toInt32 + 5

def advanceIconConsoleBlockY (y : Int32) (text : List UInt8) : Int32 :=
  y + (countIconTextLines text * header.iconFont.glyphHeight).toInt32 + 5

/-- The result and what is drawn. -/
def drawConsoleBlock (x y : Int32) (text : List UInt8) : Int32 × Draw :=
  if text = [] then (y, [])
  else
    let lines := countTextLines text
    (y + (lines * header.font.glyphHeight).toInt32 + 5,
      drawTextString header framebufferInfo x y text ⟨255, 255, 255⟩)

def drawIconConsoleBlock (x y : Int32) (text : List UInt8) : Int32 × Draw :=
  if text = [] then (y, [])
  else
    let lines := countIconTextLines text
    (y + (lines * header.iconFont.glyphHeight).toInt32 + 5,
      drawIconTextString header framebufferInfo x y text ⟨255, 255, 255⟩)

end

inductive ConsoleBlock
  | console (text : List UInt8)
  | icon (text : List UInt8)
  deriving DecidableEq, Repr

namespace ConsoleBlock

variable (header : GeneratedBitmap) (framebufferInfo : FramebufferInfo)

def text : ConsoleBlock → List UInt8
  | .console text => text
  | .icon text => text

def advance (y : Int32) : ConsoleBlock → Int32
  | .console text => advanceConsoleBlockY header y text
  | .icon text => advanceIconConsoleBlockY header y text

def draw (y : Int32) : ConsoleBlock → Int32 × Draw
  | .console text => drawConsoleBlock header framebufferInfo 16 y text
  | .icon text => drawIconConsoleBlock header framebufferInfo 16 y text

end ConsoleBlock

section
variable (header : GeneratedBitmap) (framebufferInfo : FramebufferInfo)

def advanceBlocks (y : Int32) (blocks : List ConsoleBlock) : Int32 :=
  blocks.foldl (ConsoleBlock.advance header) y

def drawBlocks : (cursorY : Int32) → List ConsoleBlock → Int32 × Draw
  | cursorY, [] => (cursorY, [])
  | cursorY, block :: rest =>
    let (cursorY, draw) := block.draw header framebufferInfo cursorY
    let (cursorY, drawRest) := drawBlocks cursorY rest
    (cursorY, draw ++ drawRest)

end

-- ---------------------------------------------------------------------------
-- The screen
-- ---------------------------------------------------------------------------

/-- The part of `KERNEL_BOOT_INFO` that the status screen shows. -/
structure StatusBootInfo extends KernelBootInfo where
  framebuffer : FramebufferInfo
  gpuCount : UInt64
  audioCount : UInt64
  pciDeviceCount : UInt64
  pciDevices : List PciDeviceInfo
  pciDevices_length : pciDevices.length = 32

structure ConsoleTexts where
  consoleIconText : List UInt8
  runtimeSummaryText : List UInt8
  runtimeVideoText : List UInt8
  runtimeRegistryText : List UInt8
  deriving DecidableEq, Repr

namespace StatusBootInfo

variable (bootInfo : StatusBootInfo)

def framebufferLine : List UInt8 :=
  text "Framebuffer " ++ appendInt bootInfo.framebuffer.screenWidth.toInt32 ++ text "x" ++
    appendInt bootInfo.framebuffer.screenHeight.toInt32 ++ text "  scan " ++
    appendInt bootInfo.framebuffer.pixelsPerScanLine.toInt32

def memoryLine : List UInt8 :=
  text "Memory descriptors " ++ appendInt bootInfo.memoryDescriptorCount.toUInt32.toInt32 ++
    text "  size " ++ appendInt bootInfo.memoryDescriptorSize.toUInt32.toInt32

def pciLine : List UInt8 :=
  text "PCI display adapters " ++ appendInt bootInfo.gpuCount.toUInt32.toInt32 ++
    text "  audio controllers " ++ appendInt bootInfo.audioCount.toUInt32.toInt32

def shownDevices : List PciDeviceInfo :=
  (List.range (min bootInfo.pciDeviceCount.toNat 8)).map (bootInfo.pciDevices.getD · default)

end StatusBootInfo

/-- The line of a device; both loops build it with the same statements. -/
def PciDeviceInfo.line (deviceInfo : PciDeviceInfo) : List UInt8 :=
  (if deviceInfo.kind = kernelPciKindGpu then text "GPU   " else text "AUDIO ") ++
    appendInt deviceInfo.segment.toUInt32.toInt32 ++ text ":" ++
    appendInt deviceInfo.bus.toUInt32.toInt32 ++ text ":" ++
    appendInt deviceInfo.device.toUInt32.toInt32 ++ text "." ++
    appendInt deviceInfo.function.toUInt32.toInt32 ++ text "  VEN " ++
    appendUIntHexFixed deviceInfo.vendorId.toUInt32 4 ++ text " DEV " ++
    appendUIntHexFixed deviceInfo.deviceId.toUInt32 4 ++ text " CLS " ++
    appendUIntHexFixed deviceInfo.classCode.toUInt32 2 ++
    appendUIntHexFixed deviceInfo.subclass.toUInt32 2

section
variable (bootInfo : StatusBootInfo) (texts : ConsoleTexts)

def measuredBlocks : List ConsoleBlock :=
  ([.console (text "root@dragon:~# neofetch"),
    .icon texts.consoleIconText,
    .console (text "Dragon OS Kernel Console"),
    .console (text "UEFI services exited. Framebuffer ownership handed to kernel."),
    .console texts.runtimeSummaryText,
    .console texts.runtimeVideoText,
    .console bootInfo.framebufferLine,
    .console bootInfo.memoryLine,
    .console bootInfo.pciLine,
    .console (text "Kernel init log"),
    .console (text "[ OK ] UEFI GOP framebuffer online"),
    .console (text "[INFO] native GPU/monitor driver pending"),
    .console (text "[ OK ] memory map captured"),
    .console (text "[ OK ] runtime registry preloaded"),
    .console (text "[ OK ] pci enumeration complete"),
    .console (text "Detected PCI devices")] : List ConsoleBlock) ++
  (bootInfo.shownDevices.map fun deviceInfo => .console deviceInfo.line) ++
  [.console (text "Runtime registry"),
    .console texts.runtimeRegistryText,
    .console (text "root@dragon:~# sudo <pending keyboard/input driver>")]

def drawnBlocks : List ConsoleBlock :=
  ([.console (text "root@dragon:~# neofetch"),
    .icon texts.consoleIconText,
    .console (text "Dragon OS Kernel Console"),
    .console (text "UEFI services exited. Framebuffer ownership handed to kernel."),
    .console texts.runtimeSummaryText,
    .console texts.runtimeVideoText,
    .console bootInfo.framebufferLine,
    .console bootInfo.memoryLine,
    .console bootInfo.pciLine,
    .console (text "Kernel init log"),
    .console (text "[ OK ] UEFI GOP framebuffer online"),
    .console (text "[INFO] native GPU/monitor driver pending"),
    .console (text "[ OK ] memory map captured"),
    .console (text "[ OK ] runtime registry preloaded"),
    .console (text "[ OK ] pci enumeration complete"),
    .console (text "Detected PCI devices")] : List ConsoleBlock) ++
  (bootInfo.shownDevices.map fun deviceInfo => .console deviceInfo.line) ++
  [.console (text "Runtime registry"),
    .console texts.runtimeRegistryText]

/-- The last call, whose result the screen does not use. -/
def lastBlock : ConsoleBlock :=
  .console (text "root@dragon:~# sudo <pending keyboard/input driver>")

variable (header : GeneratedBitmap)

def statusFinalY : Int32 := advanceBlocks header 16 (measuredBlocks bootInfo texts)

def statusBottomMargin : Int32 := bootInfo.framebuffer.screenHeight.toInt32 - 16

def statusStartY : Int32 :=
  let finalY := statusFinalY bootInfo texts header
  let bottomMargin := statusBottomMargin bootInfo
  if finalY > bottomMargin then 16 - (finalY - bottomMargin) else 16

def statusLastY : Int32 :=
  (drawBlocks header bootInfo.framebuffer (statusStartY bootInfo texts header)
    (drawnBlocks bootInfo texts)).1

def statusEndY : Int32 :=
  (lastBlock.draw header bootInfo.framebuffer (statusLastY bootInfo texts header)).1

def drawKernelStatusScreen : Draw :=
  clearScreen bootInfo.framebuffer (bootInfo.framebuffer.compose ⟨0, 0, 0⟩) 0 ++
    (drawBlocks header bootInfo.framebuffer (statusStartY bootInfo texts header)
      (drawnBlocks bootInfo texts)).2 ++
    (lastBlock.draw header bootInfo.framebuffer (statusLastY bootInfo texts header)).2

end

-- ---------------------------------------------------------------------------
-- Two passes
-- ---------------------------------------------------------------------------

section
variable (header : GeneratedBitmap) (framebufferInfo : FramebufferInfo)

theorem advanceConsoleBlockY_eq_iff (x y : Int32) (text : List UInt8) :
    advanceConsoleBlockY header y text = (drawConsoleBlock header framebufferInfo x y text).1 ↔
      text ≠ [] := by
  unfold advanceConsoleBlockY drawConsoleBlock
  split
  next h => simp [h, countTextLines]
  next h => exact iff_of_true rfl h

theorem advanceIconConsoleBlockY_eq_iff (x y : Int32) (text : List UInt8) :
    advanceIconConsoleBlockY header y text =
        (drawIconConsoleBlock header framebufferInfo x y text).1 ↔ text ≠ [] := by
  unfold advanceIconConsoleBlockY drawIconConsoleBlock
  split
  next h => simp [h, countIconTextLines, countTextLines]
  next h => exact iff_of_true rfl h

theorem ConsoleBlock.advance_eq (block : ConsoleBlock) (y : Int32) :
    block.advance header y = y + block.advance header 0 := by
  cases block with
  | console text => simp [advance, advanceConsoleBlockY, Int32.add_assoc]
  | icon text => simp [advance, advanceIconConsoleBlockY, Int32.add_assoc]

/-- The first pass counts a gap that the second leaves out for an empty block. -/
theorem ConsoleBlock.draw_fst (block : ConsoleBlock) (y : Int32) :
    (block.draw header framebufferInfo y).1 + (if block.text = [] then 5 else 0) =
      block.advance header y := by
  cases block with
  | console text =>
    by_cases h : text = []
    · simp [ConsoleBlock.text, draw, advance, drawConsoleBlock, advanceConsoleBlockY,
        countTextLines, h]
    · simp [ConsoleBlock.text, draw, advance, drawConsoleBlock, advanceConsoleBlockY, h]
  | icon text =>
    by_cases h : text = []
    · simp [ConsoleBlock.text, draw, advance, drawIconConsoleBlock, advanceIconConsoleBlockY,
        countIconTextLines, countTextLines, h]
    · simp [ConsoleBlock.text, draw, advance, drawIconConsoleBlock, advanceIconConsoleBlockY, h]

def emptyBlocks (blocks : List ConsoleBlock) : Nat := (blocks.map ConsoleBlock.text).count []

/-- The passes over the same blocks, from any two places: they move by the same
amount, but for the gaps of the empty blocks. -/
theorem drawBlocks_fst (blocks : List ConsoleBlock) (cursorY y : Int32) :
    (drawBlocks header framebufferInfo cursorY blocks).1 + 5 * Int32.ofNat (emptyBlocks blocks) +
        y = cursorY + advanceBlocks header y blocks := by
  induction blocks generalizing cursorY y with
  | nil => simp [drawBlocks, emptyBlocks, advanceBlocks]
  | cons block rest ih =>
    have hdraw := block.draw_fst header framebufferInfo cursorY
    have hrest := ih (block.draw header framebufferInfo cursorY).1 (block.advance header y)
    rw [block.advance_eq header cursorY] at hdraw
    rw [block.advance_eq header y] at hrest
    have hcount : Int32.ofNat (emptyBlocks (block :: rest)) =
        Int32.ofNat (emptyBlocks rest) + if block.text = [] then 1 else 0 := by
      rw [emptyBlocks, List.map_cons, List.count_cons, Int32.ofNat_add, emptyBlocks]
      split <;> simp_all
    have hadvance : advanceBlocks header y (block :: rest) =
        advanceBlocks header (y + block.advance header 0) rest := by
      rw [advanceBlocks, List.foldl_cons, block.advance_eq header y, advanceBlocks]
    rw [hcount, hadvance]
    change (drawBlocks header framebufferInfo (block.draw header framebufferInfo cursorY).1
      rest).1 + _ + _ = _
    split at hdraw <;> grind

end

-- ---------------------------------------------------------------------------
-- The last line
-- ---------------------------------------------------------------------------

def ConsoleTexts.emptyTexts (texts : ConsoleTexts) : Nat :=
  [texts.consoleIconText, texts.runtimeSummaryText, texts.runtimeVideoText,
    texts.runtimeRegistryText].count []

def ConsoleTexts.NoneEmpty (texts : ConsoleTexts) : Prop :=
  texts.consoleIconText ≠ [] ∧ texts.runtimeSummaryText ≠ [] ∧ texts.runtimeVideoText ≠ [] ∧
    texts.runtimeRegistryText ≠ []

/-- The last block ends where the first pass has it, and not below the margin when
the column was scrolled. -/
def StatusScreenEnds (bootInfo : StatusBootInfo) (texts : ConsoleTexts)
    (header : GeneratedBitmap) : Prop :=
  statusEndY bootInfo texts header =
      statusStartY bootInfo texts header + (statusFinalY bootInfo texts header - 16) ∧
    (statusFinalY bootInfo texts header > statusBottomMargin bootInfo →
      statusEndY bootInfo texts header ≤ statusBottomMargin bootInfo)

section
variable (bootInfo : StatusBootInfo) (texts : ConsoleTexts) (header : GeneratedBitmap)

theorem measuredBlocks_eq :
    measuredBlocks bootInfo texts = drawnBlocks bootInfo texts ++ [lastBlock] := by
  simp [measuredBlocks, drawnBlocks, lastBlock]

theorem text_eq_nil_iff {literal : String} : text literal = [] ↔ literal = "" := by
  rw [text, List.map_eq_nil_iff, String.toList_eq_nil_iff]

theorem PciDeviceInfo.line_ne_nil (deviceInfo : PciDeviceInfo) : deviceInfo.line ≠ [] := by
  unfold PciDeviceInfo.line
  repeat refine List.append_ne_nil_of_left_ne_nil ?_ _
  split <;> exact text_eq_nil_iff.not.mpr (by decide)

theorem emptyBlocks_drawnBlocks :
    emptyBlocks (drawnBlocks bootInfo texts) = texts.emptyTexts := by
  have hdevices : (bootInfo.shownDevices.map PciDeviceInfo.line).count [] = 0 := by
    rw [List.count_eq_zero]
    rintro hmem
    obtain ⟨deviceInfo, -, hline⟩ := List.mem_map.mp hmem
    exact deviceInfo.line_ne_nil hline
  have hmap : (bootInfo.shownDevices.map fun deviceInfo =>
      ConsoleBlock.console deviceInfo.line).map ConsoleBlock.text =
        bootInfo.shownDevices.map PciDeviceInfo.line := List.map_map
  rw [emptyBlocks, drawnBlocks, List.map_append, List.map_append, List.count_append,
    List.count_append, hmap, hdevices]
  simp [List.count_cons, ConsoleBlock.text, ConsoleTexts.emptyTexts, text_eq_nil_iff,
    StatusBootInfo.framebufferLine, StatusBootInfo.memoryLine, StatusBootInfo.pciLine]
  omega

theorem ConsoleTexts.emptyTexts_eq_zero_iff : texts.emptyTexts = 0 ↔ texts.NoneEmpty := by
  simp only [ConsoleTexts.emptyTexts, ConsoleTexts.NoneEmpty, List.count_eq_zero]
  simp [eq_comm]

theorem ConsoleTexts.emptyTexts_le : texts.emptyTexts ≤ 4 := List.count_le_length

/-- The drawn column is shorter than the measured one by the gaps of the empty texts. -/
theorem statusEndY_add :
    statusEndY bootInfo texts header + 5 * Int32.ofNat texts.emptyTexts =
      statusStartY bootInfo texts header + (statusFinalY bootInfo texts header - 16) := by
  have hpasses := drawBlocks_fst header bootInfo.framebuffer (drawnBlocks bootInfo texts)
    (statusStartY bootInfo texts header) 16
  have hlast := lastBlock.draw_fst header bootInfo.framebuffer
    (statusLastY bootInfo texts header)
  have hfinal : statusFinalY bootInfo texts header =
      lastBlock.advance header (advanceBlocks header 16 (drawnBlocks bootInfo texts)) := by
    rw [statusFinalY, measuredBlocks_eq, advanceBlocks, List.foldl_append]
    rfl
  have htext : ¬ lastBlock.text = [] := text_eq_nil_iff.not.mpr (by decide)
  rw [if_neg htext, lastBlock.advance_eq, ← statusEndY] at hlast
  rw [lastBlock.advance_eq] at hfinal
  rw [emptyBlocks_drawnBlocks, ← statusLastY] at hpasses
  grind

theorem statusStartY_scrolled
    (h : statusFinalY bootInfo texts header > statusBottomMargin bootInfo) :
    statusStartY bootInfo texts header + (statusFinalY bootInfo texts header - 16) =
      statusBottomMargin bootInfo := by
  rw [statusStartY]
  simp only [h, if_true]
  grind

theorem statusScreenEnds_iff : StatusScreenEnds bootInfo texts header ↔ texts.NoneEmpty := by
  have hend := statusEndY_add bootInfo texts header
  rw [← ConsoleTexts.emptyTexts_eq_zero_iff]
  constructor
  · rintro ⟨hlast, -⟩
    have hle := texts.emptyTexts_le
    have hgaps : 5 * Int32.ofNat texts.emptyTexts = 0 := by grind
    have hnone : ∀ count : Nat, count ≤ 4 → 5 * Int32.ofNat count = 0 → count = 0 := by decide
    exact hnone _ hle hgaps
  · intro hnone
    rw [hnone] at hend
    have hlast : statusEndY bootInfo texts header =
        statusStartY bootInfo texts header + (statusFinalY bootInfo texts header - 16) := by
      rw [← hend]
      simp
    refine ⟨hlast, fun hscrolled => ?_⟩
    rw [hlast, statusStartY_scrolled bootInfo texts header hscrolled]
    exact Int32.le_refl _

theorem drawKernelStatusScreen_last :
    ∃ before, drawKernelStatusScreen bootInfo texts header = before ++
      drawTextString header bootInfo.framebuffer 16
        (statusEndY bootInfo texts header - 5 - header.font.glyphHeight.toInt32)
        lastBlock.text ⟨255, 255, 255⟩ := by
  have hlines : countTextLines lastBlock.text = 1 := by decide
  have hblock : lastBlock.draw header bootInfo.framebuffer (statusLastY bootInfo texts header) =
      (statusLastY bootInfo texts header + header.font.glyphHeight.toInt32 + 5,
        drawTextString header bootInfo.framebuffer 16 (statusLastY bootInfo texts header)
          lastBlock.text ⟨255, 255, 255⟩) := by
    have htext : ¬ lastBlock.text = [] := by decide
    change drawConsoleBlock header bootInfo.framebuffer 16 _ lastBlock.text = _
    rw [drawConsoleBlock, if_neg htext]
    simp only [hlines, UInt32.one_mul]
  have hlast : statusEndY bootInfo texts header - 5 - header.font.glyphHeight.toInt32 =
      statusLastY bootInfo texts header := by
    rw [statusEndY, hblock]
    grind
  rw [drawKernelStatusScreen, hblock, hlast]
  exact ⟨_, rfl⟩

end

/-- The passes agree on a block when its text is not empty, and on the screen when no
text of the header is. A blank icon file is the one way to an empty icon. -/
theorem statusScreen_passes_iff (header : GeneratedBitmap) :
    (∀ framebufferInfo x y text,
      advanceConsoleBlockY header y text = (drawConsoleBlock header framebufferInfo x y text).1 ↔
        text ≠ []) ∧
    (∀ framebufferInfo x y text,
      advanceIconConsoleBlockY header y text =
        (drawIconConsoleBlock header framebufferInfo x y text).1 ↔ text ≠ []) ∧
    ∀ bootInfo texts,
      (∃ before, drawKernelStatusScreen bootInfo texts header = before ++
        drawTextString header bootInfo.framebuffer 16
          (statusEndY bootInfo texts header - 5 - header.font.glyphHeight.toInt32)
          lastBlock.text ⟨255, 255, 255⟩) ∧
      (StatusScreenEnds bootInfo texts header ↔ texts.NoneEmpty) ∧
      ∀ file, StatusScreenEnds bootInfo
        { texts with
          consoleIconText := Build.cString (Build.asciiString (Build.loadConsoleIconText file)) }
        header ↔
        ¬ Build.BlankIconFile file ∧ texts.runtimeSummaryText ≠ [] ∧
          texts.runtimeVideoText ≠ [] ∧ texts.runtimeRegistryText ≠ [] := by
  refine ⟨advanceConsoleBlockY_eq_iff header, advanceIconConsoleBlockY_eq_iff header,
    fun bootInfo texts => ⟨drawKernelStatusScreen_last bootInfo texts header,
      statusScreenEnds_iff bootInfo texts header, fun file => ?_⟩⟩
  rw [statusScreenEnds_iff, ConsoleTexts.NoneEmpty, ne_eq, Build.cString_consoleIconText_eq_nil]

def vgaBootInfo : StatusBootInfo where
  toKernelBootInfo := default
  framebuffer := vgaScreen
  gpuCount := 0
  audioCount := 0
  pciDeviceCount := 0
  pciDevices := List.replicate 32 default
  pciDevices_length := rfl

/-- The builder's texts for an icon file of one line end and an empty package. -/
def blankIconTexts : ConsoleTexts where
  consoleIconText := Build.cString (Build.asciiString (Build.loadConsoleIconText (some [13, 10])))
  runtimeSummaryText := text "DLL:0 PNG:0 MP4:0"
  runtimeVideoText := text "MP4 metadata only: no video loaded"
  runtimeRegistryText := text "No runtime assets packaged."

/-- The passes part at the icon, and the column ends above where it was measured. -/
theorem statusScreen_blankIcon :
    advanceIconConsoleBlockY plainBitmap 53 blankIconTexts.consoleIconText = 58 ∧
      (drawIconConsoleBlock plainBitmap vgaScreen 16 53 blankIconTexts.consoleIconText).1 = 53 ∧
      ¬ StatusScreenEnds vgaBootInfo blankIconTexts plainBitmap := by
  refine ⟨by decide, by decide, fun hends => ?_⟩
  obtain ⟨hicon, -⟩ := (statusScreenEnds_iff vgaBootInfo blankIconTexts plainBitmap).mp hends
  exact hicon (by decide)

end DragonOS.Boot
