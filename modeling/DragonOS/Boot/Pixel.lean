import DragonOS.Boot.Framebuffer
import DragonOS.Lib.Words

/-!
# Pixel formats

Packing a colour into a framebuffer word, unpacking it, and blending. A shift
count is taken modulo 32, as the processor does. Two steps of the unpacking
can fail to return: looking for the lowest bit of an empty mask never ends,
and a full-width mask divides by zero. Those give `none`.
-/

namespace DragonOS.Boot

/-- The loop of `maskShift` from a given shift, for at most `fuel` more bits. -/
def maskShiftFrom (mask : UInt32) : (fuel : Nat) → UInt32 → Option UInt32
  | 0, _ => none
  | fuel + 1, shift =>
    if (mask >>> shift) &&& 1 = 0 then maskShiftFrom mask fuel (shift + 1) else some shift

/-- The position of the lowest set bit; without one the loop never ends. -/
def maskShift (mask : UInt32) : Option UInt32 := maskShiftFrom mask 32 0

/-- The loop of `maskWidth`; after 32 shifts the value is zero. -/
def countLowOnes : (fuel : Nat) → (value width : UInt32) → UInt32
  | 0, _, width => width
  | fuel + 1, value, width =>
    if value &&& 1 ≠ 0 then countLowOnes fuel (value >>> 1) (width + 1) else width

def maskWidth (mask shift : UInt32) : UInt32 := countLowOnes 32 (mask >>> shift) 0

def scaleChannel (channel mask : UInt32) : UInt32 :=
  if mask = 0 then 0
  else
    -- The mask has a set bit here, so `maskShift` returns.
    let shift := (maskShift mask).getD 0
    let width := maskWidth mask shift
    let maxValue := ((1 : UInt32) <<< width) - 1
    let scaled := (channel * maxValue + 127) / 255
    (scaled <<< shift) &&& mask

/-- `none` is the division by zero that a width of 32 leads to. -/
def expandChannel (channel width : UInt32) : Option UInt8 :=
  if width = 0 then some 0
  else
    let maxValue := ((1 : UInt32) <<< width) - 1
    if maxValue = 0 then none
    else
      let half : UInt32 := maxValue >>> 1
      some ((channel * 255 + half) / maxValue).toUInt8

structure Rgb where
  red : UInt8
  green : UInt8
  blue : UInt8
  deriving DecidableEq, Repr

def composePixel (color : Rgb) (pixelFormat redMask greenMask blueMask : UInt32) : UInt32 :=
  if pixelFormat = gopPixelRedGreenBlueReserved8Bit then
    color.red.toUInt32 ||| (color.green.toUInt32 <<< 8) ||| (color.blue.toUInt32 <<< 16)
  else if pixelFormat = gopPixelBlueGreenRedReserved8Bit then
    color.blue.toUInt32 ||| (color.green.toUInt32 <<< 8) ||| (color.red.toUInt32 <<< 16)
  else if pixelFormat = gopPixelBitMask then
    scaleChannel color.red.toUInt32 redMask ||| scaleChannel color.green.toUInt32 greenMask |||
      scaleChannel color.blue.toUInt32 blueMask
  else 0

def decomposePixel (pixel pixelFormat redMask greenMask blueMask : UInt32) : Option Rgb :=
  if pixelFormat = gopPixelRedGreenBlueReserved8Bit then
    some ⟨(pixel &&& 0xFF).toUInt8, ((pixel >>> 8) &&& 0xFF).toUInt8,
      ((pixel >>> 16) &&& 0xFF).toUInt8⟩
  else if pixelFormat = gopPixelBlueGreenRedReserved8Bit then
    some ⟨((pixel >>> 16) &&& 0xFF).toUInt8, ((pixel >>> 8) &&& 0xFF).toUInt8,
      (pixel &&& 0xFF).toUInt8⟩
  else if pixelFormat = gopPixelBitMask then do
    let redShift ← maskShift redMask
    let greenShift ← maskShift greenMask
    let blueShift ← maskShift blueMask
    let red ← expandChannel ((pixel &&& redMask) >>> redShift) (maskWidth redMask redShift)
    let green ←
      expandChannel ((pixel &&& greenMask) >>> greenShift) (maskWidth greenMask greenShift)
    let blue ← expandChannel ((pixel &&& blueMask) >>> blueShift) (maskWidth blueMask blueShift)
    some ⟨red, green, blue⟩
  else some ⟨0, 0, 0⟩

def FramebufferInfo.compose (framebufferInfo : FramebufferInfo) (color : Rgb) : UInt32 :=
  composePixel color framebufferInfo.pixelFormat framebufferInfo.redMask
    framebufferInfo.greenMask framebufferInfo.blueMask

def blendChannel (source destination alpha : UInt8) : UInt8 :=
  ((source.toUInt32 * alpha.toUInt32 + destination.toUInt32 * (255 - alpha.toUInt32) + 127) /
    255).toUInt8

def alphaBlendPixel (framebufferInfo : FramebufferInfo) (destinationPixel : UInt32) (color : Rgb)
    (alpha : UInt8) : Option UInt32 :=
  if alpha = 255 then some (framebufferInfo.compose color)
  else if alpha = 0 then some destinationPixel
  else do
    let destination ← decomposePixel destinationPixel framebufferInfo.pixelFormat
      framebufferInfo.redMask framebufferInfo.greenMask framebufferInfo.blueMask
    some (framebufferInfo.compose
      ⟨blendChannel color.red destination.red alpha,
        blendChannel color.green destination.green alpha,
        blendChannel color.blue destination.blue alpha⟩)

def blendChannelOverBlack (channel alpha : UInt8) : UInt8 :=
  ((channel.toUInt32 * alpha.toUInt32 + 127) / 255).toUInt8

def FramebufferInfo.BlendReturns (framebufferInfo : FramebufferInfo) : Prop :=
  ∀ pixel color alpha, (alphaBlendPixel framebufferInfo pixel color alpha).isSome

/-- Only the bit-mask format unpacks with loops and divisions. -/
theorem FramebufferInfo.blendReturns_of_format {framebufferInfo : FramebufferInfo}
    (h : framebufferInfo.pixelFormat ≠ gopPixelBitMask) : framebufferInfo.BlendReturns := by
  intro pixel color alpha
  simp only [alphaBlendPixel, decomposePixel, h, if_false]
  repeat' split
  all_goals rfl

end DragonOS.Boot
