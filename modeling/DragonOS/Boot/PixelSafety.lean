import DragonOS.Boot.PixelMask

/-!
# Pixels without undefined behaviour

The functions of `DragonOS.Boot.Pixel` once more, with every shift and every division
checked. The loop over a mask that has no set bit leaves with a shift by 32, and a mask
of 32 ones has a width that is too large to shift by. `scaleChannel` looks out for the
first and not for the second, `decomposePixel` for neither: `pixelFunctions_total_iff`.
-/

namespace DragonOS.Boot

open Lib

-- ---------------------------------------------------------------------------
-- The checked functions
-- ---------------------------------------------------------------------------

def shiftLeftChecked (value count : UInt32) : Option UInt32 :=
  if count < 32 then some (value <<< count) else none

def shiftRightChecked (value count : UInt32) : Option UInt32 :=
  if count < 32 then some (value >>> count) else none

def divideChecked (dividend divisor : UInt32) : Option UInt32 :=
  if divisor = 0 then none else some (dividend / divisor)

/-- The loop of `maskShift`. Thirty-three rounds are enough to reach a set bit or a
shift that is not allowed. -/
def maskShiftLoop (mask : UInt32) : (fuel : Nat) → UInt32 → Option UInt32
  | 0, _ => none
  | fuel + 1, shift =>
    match shiftRightChecked mask shift with
    | none => none
    | some value => if value &&& 1 = 0 then maskShiftLoop mask fuel (shift + 1) else some shift

def maskShiftChecked (mask : UInt32) : Option UInt32 := maskShiftLoop mask 33 0

/-- The loop of `maskWidth`; `none` is a loop that is still going. -/
def maskWidthLoop : (fuel : Nat) → (value width : UInt32) → Option UInt32
  | 0, _, _ => none
  | fuel + 1, value, width =>
    if value &&& 1 ≠ 0 then maskWidthLoop fuel (value >>> 1) (width + 1) else some width

def maskWidthChecked (mask shift : UInt32) : Option UInt32 := do
  let value ← shiftRightChecked mask shift
  maskWidthLoop 33 value 0

def scaleChannelChecked (channel mask : UInt32) : Option UInt32 :=
  if mask = 0 then some 0
  else do
    let shift ← maskShiftChecked mask
    let width ← maskWidthChecked mask shift
    let power ← shiftLeftChecked 1 width
    let maxValue := power - 1
    let scaled ← divideChecked (channel * maxValue + 127) 255
    let placed ← shiftLeftChecked scaled shift
    some (placed &&& mask)

def expandChannelChecked (channel width : UInt32) : Option UInt8 :=
  if width = 0 then some 0
  else do
    let power ← shiftLeftChecked 1 width
    let maxValue := power - 1
    let half : UInt32 := maxValue >>> 1
    let expanded ← divideChecked (channel * 255 + half) maxValue
    some expanded.toUInt8

def composePixelChecked (color : Rgb) (pixelFormat redMask greenMask blueMask : UInt32) :
    Option UInt32 :=
  if pixelFormat = gopPixelRedGreenBlueReserved8Bit then
    some (color.red.toUInt32 ||| (color.green.toUInt32 <<< 8) ||| (color.blue.toUInt32 <<< 16))
  else if pixelFormat = gopPixelBlueGreenRedReserved8Bit then
    some (color.blue.toUInt32 ||| (color.green.toUInt32 <<< 8) ||| (color.red.toUInt32 <<< 16))
  else if pixelFormat = gopPixelBitMask then do
    let red ← scaleChannelChecked color.red.toUInt32 redMask
    let green ← scaleChannelChecked color.green.toUInt32 greenMask
    let blue ← scaleChannelChecked color.blue.toUInt32 blueMask
    some (red ||| green ||| blue)
  else some 0

def channelChecked (pixel mask shift width : UInt32) : Option UInt8 := do
  let channel ← shiftRightChecked (pixel &&& mask) shift
  expandChannelChecked channel width

def decomposePixelChecked (pixel pixelFormat redMask greenMask blueMask : UInt32) : Option Rgb :=
  if pixelFormat = gopPixelRedGreenBlueReserved8Bit then
    some ⟨(pixel &&& 0xFF).toUInt8, ((pixel >>> 8) &&& 0xFF).toUInt8,
      ((pixel >>> 16) &&& 0xFF).toUInt8⟩
  else if pixelFormat = gopPixelBlueGreenRedReserved8Bit then
    some ⟨((pixel >>> 16) &&& 0xFF).toUInt8, ((pixel >>> 8) &&& 0xFF).toUInt8,
      (pixel &&& 0xFF).toUInt8⟩
  else if pixelFormat = gopPixelBitMask then do
    let redShift ← maskShiftChecked redMask
    let greenShift ← maskShiftChecked greenMask
    let blueShift ← maskShiftChecked blueMask
    let redWidth ← maskWidthChecked redMask redShift
    let greenWidth ← maskWidthChecked greenMask greenShift
    let blueWidth ← maskWidthChecked blueMask blueShift
    let red ← channelChecked pixel redMask redShift redWidth
    let green ← channelChecked pixel greenMask greenShift greenWidth
    let blue ← channelChecked pixel blueMask blueShift blueWidth
    some ⟨red, green, blue⟩
  else some ⟨0, 0, 0⟩

section
variable (framebufferInfo : FramebufferInfo)

def FramebufferInfo.composeChecked (color : Rgb) : Option UInt32 :=
  composePixelChecked color framebufferInfo.pixelFormat framebufferInfo.redMask
    framebufferInfo.greenMask framebufferInfo.blueMask

def FramebufferInfo.decomposeChecked (pixel : UInt32) : Option Rgb :=
  decomposePixelChecked pixel framebufferInfo.pixelFormat framebufferInfo.redMask
    framebufferInfo.greenMask framebufferInfo.blueMask

/-- The divisions of the blend are by 255. -/
def alphaBlendPixelChecked (destinationPixel : UInt32) (color : Rgb) (alpha : UInt8) :
    Option UInt32 :=
  if alpha = 255 then framebufferInfo.composeChecked color
  else if alpha = 0 then some destinationPixel
  else do
    let destination ← framebufferInfo.decomposeChecked destinationPixel
    framebufferInfo.composeChecked
      ⟨blendChannel color.red destination.red alpha,
        blendChannel color.green destination.green alpha,
        blendChannel color.blue destination.blue alpha⟩

end

-- ---------------------------------------------------------------------------
-- The loops
-- ---------------------------------------------------------------------------

theorem shiftLeftChecked_of_lt (value : UInt32) {count : UInt32} (h : count.toNat < 32) :
    shiftLeftChecked value count = some (value <<< count) := if_pos (UInt32.lt_iff_toNat_lt.mpr h)

theorem shiftRightChecked_of_lt (value : UInt32) {count : UInt32} (h : count.toNat < 32) :
    shiftRightChecked value count = some (value >>> count) := if_pos (UInt32.lt_iff_toNat_lt.mpr h)

/-- The loop makes the rounds of `maskShiftFrom`, and one more when none of them finds
a bit: the shift by 32. -/
theorem maskShiftLoop_eq (mask : UInt32) (fuel : Nat) {shift : UInt32}
    (h : shift.toNat + fuel = 32) :
    maskShiftLoop mask (fuel + 1) shift = maskShiftFrom mask fuel shift := by
  induction fuel generalizing shift with
  | zero =>
    have hnone : shiftRightChecked mask shift = none :=
      if_neg fun hlt => by
        have := UInt32.lt_iff_toNat_lt.mp hlt
        have hcount : (32 : UInt32).toNat = 32 := rfl
        omega
    rw [maskShiftLoop, hnone, maskShiftFrom]
  | succ fuel ih =>
    have hnext : (shift + 1).toNat = shift.toNat + 1 :=
      toNat_add_of_lt (by rw [UInt32.toNat_one]; omega)
    rw [maskShiftLoop, shiftRightChecked_of_lt mask (by omega), maskShiftFrom]
    simp only [ih (show (shift + 1).toNat + fuel = 32 by omega)]

theorem maskShiftChecked_eq (mask : UInt32) : maskShiftChecked mask = maskShift mask :=
  maskShiftLoop_eq mask 32 rfl

theorem maskWidthLoop_eq (fuel : Nat) {value width : UInt32} (h : value.toNat < 2 ^ fuel) :
    maskWidthLoop (fuel + 1) value width = some (countLowOnes fuel value width) := by
  induction fuel generalizing value width with
  | zero =>
    have hzero : value = 0 := UInt32.toNat_inj.mp (by rw [UInt32.toNat_zero]; omega)
    subst hzero
    rfl
  | succ fuel ih =>
    rw [maskWidthLoop, countLowOnes]
    rw [ih (by rw [toNat_shiftRight_one]; omega)]
    exact (apply_ite some _ _ _).symm

theorem maskWidthChecked_eq (mask : UInt32) {shift : UInt32} (h : shift.toNat < 32) :
    maskWidthChecked mask shift = some (maskWidth mask shift) := by
  rw [maskWidthChecked, shiftRightChecked_of_lt mask h]
  exact maskWidthLoop_eq 32 (UInt32.toNat_lt _)

-- ---------------------------------------------------------------------------
-- Masks that can be used
-- ---------------------------------------------------------------------------

def fullMask : UInt32 := 0xFFFFFFFF

/-- The mask has a set bit and a clear one. -/
def UsableMask (mask : UInt32) : Prop := mask ≠ 0 ∧ mask ≠ fullMask

instance : Decidable (UsableMask mask) := inferInstanceAs (Decidable (_ ∧ _))

theorem maskShift_maskWidth {mask : UInt32} (h : mask ≠ 0) :
    ∃ shift, maskShift mask = some shift ∧ shift.toNat < 32 ∧ maskWidth mask shift ≠ 0 ∧
      (mask ≠ fullMask → (maskWidth mask shift).toNat < 32) := by
  obtain ⟨i, hi, hshift, hset⟩ := maskShift_spec h
  obtain ⟨n, hn, hwidth, hones, hclear⟩ := maskWidth_spec mask hi
  have hvalue : (UInt32.ofNat i).toNat = i :=
    UInt32.toNat_ofNat_of_lt' (by rw [UInt32.size]; omega)
  refine ⟨UInt32.ofNat i, hshift, by rw [hvalue]; exact hi, fun hzero => ?_, fun hnotFull => ?_⟩
  · have hnone : n = 0 := by rw [← hwidth, hzero, UInt32.toNat_zero]
    rw [hnone, Nat.add_zero, hset] at hclear
    cases hclear
  · refine Nat.lt_of_not_le fun hge => hnotFull ?_
    rw [hwidth] at hge
    have hfirst : i = 0 := by omega
    subst hfirst
    refine UInt32.toNat_inj.mp (Nat.eq_of_testBit_eq fun j => ?_)
    show mask.toNat.testBit j = (2 ^ 32 - 1).testBit j
    rw [Nat.testBit_two_pow_sub_one]
    by_cases hj : j < 32
    · rw [decide_eq_true hj, ← hones j (by omega), Nat.zero_add]
    · rw [decide_eq_false hj, testBit_of_ge mask (by omega)]

theorem scaleChannelChecked_eq (channel : UInt32) {mask : UInt32} (h : mask ≠ fullMask) :
    scaleChannelChecked channel mask = some (scaleChannel channel mask) := by
  unfold scaleChannelChecked scaleChannel
  split
  · rfl
  next hzero =>
  obtain ⟨shift, hshift, hlt, -, hwidth⟩ := maskShift_maskWidth hzero
  have hdivisor : (255 : UInt32) ≠ 0 := by decide
  simp only [maskShiftChecked_eq, hshift, maskWidthChecked_eq mask hlt, divideChecked, hdivisor,
    if_false, shiftLeftChecked_of_lt _ hlt, shiftLeftChecked_of_lt _ (hwidth h),
    Option.bind_eq_bind, Option.bind_some, Option.getD_some]

theorem scaleChannelChecked_full (channel : UInt32) : scaleChannelChecked channel fullMask = none := by
  have hnonzero : fullMask ≠ 0 := by decide
  have hshift : maskShiftChecked fullMask = some 0 := by decide
  have hwidth : maskWidthChecked fullMask 0 = some 32 := by decide
  have hlarge : shiftLeftChecked 1 32 = none := by decide
  simp only [scaleChannelChecked, hnonzero, if_false, hshift, hwidth, hlarge, Option.bind_eq_bind,
    Option.bind_some, Option.bind_none]

theorem scaleChannelChecked_isSome_iff (channel mask : UInt32) :
    (scaleChannelChecked channel mask).isSome ↔ mask ≠ fullMask := by
  constructor
  · rintro h rfl
    rw [scaleChannelChecked_full] at h
    cases h
  · intro h
    rw [scaleChannelChecked_eq channel h]
    rfl

theorem expandChannelChecked_eq (channel : UInt32) {width : UInt32} (hlt : width.toNat < 32) :
    expandChannelChecked channel width = expandChannel channel width ∧
      (expandChannelChecked channel width).isSome := by
  unfold expandChannelChecked expandChannel
  split
  · exact ⟨rfl, rfl⟩
  next hzero =>
  have hpos : width.toNat ≠ 0 := fun h => hzero (UInt32.toNat_inj.mp h)
  have hmax : ((1 : UInt32) <<< width) - 1 ≠ 0 := fun h => by
    have htwo := Nat.pow_le_pow_right (show 0 < 2 by decide) (Nat.one_le_iff_ne_zero.mpr hpos)
    have hvalue := toNat_maxValue hlt
    rw [h, UInt32.toNat_zero] at hvalue
    omega
  simp only [shiftLeftChecked_of_lt _ hlt, divideChecked, hmax, if_false, Option.bind_eq_bind,
    Option.bind_some]
  exact ⟨trivial, rfl⟩

theorem channelChecked_eq (pixel mask : UInt32) {shift width : UInt32} (hshift : shift.toNat < 32)
    (hwidth : width.toNat < 32) :
    channelChecked pixel mask shift width = expandChannel ((pixel &&& mask) >>> shift) width ∧
      (channelChecked pixel mask shift width).isSome := by
  simp only [channelChecked, shiftRightChecked_of_lt _ hshift, Option.bind_eq_bind,
    Option.bind_some]
  exact expandChannelChecked_eq _ hwidth

theorem usableMask_of_channelChecked {mask shift width : UInt32}
    (hshift : maskShiftChecked mask = some shift) (hwidth : maskWidthChecked mask shift = some width)
    (hchannel : channelChecked pixel mask shift width = some channel) : UsableMask mask := by
  constructor
  · rintro rfl
    rw [maskShiftChecked_eq, maskShift_zero] at hshift
    cases hshift
  · rintro rfl
    have hzero : maskShiftChecked fullMask = some 0 := by decide
    cases hzero.symm.trans hshift
    have hall : maskWidthChecked fullMask 0 = some 32 := by decide
    cases hall.symm.trans hwidth
    have hlarge : shiftLeftChecked 1 32 = none := by decide
    have hwide : (32 : UInt32) ≠ 0 := by decide
    simp only [channelChecked, expandChannelChecked, hwide, if_false, hlarge, Option.bind_eq_bind,
      Option.bind_none, Option.bind_fun_none] at hchannel
    cases hchannel

-- ---------------------------------------------------------------------------
-- The pixel functions
-- ---------------------------------------------------------------------------

section
variable (redMask greenMask blueMask : UInt32)

theorem composePixelChecked_isSome_iff (color : Rgb) :
    (composePixelChecked color gopPixelBitMask redMask greenMask blueMask).isSome ↔
      redMask ≠ fullMask ∧ greenMask ≠ fullMask ∧ blueMask ≠ fullMask := by
  have hfirst : gopPixelBitMask ≠ gopPixelRedGreenBlueReserved8Bit := by decide
  have hsecond : gopPixelBitMask ≠ gopPixelBlueGreenRedReserved8Bit := by decide
  simp only [composePixelChecked, hfirst, hsecond, if_false, if_true, Option.bind_eq_bind]
  rw [← scaleChannelChecked_isSome_iff color.red.toUInt32 redMask,
    ← scaleChannelChecked_isSome_iff color.green.toUInt32 greenMask,
    ← scaleChannelChecked_isSome_iff color.blue.toUInt32 blueMask]
  cases scaleChannelChecked color.red.toUInt32 redMask with
  | none => simp
  | some red =>
    cases scaleChannelChecked color.green.toUInt32 greenMask with
    | none => simp
    | some green => cases scaleChannelChecked color.blue.toUInt32 blueMask <;> simp

theorem decomposePixelChecked_isSome_iff (pixel : UInt32) :
    (decomposePixelChecked pixel gopPixelBitMask redMask greenMask blueMask).isSome ↔
      UsableMask redMask ∧ UsableMask greenMask ∧ UsableMask blueMask := by
  have hfirst : gopPixelBitMask ≠ gopPixelRedGreenBlueReserved8Bit := by decide
  have hsecond : gopPixelBitMask ≠ gopPixelBlueGreenRedReserved8Bit := by decide
  simp only [decomposePixelChecked, hfirst, hsecond, if_false, if_true, Option.bind_eq_bind]
  constructor
  · intro h
    obtain ⟨color, hcolor⟩ := Option.isSome_iff_exists.mp h
    simp only [Option.bind_eq_some_iff] at hcolor
    obtain ⟨redShift, hredShift, greenShift, hgreenShift, blueShift, hblueShift, redWidth,
      hredWidth, greenWidth, hgreenWidth, blueWidth, hblueWidth, red, hred, green, hgreen, blue,
      hblue, -⟩ := hcolor
    exact ⟨usableMask_of_channelChecked hredShift hredWidth hred,
      usableMask_of_channelChecked hgreenShift hgreenWidth hgreen,
      usableMask_of_channelChecked hblueShift hblueWidth hblue⟩
  · rintro ⟨⟨hred, hredFull⟩, ⟨hgreen, hgreenFull⟩, hblue, hblueFull⟩
    obtain ⟨redShift, hredShift, hredLt, -, hredWidth⟩ := maskShift_maskWidth hred
    obtain ⟨greenShift, hgreenShift, hgreenLt, -, hgreenWidth⟩ := maskShift_maskWidth hgreen
    obtain ⟨blueShift, hblueShift, hblueLt, -, hblueWidth⟩ := maskShift_maskWidth hblue
    obtain ⟨red, hred⟩ := Option.isSome_iff_exists.mp
      (channelChecked_eq pixel redMask hredLt (hredWidth hredFull)).2
    obtain ⟨green, hgreen⟩ := Option.isSome_iff_exists.mp
      (channelChecked_eq pixel greenMask hgreenLt (hgreenWidth hgreenFull)).2
    obtain ⟨blue, hblue⟩ := Option.isSome_iff_exists.mp
      (channelChecked_eq pixel blueMask hblueLt (hblueWidth hblueFull)).2
    simp only [maskShiftChecked_eq, hredShift, hgreenShift, hblueShift, Option.bind_some,
      maskWidthChecked_eq redMask hredLt, maskWidthChecked_eq greenMask hgreenLt,
      maskWidthChecked_eq blueMask hblueLt, hred, hgreen, hblue, Option.isSome_some]

variable {redMask greenMask blueMask : UInt32}

theorem composePixelChecked_eq (hred : redMask ≠ fullMask) (hgreen : greenMask ≠ fullMask)
    (hblue : blueMask ≠ fullMask) (color : Rgb) (pixelFormat : UInt32) :
    composePixelChecked color pixelFormat redMask greenMask blueMask =
      some (composePixel color pixelFormat redMask greenMask blueMask) := by
  unfold composePixelChecked composePixel
  split
  · rfl
  split
  · rfl
  split
  · simp only [scaleChannelChecked_eq _ hred, scaleChannelChecked_eq _ hgreen,
      scaleChannelChecked_eq _ hblue, Option.bind_eq_bind, Option.bind_some]
  · rfl

theorem decomposePixelChecked_eq (hred : UsableMask redMask) (hgreen : UsableMask greenMask)
    (hblue : UsableMask blueMask) (pixel pixelFormat : UInt32) :
    decomposePixelChecked pixel pixelFormat redMask greenMask blueMask =
      decomposePixel pixel pixelFormat redMask greenMask blueMask := by
  obtain ⟨redShift, hredShift, hredLt, -, hredWidth⟩ := maskShift_maskWidth hred.1
  obtain ⟨greenShift, hgreenShift, hgreenLt, -, hgreenWidth⟩ := maskShift_maskWidth hgreen.1
  obtain ⟨blueShift, hblueShift, hblueLt, -, hblueWidth⟩ := maskShift_maskWidth hblue.1
  unfold decomposePixelChecked decomposePixel
  split
  · rfl
  split
  · rfl
  split
  · simp only [maskShiftChecked_eq, hredShift, hgreenShift, hblueShift,
      maskWidthChecked_eq redMask hredLt, maskWidthChecked_eq greenMask hgreenLt,
      maskWidthChecked_eq blueMask hblueLt, (channelChecked_eq pixel redMask hredLt (hredWidth hred.2)).1,
      (channelChecked_eq pixel greenMask hgreenLt (hgreenWidth hgreen.2)).1,
      (channelChecked_eq pixel blueMask hblueLt (hblueWidth hblue.2)).1, Option.bind_eq_bind,
      Option.bind_some]
  · rfl

end

section
variable {framebufferInfo : FramebufferInfo}

/-- Every format but the bit masks only shifts by constants. -/
theorem checked_of_format (h : framebufferInfo.pixelFormat ≠ gopPixelBitMask) :
    (∀ color, (framebufferInfo.composeChecked color).isSome) ∧
      ∀ pixel, (framebufferInfo.decomposeChecked pixel).isSome := by
  constructor
  · intro color
    simp only [FramebufferInfo.composeChecked, composePixelChecked, h, if_false]
    split
    · rfl
    split <;> rfl
  · intro pixel
    simp only [FramebufferInfo.decomposeChecked, decomposePixelChecked, h, if_false]
    split
    · rfl
    split <;> rfl

theorem alphaBlendPixelChecked_isSome (hcompose : ∀ color, (framebufferInfo.composeChecked color).isSome)
    (hdecompose : ∀ pixel, (framebufferInfo.decomposeChecked pixel).isSome) (pixel : UInt32)
    (color : Rgb) (alpha : UInt8) :
    (alphaBlendPixelChecked framebufferInfo pixel color alpha).isSome := by
  unfold alphaBlendPixelChecked
  split
  · exact hcompose color
  split
  · rfl
  · obtain ⟨destination, hdestination⟩ := Option.isSome_iff_exists.mp (hdecompose pixel)
    simp only [hdestination, Option.bind_eq_bind, Option.bind_some]
    exact hcompose _

theorem FramebufferInfo.blendReturns_of_usable (hred : UsableMask framebufferInfo.redMask)
    (hgreen : UsableMask framebufferInfo.greenMask) (hblue : UsableMask framebufferInfo.blueMask) :
    framebufferInfo.BlendReturns := by
  intro pixel color alpha
  have hcompose (color : Rgb) : framebufferInfo.composeChecked color =
      some (framebufferInfo.compose color) :=
    composePixelChecked_eq hred.2 hgreen.2 hblue.2 color framebufferInfo.pixelFormat
  have hdecompose (pixel : UInt32) : framebufferInfo.decomposeChecked pixel = decomposePixel pixel
      framebufferInfo.pixelFormat framebufferInfo.redMask framebufferInfo.greenMask
      framebufferInfo.blueMask :=
    decomposePixelChecked_eq hred hgreen hblue pixel framebufferInfo.pixelFormat
  have hdecomposed : ∀ pixel, (framebufferInfo.decomposeChecked pixel).isSome := by
    by_cases hformat : framebufferInfo.pixelFormat = gopPixelBitMask
    · intro pixel
      rw [FramebufferInfo.decomposeChecked, hformat]
      exact (decomposePixelChecked_isSome_iff _ _ _ pixel).mpr ⟨hred, hgreen, hblue⟩
    · exact (checked_of_format hformat).2
  have heq : alphaBlendPixelChecked framebufferInfo pixel color alpha =
      alphaBlendPixel framebufferInfo pixel color alpha := by
    simp only [alphaBlendPixelChecked, alphaBlendPixel, hcompose, hdecompose]
  rw [← heq]
  exact alphaBlendPixelChecked_isSome (fun color => by rw [hcompose]; rfl) hdecomposed pixel color
    alpha

variable (framebufferInfo)

/-- For every colour, pixel and alpha, the three functions return without a shift that is
too large and without a division by zero when the format is not the bit masks, or when
each mask has a set bit and a clear one; for no colour, pixel and alpha otherwise. -/
theorem pixelFunctions_total_iff (pixel : UInt32) (color : Rgb) (alpha : UInt8) :
    ((framebufferInfo.composeChecked color).isSome ∧
        (framebufferInfo.decomposeChecked pixel).isSome ∧
        (alphaBlendPixelChecked framebufferInfo pixel color alpha).isSome) ↔
      (framebufferInfo.pixelFormat = gopPixelBitMask →
        UsableMask framebufferInfo.redMask ∧ UsableMask framebufferInfo.greenMask ∧
          UsableMask framebufferInfo.blueMask) := by
  by_cases hformat : framebufferInfo.pixelFormat = gopPixelBitMask
  · have hdecompose (pixel : UInt32) := decomposePixelChecked_isSome_iff framebufferInfo.redMask
      framebufferInfo.greenMask framebufferInfo.blueMask pixel
    have hcompose (color : Rgb) := composePixelChecked_isSome_iff framebufferInfo.redMask
      framebufferInfo.greenMask framebufferInfo.blueMask color
    rw [← hformat] at hdecompose hcompose
    constructor
    · exact fun h _ => (hdecompose pixel).mp h.2.1
    · intro h
      have husable := h hformat
      have hcomposed (color : Rgb) : (framebufferInfo.composeChecked color).isSome :=
        (hcompose color).mpr ⟨husable.1.2, husable.2.1.2, husable.2.2.2⟩
      have hdecomposed (pixel : UInt32) : (framebufferInfo.decomposeChecked pixel).isSome :=
        (hdecompose pixel).mpr husable
      exact ⟨hcomposed color, hdecomposed pixel,
        alphaBlendPixelChecked_isSome hcomposed hdecomposed pixel color alpha⟩
  · obtain ⟨hcompose, hdecompose⟩ := checked_of_format hformat
    exact ⟨fun _ h => absurd h hformat, fun _ => ⟨hcompose color, hdecompose pixel,
      alphaBlendPixelChecked_isSome hcompose hdecompose pixel color alpha⟩⟩

end

def redGreenMode : GopMode where
  horizontalResolution := 640
  verticalResolution := 480
  pixelFormat := gopPixelBitMask
  redMask := 0x0000FF00
  greenMask := 0x000000FF
  blueMask := 0
  pixelsPerScanLine := 640
  framebufferBase := 0x80000000
  framebufferSize := 1228800

/-- The loader accepts the mode, composes its pixels and never gets back from taking one
apart. -/
theorem pixelFunctions_total_redGreen :
    let framebufferInfo := (initializeFramebuffer ⟨efiSuccess, some redGreenMode⟩ default).2
    (initializeFramebuffer ⟨efiSuccess, some redGreenMode⟩ default).1 = efiSuccess ∧
      (framebufferInfo.composeChecked ⟨1, 2, 3⟩).isSome ∧
      framebufferInfo.decomposeChecked 0 = none ∧
      alphaBlendPixelChecked framebufferInfo 0 ⟨1, 2, 3⟩ 128 = none := by
  decide

end DragonOS.Boot
