import DragonOS.Boot.PixelMask

/-!
# Packing and unpacking a colour

`composePixel` scales a byte to the width of a channel and `decomposePixel` scales it
back, and each rounds to the nearest value. A channel of at least eight bits keeps the
byte, and a channel of at most eight bits is kept by the byte: the two rounding errors
together are less than one step of the finer scale.
-/

namespace DragonOS.Boot

open Lib

-- ---------------------------------------------------------------------------
-- The two scales
-- ---------------------------------------------------------------------------

/-- From a byte to a channel of at least eight bits and back. The first rounding is off
by at most 127, which the second one, to a multiple of `2 * half + 1`, takes away. -/
theorem unscale_scale (half channel : Nat) (hwide : 127 ≤ half) :
    ((channel * (2 * half + 1) + 127) / 255 * 255 + half) / (2 * half + 1) = channel := by
  have hdiv := Nat.div_add_mod (channel * (2 * half + 1) + 127) 255
  have hmod := Nat.mod_lt (channel * (2 * half + 1) + 127) (show 255 > 0 by decide)
  apply Nat.div_eq_of_lt_le
  · omega
  · rw [Nat.add_one_mul channel (2 * half + 1)]
    omega

theorem scale_unscale (half value : Nat) (hnarrow : half ≤ 127) :
    ((value * 255 + half) / (2 * half + 1) * (2 * half + 1) + 127) / 255 = value := by
  have hdiv := Nat.div_add_mod' (value * 255 + half) (2 * half + 1)
  have hmod := Nat.mod_lt (value * 255 + half) (show 2 * half + 1 > 0 by omega)
  apply Nat.div_eq_of_lt_le <;> omega

theorem unscale_lt (half value : Nat) (hvalue : value ≤ 2 * half + 1) :
    (value * 255 + half) / (2 * half + 1) < 256 := by
  rw [Nat.div_lt_iff_lt_mul (by omega)]
  omega

theorem two_mul_half {width : Nat} (h : 0 < width) :
    2 * ((2 ^ width - 1) / 2) + 1 = 2 ^ width - 1 := by
  obtain ⟨n, rfl⟩ := Nat.exists_eq_succ_of_ne_zero (Nat.ne_of_gt h)
  have := Nat.one_le_two_pow (n := n)
  rw [Nat.pow_succ]
  omega

-- ---------------------------------------------------------------------------
-- Contiguous masks
-- ---------------------------------------------------------------------------

/-- The mask consists of `width` ones from bit `shift` on. -/
structure ContiguousMask (mask : UInt32) (shift width : Nat) : Prop where
  width_pos : 0 < width
  fits : shift + width ≤ 32
  eq : mask.toNat = (2 ^ width - 1) <<< shift

namespace ContiguousMask

variable {mask : UInt32} {shift width : Nat} (h : ContiguousMask mask shift width)
include h

theorem testBit (i : Nat) :
    mask.toNat.testBit i = (decide (shift ≤ i) && decide (i - shift < width)) := by
  rw [h.eq, Nat.testBit_shiftLeft, Nat.testBit_two_pow_sub_one]

theorem shift_lt : shift < 32 := by
  have := h.width_pos
  have := h.fits
  omega

theorem maskShift_eq : maskShift mask = some (UInt32.ofNat shift) := by
  have := h.width_pos
  refine DragonOS.Boot.maskShift_eq h.shift_lt ?_ fun j hj => ?_
  · simp [h.testBit, this]
  · simp [h.testBit, Nat.not_le_of_lt hj]

theorem toNat_shift : (UInt32.ofNat shift).toNat = shift :=
  UInt32.toNat_ofNat_of_lt' (by have := h.shift_lt; rw [UInt32.size]; omega)

theorem toNat_maskWidth : (maskWidth mask (UInt32.ofNat shift)).toNat = width := by
  refine DragonOS.Boot.toNat_maskWidth h.shift_lt (fun j hj => ?_) ?_
  · simp [h.testBit, hj]
  · simp [h.testBit]

theorem ne_zero : mask ≠ 0 := by
  rintro rfl
  have hset := h.testBit shift
  rw [UInt32.toNat_zero, Nat.zero_testBit] at hset
  simp [h.width_pos] at hset

theorem toNat_channel (pixel : UInt32) :
    ((pixel &&& mask) >>> UInt32.ofNat shift).toNat = (pixel.toNat >>> shift) % 2 ^ width := by
  rw [UInt32.toNat_shiftRight, h.toNat_shift, Nat.mod_eq_of_lt h.shift_lt, UInt32.toNat_and, h.eq,
    Nat.shiftRight_and_distrib, Nat.shiftLeft_shiftRight, Nat.and_two_pow_sub_one_eq_mod]

theorem toNat_and (pixel : UInt32) :
    (pixel &&& mask).toNat = ((pixel.toNat >>> shift) % 2 ^ width) <<< shift := by
  refine Nat.eq_of_testBit_eq fun i => ?_
  rw [UInt32.toNat_and, Nat.testBit_and, h.testBit, Nat.testBit_shiftLeft, Nat.testBit_mod_two_pow,
    Nat.testBit_shiftRight]
  by_cases hi : shift ≤ i
  · rw [decide_eq_true hi, Nat.add_sub_cancel' hi, Bool.true_and, Bool.true_and, Bool.and_comm]
  · rw [decide_eq_false hi, Bool.false_and, Bool.false_and, Bool.and_false]

theorem toNat_maxValue (hwidth : width < 32) :
    (((1 : UInt32) <<< maskWidth mask (UInt32.ofNat shift)) - 1).toNat = 2 ^ width - 1 := by
  rw [DragonOS.Boot.toNat_maxValue (by rwa [h.toNat_maskWidth]), h.toNat_maskWidth]

theorem toNat_scaleChannel (hwidth : width ≤ 24) (channel : UInt8) :
    (scaleChannel channel.toUInt32 mask).toNat =
      ((channel.toNat * (2 ^ width - 1) + 127) / 255) <<< shift ∧
        (channel.toNat * (2 ^ width - 1) + 127) / 255 < 2 ^ width := by
  have hpow : 2 ^ width ≤ 2 ^ 24 := Nat.pow_le_pow_right (by decide) hwidth
  have hone := Nat.one_le_two_pow (n := width)
  have hchannel := channel.toNat_lt
  have hproduct : channel.toNat * (2 ^ width - 1) ≤ 255 * (2 ^ width - 1) :=
    Nat.mul_le_mul_right _ (by omega)
  have hmax := h.toNat_maxValue (by omega)
  have hscaled : (channel.toNat * (2 ^ width - 1) + 127) / 255 < 2 ^ width := by omega
  have hplaced : ((channel.toNat * (2 ^ width - 1) + 127) / 255) <<< shift < 2 ^ 32 := by
    rw [Nat.shiftLeft_eq]
    calc ((channel.toNat * (2 ^ width - 1) + 127) / 255) * 2 ^ shift
      _ < 2 ^ width * 2 ^ shift := Nat.mul_lt_mul_of_pos_right hscaled (Nat.two_pow_pos _)
      _ = 2 ^ (shift + width) := by rw [← Nat.pow_add, Nat.add_comm]
      _ ≤ 2 ^ 32 := Nat.pow_le_pow_right (by decide) h.fits
  simp only [scaleChannel, h.ne_zero, if_false, h.maskShift_eq, Option.getD_some]
  generalize ((1 : UInt32) <<< maskWidth mask (UInt32.ofNat shift)) - 1 = maxValue at hmax ⊢
  have hmul : (channel.toUInt32 * maxValue).toNat = channel.toNat * (2 ^ width - 1) := by
    rw [toNat_mul_of_lt (by rw [hmax, UInt8.toNat_toUInt32]; omega), hmax, UInt8.toNat_toUInt32]
  have hhalf : (127 : UInt32).toNat = 127 := rfl
  have hsum : (channel.toUInt32 * maxValue + 127).toNat =
      channel.toNat * (2 ^ width - 1) + 127 := by
    rw [toNat_add_of_lt (by rw [hmul, hhalf]; omega), hmul, hhalf]
  have hdivisor : (255 : UInt32).toNat = 255 := rfl
  refine ⟨?_, hscaled⟩
  rw [UInt32.toNat_and, UInt32.toNat_shiftLeft, UInt32.toNat_div, hsum, hdivisor, h.toNat_shift,
    Nat.mod_eq_of_lt h.shift_lt, Nat.mod_eq_of_lt hplaced, h.eq, ← Nat.shiftLeft_and_distrib,
    Nat.and_two_pow_sub_one_of_lt_two_pow hscaled]

theorem expandChannel_eq (hwidth : width ≤ 24) {channel : UInt32}
    (hchannel : channel.toNat < 2 ^ width) :
    ∃ byte, expandChannel channel (maskWidth mask (UInt32.ofNat shift)) = some byte ∧
      byte.toNat = (channel.toNat * 255 + (2 ^ width - 1) / 2) / (2 ^ width - 1) := by
  have hpow : 2 ^ width ≤ 2 ^ 24 := Nat.pow_le_pow_right (by decide) hwidth
  have hhalf := two_mul_half h.width_pos
  have hmax := h.toNat_maxValue (by omega)
  have hwide : maskWidth mask (UInt32.ofNat shift) ≠ 0 := fun hzero => by
    have := h.toNat_maskWidth
    rw [hzero, UInt32.toNat_zero] at this
    exact Nat.ne_of_lt h.width_pos this
  simp only [expandChannel, hwide, if_false]
  generalize ((1 : UInt32) <<< maskWidth mask (UInt32.ofNat shift)) - 1 = maxValue at hmax ⊢
  have hnonzero : maxValue ≠ 0 := fun hzero => by
    rw [hzero, UInt32.toNat_zero] at hmax
    omega
  have hfactor : (255 : UInt32).toNat = 255 := rfl
  have hmul : (channel * 255).toNat = channel.toNat * 255 := by
    rw [toNat_mul_of_lt (by rw [hfactor]; omega), hfactor]
  have hhalfValue : (maxValue >>> 1).toNat = (2 ^ width - 1) / 2 := by
    rw [toNat_shiftRight_one, hmax]
  generalize maxValue >>> 1 = rounding at hhalfValue ⊢
  have hsum : (channel * 255 + rounding).toNat =
      channel.toNat * 255 + (2 ^ width - 1) / 2 := by
    rw [toNat_add_of_lt (by rw [hmul, hhalfValue]; omega), hmul, hhalfValue]
  refine ⟨_, if_neg hnonzero, ?_⟩
  have hbyte := unscale_lt ((2 ^ width - 1) / 2) channel.toNat (by omega)
  rw [hhalf] at hbyte
  rw [UInt32.toNat_toUInt8, UInt32.toNat_div, hsum, hmax, Nat.mod_eq_of_lt hbyte]

theorem expandChannel_scaleChannel (hwide : 8 ≤ width) (hwidth : width ≤ 24) (channel : UInt8) :
    expandChannel (scaleChannel channel.toUInt32 mask >>> UInt32.ofNat shift)
      (maskWidth mask (UInt32.ofNat shift)) = some channel := by
  obtain ⟨hscaled, hlt⟩ := h.toNat_scaleChannel hwidth channel
  have hvalue : (scaleChannel channel.toUInt32 mask >>> UInt32.ofNat shift).toNat =
      (channel.toNat * (2 ^ width - 1) + 127) / 255 := by
    rw [UInt32.toNat_shiftRight, h.toNat_shift, Nat.mod_eq_of_lt h.shift_lt, hscaled,
      Nat.shiftLeft_shiftRight]
  obtain ⟨byte, hbyte, hbyteValue⟩ := h.expandChannel_eq hwidth (by rwa [hvalue])
  have hpow : 2 ^ 8 ≤ 2 ^ width := Nat.pow_le_pow_right (by decide) hwide
  have hback := unscale_scale ((2 ^ width - 1) / 2) channel.toNat (by omega)
  rw [two_mul_half h.width_pos] at hback
  obtain rfl : byte = channel := UInt8.toNat_inj.mp (by rw [hbyteValue, hvalue, hback])
  exact hbyte

theorem scaleChannel_expandChannel (hnarrow : width ≤ 8) (pixel : UInt32) :
    ∃ byte, expandChannel ((pixel &&& mask) >>> UInt32.ofNat shift)
        (maskWidth mask (UInt32.ofNat shift)) = some byte ∧
      scaleChannel byte.toUInt32 mask = pixel &&& mask := by
  have hvalue := h.toNat_channel pixel
  obtain ⟨byte, hbyte, hbyteValue⟩ := h.expandChannel_eq (by omega)
    (by rw [hvalue]; exact Nat.mod_lt _ (Nat.two_pow_pos _))
  refine ⟨byte, hbyte, UInt32.toNat_inj.mp ?_⟩
  have hpow : 2 ^ width ≤ 2 ^ 8 := Nat.pow_le_pow_right (by decide) hnarrow
  have hback := scale_unscale ((2 ^ width - 1) / 2)
    (pixel.toNat >>> shift % 2 ^ width) (by omega)
  rw [two_mul_half h.width_pos] at hback
  rw [(h.toNat_scaleChannel (by omega) byte).1, hbyteValue, hvalue, hback, h.toNat_and]

end ContiguousMask

-- ---------------------------------------------------------------------------
-- The bit masks
-- ---------------------------------------------------------------------------

theorem and_or_right (a b c : UInt32) : (a ||| b) &&& c = (a &&& c) ||| (b &&& c) :=
  UInt32.toNat_inj.mp (by simp only [UInt32.toNat_and, UInt32.toNat_or, Nat.and_or_distrib_right])

theorem and_or_left (a b c : UInt32) : a &&& (b ||| c) = (a &&& b) ||| (a &&& c) :=
  UInt32.toNat_inj.mp (by simp only [UInt32.toNat_and, UInt32.toNat_or, Nat.and_or_distrib_left])

theorem scaleChannel_and (channel mask : UInt32) :
    scaleChannel channel mask &&& mask = scaleChannel channel mask := by
  unfold scaleChannel
  split
  · exact UInt32.zero_and
  · rw [UInt32.and_assoc, UInt32.and_self]

theorem scaleChannel_and_of_disjoint {mask other : UInt32} (h : mask &&& other = 0)
    (channel : UInt32) : scaleChannel channel mask &&& other = 0 := by
  rw [← scaleChannel_and, UInt32.and_assoc, h, UInt32.and_zero]

section
variable {redMask greenMask blueMask : UInt32}
  {redShift redWidth greenShift greenWidth blueShift blueWidth : Nat}

theorem decomposePixel_bitMask (color : Rgb) (hred : ContiguousMask redMask redShift redWidth)
    (hgreen : ContiguousMask greenMask greenShift greenWidth)
    (hblue : ContiguousMask blueMask blueShift blueWidth)
    (hr : expandChannel ((pixel &&& redMask) >>> UInt32.ofNat redShift)
      (maskWidth redMask (UInt32.ofNat redShift)) = some color.red)
    (hg : expandChannel ((pixel &&& greenMask) >>> UInt32.ofNat greenShift)
      (maskWidth greenMask (UInt32.ofNat greenShift)) = some color.green)
    (hb : expandChannel ((pixel &&& blueMask) >>> UInt32.ofNat blueShift)
      (maskWidth blueMask (UInt32.ofNat blueShift)) = some color.blue) :
    decomposePixel pixel gopPixelBitMask redMask greenMask blueMask = some color := by
  have hfirst : gopPixelBitMask ≠ gopPixelRedGreenBlueReserved8Bit := by decide
  have hsecond : gopPixelBitMask ≠ gopPixelBlueGreenRedReserved8Bit := by decide
  simp only [decomposePixel, hfirst, hsecond, if_false, if_true, hred.maskShift_eq,
    hgreen.maskShift_eq, hblue.maskShift_eq, hr, hg, hb, Option.bind_eq_bind, Option.bind_some]

theorem composePixel_bitMask (color : Rgb) :
    composePixel color gopPixelBitMask redMask greenMask blueMask =
      scaleChannel color.red.toUInt32 redMask ||| scaleChannel color.green.toUInt32 greenMask |||
        scaleChannel color.blue.toUInt32 blueMask := by
  have hfirst : gopPixelBitMask ≠ gopPixelRedGreenBlueReserved8Bit := by decide
  have hsecond : gopPixelBitMask ≠ gopPixelBlueGreenRedReserved8Bit := by decide
  simp only [composePixel, hfirst, hsecond, if_false, if_true]

theorem composePixel_and (hredGreen : redMask &&& greenMask = 0)
    (hredBlue : redMask &&& blueMask = 0) (hgreenBlue : greenMask &&& blueMask = 0)
    (color : Rgb) :
    let pixel := composePixel color gopPixelBitMask redMask greenMask blueMask
    pixel &&& redMask = scaleChannel color.red.toUInt32 redMask ∧
      pixel &&& greenMask = scaleChannel color.green.toUInt32 greenMask ∧
      pixel &&& blueMask = scaleChannel color.blue.toUInt32 blueMask := by
  have hgreenRed : greenMask &&& redMask = 0 := by rwa [UInt32.and_comm]
  have hblueRed : blueMask &&& redMask = 0 := by rwa [UInt32.and_comm]
  have hblueGreen : blueMask &&& greenMask = 0 := by rwa [UInt32.and_comm]
  simp only [composePixel_bitMask, and_or_right, scaleChannel_and]
  rw [scaleChannel_and_of_disjoint hgreenRed, scaleChannel_and_of_disjoint hblueRed,
    scaleChannel_and_of_disjoint hredGreen, scaleChannel_and_of_disjoint hblueGreen,
    scaleChannel_and_of_disjoint hredBlue, scaleChannel_and_of_disjoint hgreenBlue]
  simp only [UInt32.or_zero, UInt32.zero_or, and_self]

end

-- ---------------------------------------------------------------------------
-- The byte formats
-- ---------------------------------------------------------------------------

/-- Three bytes in a word, the first one lowest. -/
theorem toNat_packed (first second third : UInt8) :
    (first.toUInt32 ||| (second.toUInt32 <<< 8) ||| (third.toUInt32 <<< 16)).toNat =
      first.toNat + second.toNat * 2 ^ 8 + third.toNat * 2 ^ 16 := by
  have hfirst := first.toNat_lt
  have hsecond := second.toNat_lt
  have hthird := third.toNat_lt
  have hlow : (second.toUInt32 <<< 8).toNat = second.toNat <<< 8 := by
    rw [UInt32.toNat_shiftLeft, UInt8.toNat_toUInt32]
    show second.toNat <<< 8 % 2 ^ 32 = _
    rw [Nat.shiftLeft_eq]
    omega
  have hhigh : (third.toUInt32 <<< 16).toNat = third.toNat <<< 16 := by
    rw [UInt32.toNat_shiftLeft, UInt8.toNat_toUInt32]
    show third.toNat <<< 16 % 2 ^ 32 = _
    rw [Nat.shiftLeft_eq]
    omega
  rw [UInt32.toNat_or, UInt32.toNat_or, hlow, hhigh, UInt8.toNat_toUInt32, Nat.or_comm first.toNat,
    ← Nat.shiftLeft_add_eq_or_of_lt hfirst, Nat.or_comm, ← Nat.shiftLeft_add_eq_or_of_lt (by
      rw [Nat.shiftLeft_eq]; omega), Nat.shiftLeft_eq, Nat.shiftLeft_eq]
  omega

theorem toNat_lowByte (word : UInt32) : ((word &&& 0xFF).toUInt8).toNat = word.toNat % 2 ^ 8 := by
  rw [UInt32.toNat_toUInt8, UInt32.toNat_and]
  show (word.toNat &&& 2 ^ 8 - 1) % 2 ^ 8 = _
  rw [Nat.and_two_pow_sub_one_eq_mod, Nat.mod_mod]

theorem toNat_lowByte_shiftRight (word : UInt32) {shift : UInt32} (h : shift.toNat < 32) :
    (((word >>> shift) &&& 0xFF).toUInt8).toNat = word.toNat / 2 ^ shift.toNat % 2 ^ 8 := by
  rw [toNat_lowByte, UInt32.toNat_shiftRight, Nat.mod_eq_of_lt h, Nat.shiftRight_eq_div_pow]

theorem bytes_packed (first second third : UInt8) :
    let word := first.toUInt32 ||| (second.toUInt32 <<< 8) ||| (third.toUInt32 <<< 16)
    (word &&& 0xFF).toUInt8 = first ∧ ((word >>> 8) &&& 0xFF).toUInt8 = second ∧
      ((word >>> 16) &&& 0xFF).toUInt8 = third := by
  intro word
  have hword : word.toNat = _ := toNat_packed first second third
  have hfirst := first.toNat_lt
  have hsecond := second.toNat_lt
  have hthird := third.toNat_lt
  have height : (8 : UInt32).toNat = 8 := rfl
  have hsixteen : (16 : UInt32).toNat = 16 := rfl
  refine ⟨UInt8.toNat_inj.mp ?_, UInt8.toNat_inj.mp ?_, UInt8.toNat_inj.mp ?_⟩
  · rw [toNat_lowByte, hword]
    omega
  · rw [toNat_lowByte_shiftRight word (by decide), hword, height]
    omega
  · rw [toNat_lowByte_shiftRight word (by decide), hword, hsixteen]
    omega

theorem packed_bytes (word : UInt32) :
    (word &&& 0xFF).toUInt8.toUInt32 ||| (((word >>> 8) &&& 0xFF).toUInt8.toUInt32 <<< 8) |||
      (((word >>> 16) &&& 0xFF).toUInt8.toUInt32 <<< 16) = word &&& 0x00FFFFFF := by
  have height : (8 : UInt32).toNat = 8 := rfl
  have hsixteen : (16 : UInt32).toNat = 16 := rfl
  refine UInt32.toNat_inj.mp ?_
  rw [toNat_packed, toNat_lowByte, toNat_lowByte_shiftRight word (by decide),
    toNat_lowByte_shiftRight word (by decide), height, hsixteen, UInt32.toNat_and]
  show _ = word.toNat &&& 2 ^ 24 - 1
  rw [Nat.and_two_pow_sub_one_eq_mod]
  omega

-- ---------------------------------------------------------------------------
-- The codec
-- ---------------------------------------------------------------------------

structure ChannelMasks (redMask greenMask blueMask : UInt32)
    (redWidth greenWidth blueWidth : Nat) : Prop where
  red : ∃ shift, ContiguousMask redMask shift redWidth
  green : ∃ shift, ContiguousMask greenMask shift greenWidth
  blue : ∃ shift, ContiguousMask blueMask shift blueWidth
  redGreen : redMask &&& greenMask = 0
  redBlue : redMask &&& blueMask = 0
  greenBlue : greenMask &&& blueMask = 0

section
variable {redMask greenMask blueMask : UInt32} {redWidth greenWidth blueWidth : Nat}

theorem ChannelMasks.decompose_compose
    (h : ChannelMasks redMask greenMask blueMask redWidth greenWidth blueWidth)
    (hred : 8 ≤ redWidth ∧ redWidth ≤ 24) (hgreen : 8 ≤ greenWidth ∧ greenWidth ≤ 24)
    (hblue : 8 ≤ blueWidth ∧ blueWidth ≤ 24) (color : Rgb) :
    decomposePixel (composePixel color gopPixelBitMask redMask greenMask blueMask)
      gopPixelBitMask redMask greenMask blueMask = some color := by
  obtain ⟨⟨redShift, hr⟩, ⟨greenShift, hg⟩, ⟨blueShift, hb⟩, hredGreen, hredBlue, hgreenBlue⟩ := h
  obtain ⟨hredPart, hgreenPart, hbluePart⟩ :=
    composePixel_and hredGreen hredBlue hgreenBlue color
  apply decomposePixel_bitMask _ hr hg hb
  · rw [hredPart, hr.expandChannel_scaleChannel hred.1 hred.2]
  · rw [hgreenPart, hg.expandChannel_scaleChannel hgreen.1 hgreen.2]
  · rw [hbluePart, hb.expandChannel_scaleChannel hblue.1 hblue.2]

theorem ChannelMasks.compose_decompose
    (h : ChannelMasks redMask greenMask blueMask redWidth greenWidth blueWidth)
    (hred : redWidth ≤ 8) (hgreen : greenWidth ≤ 8) (hblue : blueWidth ≤ 8) (pixel : UInt32) :
    (decomposePixel pixel gopPixelBitMask redMask greenMask blueMask).map
        (composePixel · gopPixelBitMask redMask greenMask blueMask) =
      some (pixel &&& (redMask ||| greenMask ||| blueMask)) := by
  obtain ⟨⟨redShift, hr⟩, ⟨greenShift, hg⟩, ⟨blueShift, hb⟩, -, -, -⟩ := h
  obtain ⟨red, hredByte, hredBack⟩ := hr.scaleChannel_expandChannel hred pixel
  obtain ⟨green, hgreenByte, hgreenBack⟩ := hg.scaleChannel_expandChannel hgreen pixel
  obtain ⟨blue, hblueByte, hblueBack⟩ := hb.scaleChannel_expandChannel hblue pixel
  rw [decomposePixel_bitMask ⟨red, green, blue⟩ hr hg hb hredByte hgreenByte hblueByte,
    Option.map_some, composePixel_bitMask, hredBack, hgreenBack, hblueBack, and_or_left,
    and_or_left]

theorem byteFormat_roundTrip (hformat : pixelFormat = gopPixelRedGreenBlueReserved8Bit ∨
    pixelFormat = gopPixelBlueGreenRedReserved8Bit) :
    (∀ color, decomposePixel (composePixel color pixelFormat redMask greenMask blueMask)
      pixelFormat redMask greenMask blueMask = some color) ∧
    ∀ pixel, (decomposePixel pixel pixelFormat redMask greenMask blueMask).map
      (composePixel · pixelFormat redMask greenMask blueMask) = some (pixel &&& 0x00FFFFFF) := by
  rcases hformat with rfl | rfl
  · simp only [decomposePixel, composePixel, if_true, Option.map_some, packed_bytes, implies_true,
      and_true]
    intro color
    obtain ⟨hred, hgreen, hblue⟩ := bytes_packed color.red color.green color.blue
    rw [hred, hgreen, hblue]
  · have hother : gopPixelBlueGreenRedReserved8Bit ≠ gopPixelRedGreenBlueReserved8Bit := by decide
    simp only [decomposePixel, composePixel, hother, if_false, if_true, Option.map_some,
      packed_bytes, implies_true, and_true]
    intro color
    obtain ⟨hblue, hgreen, hred⟩ := bytes_packed color.blue color.green color.red
    rw [hred, hgreen, hblue]

/-- Unpacking gives back the colour that was packed when no channel is narrower than a
byte, and packing gives back the pixel that was unpacked, without the bits that belong to
no channel, when none is wider. -/
theorem pixelCodec_roundTrip (redMask greenMask blueMask : UInt32) :
    (∀ pixelFormat, pixelFormat = gopPixelRedGreenBlueReserved8Bit ∨
        pixelFormat = gopPixelBlueGreenRedReserved8Bit →
      (∀ color, decomposePixel (composePixel color pixelFormat redMask greenMask blueMask)
        pixelFormat redMask greenMask blueMask = some color) ∧
      ∀ pixel, (decomposePixel pixel pixelFormat redMask greenMask blueMask).map
        (composePixel · pixelFormat redMask greenMask blueMask) = some (pixel &&& 0x00FFFFFF)) ∧
    ∀ redWidth greenWidth blueWidth,
      ChannelMasks redMask greenMask blueMask redWidth greenWidth blueWidth →
      ((8 ≤ redWidth ∧ redWidth ≤ 24) → (8 ≤ greenWidth ∧ greenWidth ≤ 24) →
          (8 ≤ blueWidth ∧ blueWidth ≤ 24) →
        ∀ color, decomposePixel (composePixel color gopPixelBitMask redMask greenMask blueMask)
          gopPixelBitMask redMask greenMask blueMask = some color) ∧
      (redWidth ≤ 8 → greenWidth ≤ 8 → blueWidth ≤ 8 →
        ∀ pixel, (decomposePixel pixel gopPixelBitMask redMask greenMask blueMask).map
            (composePixel · gopPixelBitMask redMask greenMask blueMask) =
          some (pixel &&& (redMask ||| greenMask ||| blueMask))) :=
  ⟨fun _ => byteFormat_roundTrip,
    fun _ _ _ hmasks => ⟨hmasks.decompose_compose, hmasks.compose_decompose⟩⟩

end

theorem deepMasks : ChannelMasks 0x3FF00000 0x000FFC00 0x000003FF 10 10 10 where
  red := ⟨20, by decide, by decide, by decide⟩
  green := ⟨10, by decide, by decide, by decide⟩
  blue := ⟨0, by decide, by decide, by decide⟩
  redGreen := by decide
  redBlue := by decide
  greenBlue := by decide

theorem highMasks : ChannelMasks 0xF800 0x07E0 0x001F 5 6 5 where
  red := ⟨11, by decide, by decide, by decide⟩
  green := ⟨5, by decide, by decide, by decide⟩
  blue := ⟨0, by decide, by decide, by decide⟩
  redGreen := by decide
  redBlue := by decide
  greenBlue := by decide

/-- Ten bits for each channel, and five, six and five. -/
theorem pixelCodec_roundTrip_deep_high :
    (∀ color, decomposePixel (composePixel color gopPixelBitMask 0x3FF00000 0x000FFC00 0x000003FF)
      gopPixelBitMask 0x3FF00000 0x000FFC00 0x000003FF = some color) ∧
    ∀ pixel, (decomposePixel pixel gopPixelBitMask 0xF800 0x07E0 0x001F).map
        (composePixel · gopPixelBitMask 0xF800 0x07E0 0x001F) =
      some (pixel &&& (0xF800 ||| 0x07E0 ||| 0x001F)) :=
  ⟨((pixelCodec_roundTrip 0x3FF00000 0x000FFC00 0x000003FF).2 10 10 10 deepMasks).1
      (by decide) (by decide) (by decide),
    ((pixelCodec_roundTrip 0xF800 0x07E0 0x001F).2 5 6 5 highMasks).2
      (by decide) (by decide) (by decide)⟩

end DragonOS.Boot
