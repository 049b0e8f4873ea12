import DragonOS.Build.Bitmap
import DragonOS.Lib.Rounding
import DragonOS.Lib.Words
import Mathlib.Data.Nat.Factorization.Basic

/-!
# Channels of a packed pixel

A mask has `width` bits from `shift` on and a zero bit after them; what is above that does
not matter to the two loops (`MaskBits`). The channel is scaled to a byte with `uint`
arithmetic, where shifting a one by 32 gives a one and the product with 255 can wrap:
`extractBitfieldChannel_nearest_iff` says when the byte is the nearest one.
-/

namespace DragonOS.Build.BmpLoader

open Lib

-- ---------------------------------------------------------------------------
-- The bits of a mask
-- ---------------------------------------------------------------------------

/-- Ones in the low `width` bits, a zero after them and anything above. -/
def lowOnes (width rest : Nat) : Nat := 2 ^ width - 1 + 2 ^ (width + 1) * rest

theorem lowOnes_zero (rest : Nat) : lowOnes 0 rest = 2 * rest := by
  rw [lowOnes, Nat.pow_zero, Nat.sub_self, Nat.zero_add, Nat.zero_add, Nat.pow_one]

theorem lowOnes_succ (width rest : Nat) : lowOnes (width + 1) rest = 2 * lowOnes width rest + 1 := by
  have hpos := Nat.two_pow_pos width
  rw [lowOnes, lowOnes, Nat.pow_succ' (n := width + 1), Nat.mul_assoc, Nat.pow_succ' (n := width)]
  omega

theorem lowOnes_odd (h : 0 < width) (rest : Nat) : lowOnes width rest % 2 = 1 := by
  obtain ⟨width, rfl⟩ := Nat.exists_eq_add_of_lt h
  rw [Nat.zero_add, lowOnes_succ]
  omega

structure MaskBits (mask : UInt32) (shift width : Nat) : Prop where
  width_pos : 0 < width
  above : ∃ rest, mask.toNat = 2 ^ shift * lowOnes width rest

theorem MaskBits.exists_of_ne_zero {mask : UInt32} (h : mask ≠ 0) :
    ∃ shift width, MaskBits mask shift width := by
  have hmask : mask.toNat ≠ 0 := fun hzero => h (UInt32.toNat_inj.mp hzero)
  obtain ⟨shift, odd, hodd, hshift⟩ := Nat.exists_eq_two_pow_mul_odd hmask
  obtain ⟨width, above, ⟨rest, rfl⟩, hwidth⟩ :=
    Nat.exists_eq_two_pow_mul_odd (Nat.succ_ne_zero odd)
  have hones : odd = lowOnes width rest := by
    have hpos := Nat.two_pow_pos width
    have hexpand : 2 ^ width * (2 * rest + 1) = 2 ^ (width + 1) * rest + 2 ^ width := by ring
    rw [lowOnes]
    omega
  refine ⟨shift, width, Nat.pos_of_ne_zero ?_, rest, by rw [hshift, hones]⟩
  rintro rfl
  rw [hones, lowOnes_zero] at hodd
  exact Nat.not_odd_iff_even.mpr (even_two_mul rest) hodd

theorem MaskBits.fits {mask : UInt32} (h : MaskBits mask shift width) : shift + width ≤ 32 := by
  obtain ⟨rest, hmask⟩ := h.above
  obtain ⟨more, rfl⟩ := Nat.exists_eq_add_of_lt h.width_pos
  have hlow : 2 ^ more ≤ lowOnes (0 + more + 1) rest := by
    rw [Nat.zero_add, lowOnes, Nat.pow_succ]
    have hpos := Nat.two_pow_pos more
    omega
  have hle : 2 ^ (shift + more) ≤ mask.toNat := by
    rw [hmask, Nat.pow_add]
    exact Nat.mul_le_mul_left _ hlow
  have hexponent := (Nat.pow_lt_pow_iff_right (by decide)).mp (hle.trans_lt mask.toNat_lt)
  omega

-- ---------------------------------------------------------------------------
-- The two loops
-- ---------------------------------------------------------------------------

theorem toNat_byte (h : value ≤ 255) : (UInt8.ofNat value).toNat = value :=
  UInt8.toNat_ofNat_of_lt' (Nat.lt_succ_of_le h)

theorem toNat_ofNat_small (h : count ≤ 32) : (UInt32.ofNat count).toNat = count :=
  UInt32.toNat_ofNat_of_lt' (h.trans_lt (by decide))

theorem toNat_shiftRight {shift : Nat} (word : UInt32) (h : shift < 32) :
    (word >>> UInt32.ofNat shift).toNat = word.toNat / 2 ^ shift := by
  rw [UInt32.toNat_shiftRight, toNat_ofNat_small h.le, Nat.mod_eq_of_lt h,
    Nat.shiftRight_eq_div_pow]

theorem lowBit_iff (word : UInt32) : word &&& 1 = 0 ↔ word.toNat % 2 = 0 := by
  rw [← UInt32.toNat_inj, UInt32.toNat_and]
  exact (Nat.and_one_is_mod word.toNat) ▸ Iff.rfl

theorem MaskBits.maskShift_from {mask : UInt32} (h : MaskBits mask shift width)
    (hstart : start ≤ shift) (hfuel : shift < start + fuel) :
    maskShift mask fuel start = .ok shift := by
  obtain ⟨rest, hmask⟩ := h.above
  have hfits := h.fits
  have hwidth := h.width_pos
  induction fuel generalizing start with
  | zero => omega
  | succ fuel ih =>
    obtain ⟨more, rfl⟩ := Nat.exists_eq_add_of_le hstart
    have hbit : (mask >>> UInt32.ofNat start).toNat = 2 ^ more * lowOnes width rest := by
      rw [toNat_shiftRight mask (by omega), hmask, Nat.pow_add, Nat.mul_assoc,
        Nat.mul_div_cancel_left _ (Nat.two_pow_pos start)]
    cases more with
    | zero =>
      rw [maskShift, if_neg]
      · rfl
      · rw [lowBit_iff, hbit, Nat.pow_zero, Nat.one_mul, lowOnes_odd hwidth]
        decide
    | succ more =>
      rw [maskShift, if_pos]
      · exact ih (by omega) (by omega)
      · rw [lowBit_iff, hbit, Nat.pow_succ', Nat.mul_assoc, Nat.mul_mod_right]

theorem maskWidth_from {normalizedMask : UInt32} (hmask : normalizedMask.toNat = lowOnes more rest)
    (hfuel : more < fuel) : maskWidth fuel normalizedMask width = .ok (width + more) := by
  induction more generalizing fuel normalizedMask width with
  | zero =>
    obtain ⟨fuel, rfl⟩ := Nat.exists_eq_add_of_lt hfuel
    rw [maskWidth, if_neg]
    · rfl
    · rw [ne_eq, not_not, lowBit_iff, hmask, lowOnes_zero, Nat.mul_mod_right]
  | succ more ih =>
    obtain ⟨fuel, rfl⟩ := Nat.exists_eq_add_of_lt (Nat.zero_lt_of_lt hfuel)
    rw [Nat.zero_add, maskWidth, if_pos]
    · rw [ih _ (by omega), Nat.add_assoc, Nat.add_comm 1]
      rw [Lib.toNat_shiftRight_one, hmask, lowOnes_succ]
      omega
    · rw [ne_eq, lowBit_iff, hmask, lowOnes_succ]
      omega

-- ---------------------------------------------------------------------------
-- The channel
-- ---------------------------------------------------------------------------

def maskedValue (packedPixel mask : UInt32) (shift : Nat) : Nat :=
  (packedPixel &&& mask).toNat / 2 ^ shift

theorem toNat_maxValue (h : width < 32) :
    ((1 : UInt32) <<< UInt32.ofNat width - 1).toNat = 2 ^ width - 1 := by
  have hshift : ((1 : UInt32) <<< UInt32.ofNat width).toNat = 2 ^ width := by
    rw [UInt32.toNat_shiftLeft, toNat_ofNat_small h.le, Nat.mod_eq_of_lt h, UInt32.toNat_one,
      Nat.one_shiftLeft, Nat.mod_eq_of_lt (Nat.pow_lt_pow_right (by decide) h)]
  rw [toNat_sub_of_ge, hshift, UInt32.toNat_one]
  rw [hshift]
  exact Nat.one_le_two_pow

theorem MaskBits.ne_zero {mask : UInt32} (h : MaskBits mask shift width) : mask ≠ 0 := by
  rintro rfl
  obtain ⟨rest, hmask⟩ := h.above
  have hodd := lowOnes_odd h.width_pos rest
  have hpos := Nat.mul_pos (Nat.two_pow_pos shift) (show 0 < lowOnes width rest by omega)
  rw [← hmask] at hpos
  exact absurd hpos (by decide)

theorem MaskBits.shift_lt {mask : UInt32} (h : MaskBits mask shift width) : shift < 32 := by
  have hfits := h.fits
  have hwidth := h.width_pos
  omega

theorem MaskBits.extract {mask : UInt32} (h : MaskBits mask shift width) (packedPixel : UInt32) :
    extractBitfieldChannel packedPixel mask =
      if (1 : UInt32) <<< UInt32.ofNat width - 1 = 0 then .error .divideByZero
      else .ok (((packedPixel &&& mask) >>> UInt32.ofNat shift * 255 +
        ((1 : UInt32) <<< UInt32.ofNat width - 1) / 2) /
          ((1 : UInt32) <<< UInt32.ofNat width - 1)).toUInt8 := by
  obtain ⟨rest, hmask⟩ := h.above
  have hnormalized : (mask >>> UInt32.ofNat shift).toNat = lowOnes width rest := by
    rw [toNat_shiftRight mask h.shift_lt, hmask, Nat.mul_div_cancel_left _ (Nat.two_pow_pos shift)]
  have hfits := h.fits
  rw [extractBitfieldChannel, if_neg h.ne_zero, h.maskShift_from (Nat.zero_le _)
    (by have := h.shift_lt; omega), ok_bind]
  dsimp only
  rw [maskWidth_from hnormalized (by omega), ok_bind, Nat.zero_add]

theorem MaskBits.extract_eq {mask : UInt32} (h : MaskBits mask shift width) (hwidth : width < 32)
    (packedPixel : UInt32) :
    extractBitfieldChannel packedPixel mask =
      .ok (UInt8.ofNat ((maskedValue packedPixel mask shift * 255 + (2 ^ width - 1) / 2) % 2 ^ 32 /
        (2 ^ width - 1))) := by
  have hmax := toNat_maxValue hwidth
  have hpos : 2 ≤ 2 ^ width := Nat.le_self_pow h.width_pos.ne' 2
  rw [h.extract, if_neg]
  · congr 1
    rw [← UInt8.toNat_inj, UInt32.toNat_toUInt8, UInt32.toNat_div, UInt32.toNat_add,
      UInt32.toNat_mul, UInt32.toNat_div, hmax, toNat_shiftRight _ h.shift_lt, UInt8.toNat_ofNat',
      Nat.mod_add_mod]
    rfl
  · intro hzero
    rw [hzero] at hmax
    rw [UInt32.toNat_zero] at hmax
    omega

theorem MaskBits.extract_full {mask : UInt32} (h : MaskBits mask shift 32) (packedPixel : UInt32) :
    extractBitfieldChannel packedPixel mask = .error .divideByZero := by
  rw [h.extract, if_pos (by decide)]

section
variable {packedPixel mask : UInt32}

theorem MaskBits.allOnes (h : MaskBits mask shift 32) : mask = 0xFFFFFFFF := by
  obtain ⟨rest, hmask⟩ := h.above
  have hshift : shift = 0 := by
    have hfits := h.fits
    omega
  have hmost := mask.toNat_lt
  rw [hshift, lowOnes] at hmask
  exact UInt32.toNat_inj.mp (show mask.toNat = 2 ^ 32 - 1 by omega)

theorem extract_proper (packedPixel : UInt32) (h : mask ≠ 0xFFFFFFFF) :
    ∃ value, extractBitfieldChannel packedPixel mask = .ok value := by
  by_cases hzero : mask = 0
  · exact ⟨0, if_pos hzero⟩
  · obtain ⟨shift, width, hbits⟩ := MaskBits.exists_of_ne_zero hzero
    have hfits := hbits.fits
    rcases Nat.lt_or_ge width 32 with hwidth | hwidth
    · exact ⟨_, hbits.extract_eq hwidth packedPixel⟩
    · obtain rfl : width = 32 := by omega
      exact absurd hbits.allOnes h

theorem extract_of_and_eq_zero {value : UInt8} (hmask : packedPixel &&& mask = 0)
    (h : extractBitfieldChannel packedPixel mask = .ok value) : value = 0 := by
  by_cases hzero : mask = 0
  · rw [extractBitfieldChannel, if_pos hzero] at h
    exact (Except.ok.inj h).symm
  · obtain ⟨shift, width, hbits⟩ := MaskBits.exists_of_ne_zero hzero
    have hfits := hbits.fits
    rcases Nat.lt_or_ge width 32 with hwidth | hwidth
    · have hpos : 2 ≤ 2 ^ width := Nat.le_self_pow hbits.width_pos.ne' 2
      have hlimit : 2 ^ width < 2 ^ 32 := Nat.pow_lt_pow_right (by decide) hwidth
      rw [hbits.extract_eq hwidth, maskedValue, hmask, UInt32.toNat_zero, Nat.zero_div,
        Nat.zero_mul, Nat.zero_add, Nat.mod_eq_of_lt (by omega), Nat.div_eq_of_lt (by omega)] at h
      exact (Except.ok.inj h).symm
    · obtain rfl : width = 32 := by omega
      rw [hbits.extract_full] at h
      cases h

theorem and_lowOnes {value : Nat} (h : value < 2 ^ width) (rest : Nat) :
    value &&& lowOnes width rest = value := by
  have hlow : lowOnes width rest % 2 ^ width = 2 ^ width - 1 := by
    rw [lowOnes, Nat.pow_succ, Nat.mul_assoc, Nat.add_mul_mod_self_left,
      Nat.mod_eq_of_lt (Nat.sub_lt (Nat.two_pow_pos width) Nat.one_pos)]
  have hsmall : value &&& lowOnes width rest < 2 ^ width := Nat.and_le_left.trans_lt h
  rw [← Nat.mod_eq_of_lt hsmall, Nat.and_mod_two_pow, hlow, Nat.mod_eq_of_lt h,
    Nat.and_two_pow_sub_one_of_lt_two_pow h]

theorem MaskBits.exists_maskedValue (h : MaskBits mask shift width) {value : Nat}
    (hvalue : value < 2 ^ width) : ∃ packedPixel, maskedValue packedPixel mask shift = value := by
  obtain ⟨rest, hmask⟩ := h.above
  have hsmall : 2 ^ shift * value < 2 ^ 32 :=
    (Nat.mul_lt_mul_of_pos_left hvalue (Nat.two_pow_pos shift)).trans_le (by
      rw [← Nat.pow_add]
      exact Nat.pow_le_pow_right (by decide) h.fits)
  refine ⟨UInt32.ofNat (2 ^ shift * value), ?_⟩
  rw [maskedValue, UInt32.toNat_and, UInt32.toNat_ofNat', Nat.mod_eq_of_lt hsmall, hmask,
    ← Nat.shiftRight_eq_div_pow, Nat.shiftRight_and_distrib, Nat.shiftRight_eq_div_pow,
    Nat.shiftRight_eq_div_pow, Nat.mul_div_cancel_left _ (Nat.two_pow_pos shift),
    Nat.mul_div_cancel_left _ (Nat.two_pow_pos shift), and_lowOnes hvalue]

theorem mask_eq_zero (value : UInt8)
    (h : ∀ packedPixel, extractBitfieldChannel packedPixel mask = .ok value) : mask = 0 := by
  by_contra hmask
  obtain ⟨shift, width, hbits⟩ := MaskBits.exists_of_ne_zero hmask
  have hzero : value = 0 := extract_of_and_eq_zero (UInt32.zero_and ..) (h 0)
  have hfits := hbits.fits
  rcases Nat.lt_or_ge width 32 with hwidth | hwidth
  · have hpos : 2 ≤ 2 ^ width := Nat.le_self_pow hbits.width_pos.ne' 2
    have hlimit : 2 ^ width ≤ 2 ^ 31 := Nat.pow_le_pow_right (by decide) (by omega)
    obtain ⟨packedPixel, hvalue⟩ :=
      hbits.exists_maskedValue (show (2 ^ width - 1 + 254) / 255 < 2 ^ width by omega)
    have hpixel := h packedPixel
    rw [hbits.extract_eq hwidth, hvalue, hzero] at hpixel
    -- The smallest value that is not scaled to zero.
    obtain ⟨scaled, hscaled⟩ :
      ∃ scaled, (2 ^ width - 1 + 254) / 255 * 255 + (2 ^ width - 1) / 2 = scaled := ⟨_, rfl⟩
    have hone : 1 ≤ scaled / (2 ^ width - 1) :=
      (Nat.le_div_iff_mul_le (by omega)).mpr (by omega)
    have hbyte : scaled / (2 ^ width - 1) < 256 := Nat.div_lt_of_lt_mul (by omega)
    rw [hscaled, Nat.mod_eq_of_lt (by omega)] at hpixel
    have hnumber := congrArg UInt8.toNat (Except.ok.inj hpixel)
    rw [toNat_byte (by omega), UInt8.toNat_zero] at hnumber
    omega
  · obtain rfl : width = 32 := by omega
    have hfail := h 0
    rw [hbits.extract_full] at hfail
    cases hfail

end

-- ---------------------------------------------------------------------------
-- Contiguous masks
-- ---------------------------------------------------------------------------

structure Channel where
  shift : Nat
  width : Nat
  width_pos : 0 < width
  fits : shift + width ≤ 32
  deriving DecidableEq

namespace Channel

variable (channel : Channel)

def maxValue : Nat := 2 ^ channel.width - 1

def mask : UInt32 := UInt32.ofNat (2 ^ channel.shift * channel.maxValue)

def value (packedPixel : UInt32) : Nat :=
  packedPixel.toNat / 2 ^ channel.shift % 2 ^ channel.width

theorem toNat_mask : channel.mask.toNat = 2 ^ channel.shift * channel.maxValue := by
  have hpow : 2 ^ channel.shift * 2 ^ channel.width ≤ 2 ^ 32 := by
    rw [← Nat.pow_add]
    exact Nat.pow_le_pow_right (by decide) channel.fits
  have hlt : 2 ^ channel.shift * channel.maxValue < 2 ^ channel.shift * 2 ^ channel.width :=
    Nat.mul_lt_mul_of_pos_left (Nat.sub_lt (Nat.two_pow_pos _) Nat.one_pos) (Nat.two_pow_pos _)
  exact UInt32.toNat_ofNat_of_lt' (hlt.trans_le hpow)

theorem maskBits : MaskBits channel.mask channel.shift channel.width where
  width_pos := channel.width_pos
  above := ⟨0, by rw [toNat_mask, lowOnes, Nat.mul_zero, Nat.add_zero, maxValue]⟩

theorem maskedValue_mask (packedPixel : UInt32) :
    maskedValue packedPixel channel.mask channel.shift = channel.value packedPixel := by
  rw [maskedValue, UInt32.toNat_and, toNat_mask, ← Nat.shiftRight_eq_div_pow,
    Nat.shiftRight_and_distrib, Nat.shiftRight_eq_div_pow, Nat.shiftRight_eq_div_pow,
    Nat.mul_div_cancel_left _ (Nat.two_pow_pos _), maxValue, Nat.and_two_pow_sub_one_eq_mod, value]

theorem value_le (packedPixel : UInt32) : channel.value packedPixel ≤ channel.maxValue :=
  Nat.le_sub_one_of_lt (Nat.mod_lt _ (Nat.two_pow_pos _))

theorem one_le_maxValue : 1 ≤ channel.maxValue := by
  have hpow : 2 ≤ 2 ^ channel.width := Nat.le_self_pow channel.width_pos.ne' 2
  rw [maxValue]
  omega

theorem maxValue_odd : channel.maxValue % 2 = 1 := by
  have h := lowOnes_odd channel.width_pos 0
  rwa [lowOnes, Nat.mul_zero, Nat.add_zero] at h

theorem exists_value (h : stored ≤ channel.maxValue) :
    ∃ packedPixel, channel.value packedPixel = stored := by
  refine ⟨UInt32.ofNat (2 ^ channel.shift * stored), ?_⟩
  have hlt : 2 ^ channel.shift * stored < 2 ^ 32 :=
    (Nat.mul_le_mul_left _ h).trans_lt (toNat_mask channel ▸ channel.mask.toNat_lt)
  rw [Channel.value, UInt32.toNat_ofNat_of_lt' hlt, Nat.mul_div_cancel_left _ (Nat.two_pow_pos _),
    Nat.mod_eq_of_lt]
  exact (Nat.lt_succ_of_le h).trans_eq (Nat.sub_add_cancel Nat.one_le_two_pow)

-- ---------------------------------------------------------------------------
-- Scaling to a byte
-- ---------------------------------------------------------------------------

/-- The sum that is divided, when nothing wraps. -/
def scaled (packedPixel : UInt32) : Nat :=
  255 * channel.value packedPixel + channel.maxValue / 2

theorem extract_eq (hwidth : channel.width < 32) (packedPixel : UInt32) :
    extractBitfieldChannel packedPixel channel.mask =
      .ok (UInt8.ofNat (channel.scaled packedPixel % 2 ^ 32 / channel.maxValue)) := by
  rw [channel.maskBits.extract_eq hwidth, channel.maskedValue_mask, Nat.mul_comm]
  rfl

theorem scaled_div_le (packedPixel : UInt32) :
    channel.scaled packedPixel / channel.maxValue ≤ 255 := by
  have hvalue := channel.value_le packedPixel
  have hmax := channel.one_le_maxValue
  rw [← Nat.lt_succ_iff, Nat.div_lt_iff_lt_mul hmax, scaled]
  omega

theorem isNearest_scaled (packedPixel : UInt32) :
    IsNearest ((channel.scaled packedPixel / channel.maxValue : Nat) : Int)
      (255 * channel.value packedPixel : Nat) channel.maxValue := by
  have hodd := channel.maxValue_odd
  have hmax := channel.one_le_maxValue
  have h := isNearest_round (255 * channel.value packedPixel : Nat)
    (show (0 : Int) < channel.maxValue by omega) (by omega)
  rw [scaled, Int.natCast_ediv, Int.natCast_add, Int.natCast_ediv channel.maxValue]
  exact h

def ExtractsNearest (packedPixel : UInt32) : Prop :=
  ∃ byte, extractBitfieldChannel packedPixel channel.mask = .ok byte ∧
    IsNearest byte.toNat (255 * channel.value packedPixel : Nat) channel.maxValue

theorem extractsNearest_iff (packedPixel : UInt32) : channel.ExtractsNearest packedPixel ↔
    channel.width < 32 ∧ 255 * channel.value packedPixel + channel.maxValue / 2 < 2 ^ 32 := by
  have hmax := channel.one_le_maxValue
  have hle := channel.scaled_div_le packedPixel
  by_cases hwidth : channel.width < 32
  · have hwrapped : channel.scaled packedPixel % 2 ^ 32 / channel.maxValue ≤
        channel.scaled packedPixel / channel.maxValue := Nat.div_le_div_right (Nat.mod_le _ _)
    have hbyte : (UInt8.ofNat
        (channel.scaled packedPixel % 2 ^ 32 / channel.maxValue)).toNat =
          channel.scaled packedPixel % 2 ^ 32 / channel.maxValue := toNat_byte (hwrapped.trans hle)
    constructor
    · rintro ⟨byte, hextract, hnearest⟩
      rw [channel.extract_eq hwidth] at hextract
      obtain rfl := Except.ok.inj hextract
      rw [hbyte] at hnearest
      refine ⟨hwidth, ?_⟩
      by_contra hbig
      -- What wraps is more than the largest value, so the quotient comes out smaller.
      have hmaxlt : channel.maxValue < 2 ^ 32 :=
        (Nat.sub_le _ _).trans_lt (Nat.pow_lt_pow_right (by decide) hwidth)
      have hstep : channel.scaled packedPixel % 2 ^ 32 + channel.maxValue ≤
          channel.scaled packedPixel := by
        have hscaled : 2 ^ 32 ≤ channel.scaled packedPixel := Nat.le_of_not_lt hbig
        omega
      have hless := Nat.div_le_div_right (c := channel.maxValue) hstep
      rw [Nat.add_div_right _ hmax] at hless
      have hsame := hnearest.unique (channel.isNearest_scaled packedPixel)
      omega
    · rintro ⟨-, hsmall⟩
      refine ⟨_, channel.extract_eq hwidth packedPixel, ?_⟩
      rw [hbyte, Nat.mod_eq_of_lt (show channel.scaled packedPixel < 2 ^ 32 from hsmall)]
      exact channel.isNearest_scaled packedPixel
  · obtain hfull : channel.width = 32 := by
      have := channel.fits
      omega
    have hbits := channel.maskBits
    rw [hfull] at hbits
    constructor
    · rintro ⟨byte, hextract, -⟩
      rw [hbits.extract_full] at hextract
      cases hextract
    · exact fun h => absurd h.1 hwidth

structure Extracts : Prop where
  nearest : ∀ packedPixel, channel.ExtractsNearest packedPixel
  zero : ∀ packedPixel, channel.value packedPixel = 0 →
    extractBitfieldChannel packedPixel channel.mask = .ok 0
  largest : ∀ packedPixel, channel.value packedPixel = channel.maxValue →
    extractBitfieldChannel packedPixel channel.mask = .ok 255
  monotone : ∀ first second firstByte secondByte, channel.value first ≤ channel.value second →
    extractBitfieldChannel first channel.mask = .ok firstByte →
    extractBitfieldChannel second channel.mask = .ok secondByte → firstByte ≤ secondByte

theorem extract_of_narrow (hwidth : channel.width ≤ 24) (packedPixel : UInt32) :
    extractBitfieldChannel packedPixel channel.mask =
      .ok (UInt8.ofNat (channel.scaled packedPixel / channel.maxValue)) ∧
    channel.scaled packedPixel < 2 ^ 32 := by
  have hpow : 2 ^ channel.width ≤ 2 ^ 24 := Nat.pow_le_pow_right (by decide) hwidth
  have hvalue := channel.value_le packedPixel
  have hsmall : channel.scaled packedPixel < 2 ^ 32 := by
    rw [maxValue] at hvalue
    rw [scaled, maxValue]
    omega
  rw [channel.extract_eq (by omega), Nat.mod_eq_of_lt hsmall]
  exact ⟨rfl, hsmall⟩

theorem extracts_of_narrow (hwidth : channel.width ≤ 24) : channel.Extracts where
  nearest packedPixel := (channel.extractsNearest_iff packedPixel).mpr
    ⟨by omega, (channel.extract_of_narrow hwidth packedPixel).2⟩
  zero packedPixel hvalue := by
    have hmax := channel.one_le_maxValue
    rw [(channel.extract_of_narrow hwidth packedPixel).1, scaled, hvalue,
      Nat.div_eq_of_lt (by omega)]
    rfl
  largest packedPixel hvalue := by
    have hmax := channel.one_le_maxValue
    rw [(channel.extract_of_narrow hwidth packedPixel).1, scaled, hvalue, Nat.mul_comm,
      Nat.mul_add_div hmax, Nat.div_eq_of_lt (by omega)]
    rfl
  monotone first second firstByte secondByte hvalue hfirst hsecond := by
    rw [(channel.extract_of_narrow hwidth first).1] at hfirst
    rw [(channel.extract_of_narrow hwidth second).1] at hsecond
    obtain rfl := Except.ok.inj hfirst
    obtain rfl := Except.ok.inj hsecond
    rw [UInt8.le_iff_toNat_le, toNat_byte (channel.scaled_div_le first),
      toNat_byte (channel.scaled_div_le second)]
    exact Nat.div_le_div_right (Nat.add_le_add_right (Nat.mul_le_mul_left _ hvalue) _)

end Channel

/-- A byte is the nearest one unless the mask is all ones or the sum wraps, and no sum wraps
for the masks of up to 24 bits. -/
theorem extractBitfieldChannel_nearest_iff (channel : Channel) :
    (∀ packedPixel, channel.ExtractsNearest packedPixel ↔
      channel.width < 32 ∧ 255 * channel.value packedPixel + channel.maxValue / 2 < 2 ^ 32) ∧
    (channel.Extracts ↔ channel.width ≤ 24) := by
  refine ⟨channel.extractsNearest_iff, fun h => ?_, channel.extracts_of_narrow⟩
  obtain ⟨packedPixel, hvalue⟩ := channel.exists_value le_rfl
  obtain ⟨-, hsmall⟩ := (channel.extractsNearest_iff packedPixel).mp (h.nearest packedPixel)
  by_contra hwidth
  have hpow : 2 ^ 25 ≤ 2 ^ channel.width := Nat.pow_le_pow_right (by decide) (by omega)
  rw [hvalue, Channel.maxValue] at hsmall
  omega

/-- All ones: the largest value wraps to zero and divides. -/
theorem extractBitfieldChannel_allOnes :
    ¬ (Channel.mk 0 32 (by decide) (by decide)).ExtractsNearest 0 ∧
      extractBitfieldChannel 0 0xFFFFFFFF = .error .divideByZero := by
  refine ⟨fun h => ?_, by decide +kernel⟩
  exact absurd ((Channel.extractsNearest_iff _ _).mp h).1 (by decide)

end DragonOS.Build.BmpLoader
