import DragonOS.Boot.PixelCodec
import DragonOS.Lib.Averages

/-!
# Blending

A blended channel is a rounded average of the colour's channel and the decoded
one, so it lies between them and moves towards the colour with alpha. Packing
keeps the order of a channel's bytes. A decoded channel packs to what it was
decoded from, so every byte between it and the colour's does, and blending a
colour over itself stores the same word.
-/

namespace DragonOS.Boot

open Lib

-- ---------------------------------------------------------------------------
-- One channel
-- ---------------------------------------------------------------------------

theorem toNat_blendChannel (source destination alpha : UInt8) :
    (blendChannel source destination alpha).toNat =
      Terms.mix 127 255 source.toNat destination.toNat alpha.toNat := by
  have hsource := source.toNat_lt
  have hdestination := destination.toNat_lt
  have halpha := alpha.toNat_lt
  have hbyte := Terms.mix_mem_uIcc (show 127 < 255 by decide) source.toNat destination.toNat
    (show alpha.toNat ≤ 255 by omega)
  rw [Set.mem_uIcc] at hbyte
  have hfirst := Nat.mul_le_mul_right alpha.toNat (show source.toNat ≤ 255 by omega)
  have hsecond := Nat.mul_le_mul_right (255 - alpha.toNat) (show destination.toNat ≤ 255 by omega)
  have hinverse : (255 - alpha.toUInt32).toNat = 255 - alpha.toNat := by
    rw [UInt32.toNat_sub_of_le _ _ (by
      rw [UInt32.le_iff_toNat_le, UInt8.toNat_toUInt32]
      exact Nat.le_of_lt_succ halpha), UInt8.toNat_toUInt32]
    rfl
  have hmix : Terms.mix 127 255 source.toNat destination.toNat alpha.toNat =
      (source.toNat * alpha.toNat + destination.toNat * (255 - alpha.toNat) + 127) / 255 := by
    simp only [Terms.mix, Terms.average, Terms.total, Terms.weighted, List.map_cons, List.map_nil,
      List.sum_cons, List.sum_nil, Nat.add_zero]
    rw [Nat.add_sub_cancel' (by omega), Nat.mul_comm source.toNat, Nat.mul_comm destination.toNat]
  have hsum : (source.toUInt32 * alpha.toUInt32 + destination.toUInt32 * (255 - alpha.toUInt32) +
      127).toNat =
      source.toNat * alpha.toNat + destination.toNat * (255 - alpha.toNat) + 127 := by
    have hleft : (source.toUInt32 * alpha.toUInt32).toNat = source.toNat * alpha.toNat := by
      rw [toNat_mul_of_lt] <;> simp only [UInt8.toNat_toUInt32]
      omega
    have hright : (destination.toUInt32 * (255 - alpha.toUInt32)).toNat =
        destination.toNat * (255 - alpha.toNat) := by
      rw [toNat_mul_of_lt] <;> simp only [UInt8.toNat_toUInt32, hinverse]
      omega
    have hboth := toNat_add_of_lt (a := source.toUInt32 * alpha.toUInt32)
      (b := destination.toUInt32 * (255 - alpha.toUInt32)) (by rw [hleft, hright]; omega)
    have hrounding : (127 : UInt32).toNat = 127 := rfl
    rw [toNat_add_of_lt (by rw [hboth, hleft, hright, hrounding]; omega), hboth, hleft, hright,
      hrounding]
  rw [hmix] at hbyte ⊢
  rw [blendChannel, UInt32.toNat_toUInt8, UInt32.toNat_div, hsum]
  exact Nat.mod_eq_of_lt (by
    show _ / 255 < 2 ^ 8
    omega)

theorem blendChannel_mem_uIcc (source destination alpha : UInt8) :
    (blendChannel source destination alpha).toNat ∈
      Set.uIcc source.toNat destination.toNat := by
  rw [toNat_blendChannel]
  exact Terms.mix_mem_uIcc (by decide) _ _ (Nat.le_of_lt_succ alpha.toNat_lt)

theorem blendChannel_toward (source destination : UInt8) {alpha alpha' : UInt8}
    (h : alpha ≤ alpha') :
    (blendChannel source destination alpha').toNat ∈
      Set.uIcc source.toNat (blendChannel source destination alpha).toNat := by
  rw [toNat_blendChannel, toNat_blendChannel]
  exact Terms.mix_toward (by decide) _ _ (UInt8.le_iff_toNat_le.mp h)
    (Nat.le_of_lt_succ alpha'.toNat_lt)

theorem blendChannel_self (channel alpha : UInt8) : blendChannel channel channel alpha = channel := by
  have h := blendChannel_mem_uIcc channel channel alpha
  rw [Set.uIcc_self, Set.mem_singleton_iff] at h
  exact UInt8.toNat_inj.mp h

theorem blendChannel_ends (source destination : UInt8) :
    blendChannel source destination 0 = destination ∧
      blendChannel source destination 255 = source := by
  have hzero : (0 : UInt8).toNat = 0 := rfl
  have hfull : (255 : UInt8).toNat = 255 := rfl
  constructor <;> refine UInt8.toNat_inj.mp ?_ <;> rw [toNat_blendChannel] <;>
    simp only [hzero, hfull, Terms.mix, Terms.average, Terms.total, Terms.weighted, List.map_cons,
      List.map_nil, List.sum_cons, List.sum_nil] <;> omega

-- ---------------------------------------------------------------------------
-- Packing a blended channel
-- ---------------------------------------------------------------------------

theorem scaled_mono (width : Nat) :
    Monotone fun channel : Nat => (channel * (2 ^ width - 1) + 127) / 255 := fun _ _ hle =>
  Nat.div_le_div_right (Nat.add_le_add_right (Nat.mul_le_mul_right _ hle) _)

namespace ContiguousMask

variable {mask : UInt32} {shift width : Nat} (h : ContiguousMask mask shift width)
include h

theorem scaleChannel_of_mem_uIcc (hwidth : width ≤ 24) {low high channel : UInt8}
    (hends : scaleChannel low.toUInt32 mask = scaleChannel high.toUInt32 mask)
    (hbetween : channel.toNat ∈ Set.uIcc low.toNat high.toNat) :
    scaleChannel channel.toUInt32 mask = scaleChannel low.toUInt32 mask := by
  have hscaled : ∀ a b : UInt8, scaleChannel a.toUInt32 mask = scaleChannel b.toUInt32 mask ↔
      (a.toNat * (2 ^ width - 1) + 127) / 255 = (b.toNat * (2 ^ width - 1) + 127) / 255 := by
    intro a b
    rw [← UInt32.toNat_inj, (h.toNat_scaleChannel hwidth a).1, (h.toNat_scaleChannel hwidth b).1,
      Nat.shiftLeft_eq, Nat.shiftLeft_eq]
    exact Nat.mul_left_inj (Nat.ne_of_gt (Nat.two_pow_pos shift))
  have himage := (scaled_mono width).mapsTo_uIcc hbetween
  rw [hscaled] at hends ⊢
  simpa only [hends, Set.uIcc_self, Set.mem_singleton_iff] using himage

/-- A packed channel is decoded to a byte that packs to it again, for every width. -/
theorem expandChannel_scaleChannel_scaleChannel (hwidth : width ≤ 24) (channel : UInt8) :
    ∃ byte, expandChannel (scaleChannel channel.toUInt32 mask >>> UInt32.ofNat shift)
        (maskWidth mask (UInt32.ofNat shift)) = some byte ∧
      scaleChannel byte.toUInt32 mask = scaleChannel channel.toUInt32 mask := by
  rcases Nat.le_total 8 width with hwide | hnarrow
  · exact ⟨channel, h.expandChannel_scaleChannel hwide hwidth channel, rfl⟩
  · have hback := h.scaleChannel_expandChannel hnarrow (scaleChannel channel.toUInt32 mask)
    rwa [scaleChannel_and] at hback

theorem expandChannel_and (hwidth : width ≤ 24) (pixel : UInt32) :
    ∃ byte, expandChannel ((pixel &&& mask) >>> UInt32.ofNat shift)
      (maskWidth mask (UInt32.ofNat shift)) = some byte := by
  have hchannel : ((pixel &&& mask) >>> UInt32.ofNat shift).toNat < 2 ^ width := by
    rw [h.toNat_channel]
    exact Nat.mod_lt _ (Nat.two_pow_pos _)
  obtain ⟨byte, hbyte, -⟩ := h.expandChannel_eq hwidth hchannel
  exact ⟨byte, hbyte⟩

end ContiguousMask

-- ---------------------------------------------------------------------------
-- Whole pixels
-- ---------------------------------------------------------------------------

/-- A byte for each channel, or contiguous masks of at most 24 bits that do not
overlap. -/
def FramebufferInfo.Packs (framebufferInfo : FramebufferInfo) : Prop :=
  framebufferInfo.pixelFormat = gopPixelRedGreenBlueReserved8Bit ∨
  framebufferInfo.pixelFormat = gopPixelBlueGreenRedReserved8Bit ∨
  framebufferInfo.pixelFormat = gopPixelBitMask ∧ ∃ redWidth greenWidth blueWidth,
    redWidth ≤ 24 ∧ greenWidth ≤ 24 ∧ blueWidth ≤ 24 ∧
    ChannelMasks framebufferInfo.redMask framebufferInfo.greenMask framebufferInfo.blueMask
      redWidth greenWidth blueWidth

def FramebufferInfo.decompose (framebufferInfo : FramebufferInfo) (pixel : UInt32) : Option Rgb :=
  decomposePixel pixel framebufferInfo.pixelFormat framebufferInfo.redMask
    framebufferInfo.greenMask framebufferInfo.blueMask

def Rgb.blend (source destination : Rgb) (alpha : UInt8) : Rgb :=
  ⟨blendChannel source.red destination.red alpha, blendChannel source.green destination.green alpha,
    blendChannel source.blue destination.blue alpha⟩

structure Rgb.Between (first second color : Rgb) : Prop where
  red : color.red.toNat ∈ Set.uIcc first.red.toNat second.red.toNat
  green : color.green.toNat ∈ Set.uIcc first.green.toNat second.green.toNat
  blue : color.blue.toNat ∈ Set.uIcc first.blue.toNat second.blue.toNat

theorem Rgb.blend_between (source destination : Rgb) (alpha : UInt8) :
    Rgb.Between source destination (source.blend destination alpha) :=
  ⟨blendChannel_mem_uIcc _ _ _, blendChannel_mem_uIcc _ _ _, blendChannel_mem_uIcc _ _ _⟩

theorem Rgb.blend_toward (source destination : Rgb) (h : alpha ≤ alpha') :
    Rgb.Between source (source.blend destination alpha) (source.blend destination alpha') :=
  ⟨blendChannel_toward _ _ h, blendChannel_toward _ _ h, blendChannel_toward _ _ h⟩

theorem Rgb.blend_self (color : Rgb) (alpha : UInt8) : color.blend color alpha = color := by
  simp only [Rgb.blend, blendChannel_self]

theorem Rgb.blend_ends (source destination : Rgb) :
    source.blend destination 0 = destination ∧ source.blend destination 255 = source := by
  simp only [Rgb.blend, blendChannel_ends, and_self]

section
variable {framebufferInfo : FramebufferInfo}

/-- The general formula, which the shortcut for full alpha agrees with. -/
theorem alphaBlendPixel_eq (hpixel : framebufferInfo.decompose pixel = some destination)
    (halpha : alpha ≠ 0) (color : Rgb) :
    alphaBlendPixel framebufferInfo pixel color alpha =
      some (framebufferInfo.compose (color.blend destination alpha)) := by
  by_cases hfull : alpha = 255
  · subst hfull
    rw [alphaBlendPixel, if_pos rfl, (color.blend_ends destination).2]
  · rw [FramebufferInfo.decompose] at hpixel
    rw [alphaBlendPixel, if_neg hfull, if_neg halpha, hpixel]
    rfl

theorem FramebufferInfo.Packs.decompose (h : framebufferInfo.Packs) (pixel : UInt32) :
    ∃ color, framebufferInfo.decompose pixel = some color := by
  have hsecond : gopPixelBlueGreenRedReserved8Bit ≠ gopPixelRedGreenBlueReserved8Bit := by decide
  rcases h with hformat | hformat | ⟨hformat, redWidth, greenWidth, blueWidth, hred, hgreen, hblue,
    ⟨redShift, hr⟩, ⟨greenShift, hg⟩, ⟨blueShift, hb⟩, -, -, -⟩
  · simp [FramebufferInfo.decompose, decomposePixel, hformat]
  · simp [FramebufferInfo.decompose, decomposePixel, hformat, hsecond]
  · obtain ⟨red, hredByte⟩ := hr.expandChannel_and hred pixel
    obtain ⟨green, hgreenByte⟩ := hg.expandChannel_and hgreen pixel
    obtain ⟨blue, hblueByte⟩ := hb.expandChannel_and hblue pixel
    refine ⟨⟨red, green, blue⟩, ?_⟩
    rw [FramebufferInfo.decompose, hformat]
    exact decomposePixel_bitMask _ hr hg hb hredByte hgreenByte hblueByte

/-- A packed colour decodes to one that blends with the first without leaving the
packed word. -/
theorem FramebufferInfo.Packs.compose_blend (h : framebufferInfo.Packs) (color : Rgb)
    (alpha : UInt8) :
    ∃ destination, framebufferInfo.decompose (framebufferInfo.compose color) = some destination ∧
      framebufferInfo.compose (color.blend destination alpha) = framebufferInfo.compose color := by
  have hbytes : ∀ (hformat : framebufferInfo.pixelFormat = gopPixelRedGreenBlueReserved8Bit ∨
      framebufferInfo.pixelFormat = gopPixelBlueGreenRedReserved8Bit),
      framebufferInfo.decompose (framebufferInfo.compose color) = some color := fun hformat =>
    (byteFormat_roundTrip hformat).1 color
  rcases h with hformat | hformat | ⟨hformat, redWidth, greenWidth, blueWidth, hred, hgreen, hblue,
    ⟨redShift, hr⟩, ⟨greenShift, hg⟩, ⟨blueShift, hb⟩, hredGreen, hredBlue, hgreenBlue⟩
  · exact ⟨color, hbytes (.inl hformat), by rw [Rgb.blend_self]⟩
  · exact ⟨color, hbytes (.inr hformat), by rw [Rgb.blend_self]⟩
  · obtain ⟨hredPart, hgreenPart, hbluePart⟩ :=
      composePixel_and hredGreen hredBlue hgreenBlue color
    obtain ⟨red, hredByte, hredBack⟩ :=
      hr.expandChannel_scaleChannel_scaleChannel hred color.red
    obtain ⟨green, hgreenByte, hgreenBack⟩ :=
      hg.expandChannel_scaleChannel_scaleChannel hgreen color.green
    obtain ⟨blue, hblueByte, hblueBack⟩ :=
      hb.expandChannel_scaleChannel_scaleChannel hblue color.blue
    refine ⟨⟨red, green, blue⟩, ?_, ?_⟩
    · rw [FramebufferInfo.decompose, FramebufferInfo.compose, hformat]
      exact decomposePixel_bitMask _ hr hg hb (by rwa [hredPart]) (by rwa [hgreenPart])
        (by rwa [hbluePart])
    · rw [FramebufferInfo.compose, FramebufferInfo.compose, hformat, composePixel_bitMask,
        composePixel_bitMask]
      simp only [Rgb.blend]
      rw [hr.scaleChannel_of_mem_uIcc hred hredBack.symm (blendChannel_mem_uIcc _ _ _),
        hg.scaleChannel_of_mem_uIcc hgreen hgreenBack.symm (blendChannel_mem_uIcc _ _ _),
        hb.scaleChannel_of_mem_uIcc hblue hblueBack.symm (blendChannel_mem_uIcc _ _ _)]

theorem FramebufferInfo.Packs.alphaBlendPixel_compose (h : framebufferInfo.Packs) (color : Rgb)
    (alpha : UInt8) :
    alphaBlendPixel framebufferInfo (framebufferInfo.compose color) color alpha =
      some (framebufferInfo.compose color) := by
  by_cases halpha : alpha = 0
  · subst halpha
    rfl
  · obtain ⟨destination, hdestination, hblend⟩ := h.compose_blend color alpha
    rw [alphaBlendPixel_eq hdestination halpha, hblend]

/-- Blending mixes the colour with the decoded pixel: between the two, closer to the
colour with more alpha, the colour itself with full alpha, and without effect on the
colour's own pixel. -/
theorem alphaBlendPixel_laws (h : framebufferInfo.Packs) :
    (∀ pixel color, ∃ destination, framebufferInfo.decompose pixel = some destination ∧
      (∀ alpha, alpha ≠ 0 → alphaBlendPixel framebufferInfo pixel color alpha =
        some (framebufferInfo.compose (color.blend destination alpha))) ∧
      alphaBlendPixel framebufferInfo pixel color 0 = some pixel ∧
      color.blend destination 0 = destination ∧
      (∀ alpha, Rgb.Between color destination (color.blend destination alpha)) ∧
      ∀ alpha alpha', alpha ≤ alpha' →
        Rgb.Between color (color.blend destination alpha) (color.blend destination alpha')) ∧
    ∀ color alpha, alphaBlendPixel framebufferInfo (framebufferInfo.compose color) color alpha =
      some (framebufferInfo.compose color) := by
  refine ⟨fun pixel color => ?_, h.alphaBlendPixel_compose⟩
  obtain ⟨destination, hdestination⟩ := h.decompose pixel
  refine ⟨destination, hdestination, fun alpha halpha => alphaBlendPixel_eq hdestination halpha color,
    rfl, (color.blend_ends destination).1, color.blend_between destination,
    fun _ _ => color.blend_toward destination⟩

end

/-- A screen with five, six and five bits for the channels. -/
def highColor : FramebufferInfo where
  screenWidth := 640
  screenHeight := 480
  pixelsPerScanLine := 640
  pixelFormat := gopPixelBitMask
  redMask := 0xF800
  greenMask := 0x07E0
  blueMask := 0x001F
  framebuffer := 0x20000000

theorem alphaBlendPixel_laws_highColor :
    (∀ pixel color, ∃ destination, highColor.decompose pixel = some destination ∧
      (∀ alpha, alpha ≠ 0 → alphaBlendPixel highColor pixel color alpha =
        some (highColor.compose (color.blend destination alpha))) ∧
      alphaBlendPixel highColor pixel color 0 = some pixel ∧
      color.blend destination 0 = destination ∧
      (∀ alpha, Rgb.Between color destination (color.blend destination alpha)) ∧
      ∀ alpha alpha', alpha ≤ alpha' →
        Rgb.Between color (color.blend destination alpha) (color.blend destination alpha')) ∧
    ∀ color alpha, alphaBlendPixel highColor (highColor.compose color) color alpha =
      some (highColor.compose color) :=
  alphaBlendPixel_laws
    (.inr (.inr ⟨rfl, 5, 6, 5, by decide, by decide, by decide, highMasks⟩))

end DragonOS.Boot
