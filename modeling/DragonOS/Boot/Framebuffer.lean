import Mathlib.Algebra.Order.Ring.Int
import Mathlib.Tactic.Common

/-!
# Accepting a graphics mode

`initializeFramebuffer` copies the mode the firmware reports into a
`FramebufferInfo` and compares its pixel count with the size of the
framebuffer. The count is a 32-bit product and the size is truncated to 32
bits, so acceptance alone does not bound the exact product;
`initializeFramebuffer_fits_iff` says which modes are bounded.
-/

namespace DragonOS.Boot

-- ---------------------------------------------------------------------------
-- Status codes and pixel formats
-- ---------------------------------------------------------------------------

abbrev EfiStatus := UInt64

def efiSuccess : EfiStatus := 0
def efiErrorBit : EfiStatus := 0x8000000000000000
def efiInvalidParameter : EfiStatus := efiErrorBit ||| 2
def efiUnsupported : EfiStatus := efiErrorBit ||| 3
def efiBufferTooSmall : EfiStatus := efiErrorBit ||| 5

def gopPixelRedGreenBlueReserved8Bit : UInt32 := 0
def gopPixelBlueGreenRedReserved8Bit : UInt32 := 1
def gopPixelBitMask : UInt32 := 2
def gopPixelBltOnly : UInt32 := 3

-- ---------------------------------------------------------------------------
-- The framebuffer record
-- ---------------------------------------------------------------------------

/-- `framebuffer` is the address of the first pixel. Addresses count 32-bit
words: they are the byte address divided by four, and zero is the null
pointer. -/
structure FramebufferInfo where
  screenWidth : UInt32
  screenHeight : UInt32
  pixelsPerScanLine : UInt32
  pixelFormat : UInt32
  redMask : UInt32
  greenMask : UInt32
  blueMask : UInt32
  framebuffer : Nat
  deriving DecidableEq, Inhabited, Repr

abbrev FramebufferInfo.withBase (framebufferInfo : FramebufferInfo) (base : Nat) :
    FramebufferInfo :=
  { framebufferInfo with framebuffer := base }

/-- The `Mode` and `Mode->Info` fields of the graphics output protocol that
the loader reads. -/
structure GopMode where
  horizontalResolution : UInt32
  verticalResolution : UInt32
  pixelFormat : UInt32
  redMask : UInt32
  greenMask : UInt32
  blueMask : UInt32
  pixelsPerScanLine : UInt32
  framebufferBase : UInt64
  framebufferSize : UInt64
  deriving DecidableEq, Repr

/-- What `LocateProtocol` answers: a status, and the protocol unless the
returned pointer is null. -/
structure LocateReply where
  status : EfiStatus
  protocol : Option GopMode
  deriving DecidableEq, Repr

/-- The fields that do not need a check, copied before the mode is judged. -/
def FramebufferInfo.readMode (framebufferInfo : FramebufferInfo) (mode : GopMode) :
    FramebufferInfo :=
  { framebufferInfo with
    screenWidth := mode.horizontalResolution
    screenHeight := mode.verticalResolution
    pixelFormat := mode.pixelFormat
    pixelsPerScanLine := mode.pixelsPerScanLine
    redMask := mode.redMask
    greenMask := mode.greenMask
    blueMask := mode.blueMask }

def initializeFramebuffer (reply : LocateReply) (framebufferInfo : FramebufferInfo) :
    EfiStatus × FramebufferInfo :=
  match reply.protocol with
  | none => (if reply.status ≠ efiSuccess then reply.status else efiUnsupported, framebufferInfo)
  | some mode =>
    if reply.status ≠ efiSuccess then (reply.status, framebufferInfo)
    else
      let framebufferInfo := framebufferInfo.readMode mode
      if framebufferInfo.pixelFormat = gopPixelBltOnly then (efiUnsupported, framebufferInfo)
      else
        let framebufferInfo :=
          { framebufferInfo with framebuffer := mode.framebufferBase.toNat / 4 }
        let maxPixels := (mode.framebufferSize / 4).toUInt32
        let totalPixels := framebufferInfo.pixelsPerScanLine * framebufferInfo.screenHeight
        if totalPixels > maxPixels then (efiUnsupported, framebufferInfo)
        else (efiSuccess, framebufferInfo)

-- ---------------------------------------------------------------------------
-- When acceptance bounds every pixel
-- ---------------------------------------------------------------------------

/-- Every pixel of the screen has an exact index below the size in pixels, and
the pixel count the drawing code computes is exact. -/
def FramebufferInfo.Fits (framebufferInfo : FramebufferInfo) (framebufferSize : UInt64) : Prop :=
  (∀ x y, x < framebufferInfo.screenWidth.toNat → y < framebufferInfo.screenHeight.toNat →
    y * framebufferInfo.pixelsPerScanLine.toNat + x < framebufferSize.toNat / 4) ∧
  framebufferInfo.pixelsPerScanLine.toNat * framebufferInfo.screenHeight.toNat < 2 ^ 32

def GopMode.TurnedDown (mode : GopMode) : Prop :=
  mode.pixelFormat = gopPixelBltOnly ∨
  mode.framebufferSize.toNat / 4 % 2 ^ 32 <
    mode.pixelsPerScanLine.toNat * mode.verticalResolution.toNat % 2 ^ 32

/-- The exact product fits in 32 bits, and the screen is empty, no wider than
a scan line, or wider by no more than what the framebuffer has to spare. -/
def GopMode.Bounded (mode : GopMode) : Prop :=
  mode.pixelsPerScanLine.toNat * mode.verticalResolution.toNat < 2 ^ 32 ∧
  (mode.verticalResolution = 0 ∨ mode.horizontalResolution ≤ mode.pixelsPerScanLine ∨
    mode.horizontalResolution.toNat +
        mode.pixelsPerScanLine.toNat * mode.verticalResolution.toNat ≤
      mode.pixelsPerScanLine.toNat + mode.framebufferSize.toNat / 4)

instance (mode : GopMode) : Decidable mode.TurnedDown := by
  unfold GopMode.TurnedDown; infer_instance

instance (mode : GopMode) : Decidable mode.Bounded := by
  unfold GopMode.Bounded; infer_instance

theorem tooManyPixels_iff (mode : GopMode) :
    mode.pixelsPerScanLine * mode.verticalResolution > (mode.framebufferSize / 4).toUInt32 ↔
      mode.framebufferSize.toNat / 4 % 2 ^ 32 <
        mode.pixelsPerScanLine.toNat * mode.verticalResolution.toNat % 2 ^ 32 := by
  simp [UInt32.lt_iff_toNat_lt]

theorem initializeFramebuffer_success_iff :
    (initializeFramebuffer reply info).1 = efiSuccess ↔
      reply.status = efiSuccess ∧ ∃ mode, reply.protocol = some mode ∧ ¬ mode.TurnedDown := by
  have hunsupported : efiUnsupported ≠ efiSuccess := by decide
  unfold initializeFramebuffer
  cases reply.protocol with
  | none => by_cases hs : reply.status = efiSuccess <;> simp [hs, hunsupported]
  | some mode =>
    by_cases hs : reply.status = efiSuccess
    · simp only [hs, FramebufferInfo.readMode, tooManyPixels_iff, ne_eq, not_true_eq_false,
        if_false, Option.some.injEq, exists_eq_left', GopMode.TurnedDown, true_and]
      by_cases hf : mode.pixelFormat = gopPixelBltOnly
      · simp only [hf, if_true, hunsupported, true_or, not_true_eq_false]
      · simp only [hf, if_false, false_or]
        split <;> rename_i hc <;> simp only [hc, hunsupported, not_true_eq_false, not_false_eq_true]
    · simp [hs]

theorem initializeFramebuffer_readMode (hp : reply.protocol = some mode)
    (h : (initializeFramebuffer reply info).1 = efiSuccess) :
    (initializeFramebuffer reply info).2 =
      { info.readMode mode with framebuffer := mode.framebufferBase.toNat / 4 } := by
  obtain ⟨hs, mode', hp', hd⟩ := initializeFramebuffer_success_iff.mp h
  obtain rfl : mode = mode' := Option.some.inj (hp.symm.trans hp')
  simp only [GopMode.TurnedDown, not_or] at hd
  simp only [initializeFramebuffer, hp, hs, FramebufferInfo.readMode, tooManyPixels_iff, hd,
    ne_eq, not_true_eq_false, if_false]

/-- The last pixel is the highest one, so bounding it bounds them all. -/
theorem fits_iff_last (P W H size : Nat) :
    (∀ x y, x < W → y < H → y * P + x < size) ↔ W = 0 ∨ H = 0 ∨ W + P * H ≤ P + size := by
  constructor
  · intro h
    rcases Nat.eq_zero_or_pos W with hW | hW
    · exact .inl hW
    rcases Nat.eq_zero_or_pos H with hH | hH
    · exact .inr (.inl hH)
    have hlast := h (W - 1) (H - 1) (by omega) (by omega)
    have hrows : (H - 1) * P + P = P * H := by
      rw [← Nat.succ_mul, Nat.succ_eq_add_one, Nat.sub_add_cancel hH, Nat.mul_comm]
    exact .inr (.inr (by omega))
  · rintro (rfl | rfl | h) x y hx hy
    · omega
    · omega
    have hrows : y * P + P ≤ P * H := by
      rw [← Nat.succ_mul, Nat.mul_comm]
      exact Nat.mul_le_mul_left P hy
    omega

theorem fits_iff_bounded (mode : GopMode) (info : FramebufferInfo) (base : Nat)
    (hd : ¬ mode.TurnedDown) :
    FramebufferInfo.Fits { info.readMode mode with framebuffer := base } mode.framebufferSize ↔
      mode.Bounded := by
  simp only [FramebufferInfo.Fits, FramebufferInfo.readMode, GopMode.Bounded, fits_iff_last,
    and_comm (b := mode.pixelsPerScanLine.toNat * mode.verticalResolution.toNat < 2 ^ 32)]
  refine and_congr_right fun hprod => ?_
  -- Without wrap-around the loader's comparison is the exact one.
  have hcount : mode.pixelsPerScanLine.toNat * mode.verticalResolution.toNat ≤
      mode.framebufferSize.toNat / 4 := by
    simp only [GopMode.TurnedDown, not_or, Nat.mod_eq_of_lt hprod] at hd
    omega
  have hzero : mode.verticalResolution = 0 ↔ mode.verticalResolution.toNat = 0 := by
    rw [← UInt32.toNat_inj]; rfl
  rw [UInt32.le_iff_toNat_le, hzero]
  omega

/-- Acceptance guarantees that the screen fits exactly when the mode is not
reached, is turned down, or is bounded. -/
theorem initializeFramebuffer_fits_iff (status : EfiStatus) (mode : GopMode)
    (info : FramebufferInfo) :
    ((initializeFramebuffer ⟨status, some mode⟩ info).1 = efiSuccess →
      (initializeFramebuffer ⟨status, some mode⟩ info).2.Fits mode.framebufferSize) ↔
      status ≠ efiSuccess ∨ mode.TurnedDown ∨ mode.Bounded := by
  by_cases haccept : (initializeFramebuffer ⟨status, some mode⟩ info).1 = efiSuccess
  · obtain ⟨hs, mode', hp, hd⟩ := initializeFramebuffer_success_iff.mp haccept
    obtain rfl : mode = mode' := Option.some.inj hp
    have hs : status = efiSuccess := hs
    rw [initializeFramebuffer_readMode rfl haccept, fits_iff_bounded mode info _ hd]
    simp only [haccept, forall_const, hd, false_or]
    exact ⟨.inr, fun h => h.resolve_left (not_not.mpr hs)⟩
  · have hreject : status = efiSuccess → mode.TurnedDown := fun hs =>
      not_not.mp fun hd => haccept (initializeFramebuffer_success_iff.mpr ⟨hs, mode, rfl, hd⟩)
    simp only [haccept, false_implies, true_iff]
    tauto

/-- A scan line of 65536 pixels and 65536 rows: the 32-bit product is zero. -/
def wrappingMode : GopMode where
  horizontalResolution := 65536
  verticalResolution := 65536
  pixelFormat := gopPixelBlueGreenRedReserved8Bit
  redMask := 0
  greenMask := 0
  blueMask := 0
  pixelsPerScanLine := 65536
  framebufferBase := 0x80000000
  framebufferSize := 4096

/-- The loader accepts `wrappingMode` although the pixel at `x = 1024, y = 0` is
already past the end of its framebuffer. -/
theorem initializeFramebuffer_accepts_wrapping :
    (initializeFramebuffer ⟨efiSuccess, some wrappingMode⟩ default).1 = efiSuccess ∧
    ¬ (initializeFramebuffer ⟨efiSuccess, some wrappingMode⟩ default).2.Fits
      wrappingMode.framebufferSize := by
  have haccept : (initializeFramebuffer ⟨efiSuccess, some wrappingMode⟩ default).1 = efiSuccess :=
    initializeFramebuffer_success_iff.mpr ⟨rfl, wrappingMode, rfl, by decide⟩
  refine ⟨haccept, fun hfits => ?_⟩
  rw [initializeFramebuffer_readMode rfl haccept] at hfits
  exact absurd (hfits.1 1024 0 (by decide) (by decide)) (by decide)

end DragonOS.Boot
