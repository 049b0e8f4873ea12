import DragonOS.Boot.CursorRange
import DragonOS.Lib.Magnitudes
import Mathlib.Tactic.Ring

/-!
# The simple pointer

`tryUpdateCursorFromSimplePointer` adds up the movements the pointer reports,
curves and scales the totals and moves the cursor by whole pixels. Every stage
after the totals keeps the sign and acts on the magnitude (`DragonOS.Lib.signed`),
so the displacement has the sign of the total that enters the first stage. That
total is the low word of the exact one:
`tryUpdateCursorFromSimplePointer_direction_iff` says when this matters.

The pointer, the cursor and the framebuffer are there: the source returns at once
when one of them is null.
-/

namespace DragonOS.Boot

open Lib

def efiNotReady : EfiStatus := efiErrorBit ||| 6

-- ---------------------------------------------------------------------------
-- The pointer
-- ---------------------------------------------------------------------------

structure PointerState where
  relativeMovementX : Int32
  relativeMovementY : Int32
  leftButton : UInt8
  deriving DecidableEq, Repr

structure PointerReply where
  status : EfiStatus
  state : PointerState
  deriving DecidableEq, Repr

/-- `getState` gives the answer to each call in turn. The mode may be null. -/
structure SimplePointer where
  getState : Nat → PointerReply
  mode : Option (UInt64 × UInt64)

structure PointerPoll where
  totalCountsX : Int64
  totalCountsY : Int64
  leftButtonDown : UInt8
  pollCount : UInt32

/-- The polling loop; `limit` polls are left. `none` when a call fails. -/
def readReports (getState : Nat → PointerReply) :
    (limit : Nat) → PointerPoll → Option PointerPoll
  | 0, poll => some poll
  | limit + 1, poll =>
    let reply := getState poll.pollCount.toNat
    if reply.status = efiNotReady then some poll
    else if reply.status ≠ efiSuccess then none
    else
      readReports getState limit
        { totalCountsX := poll.totalCountsX + reply.state.relativeMovementX.toInt64
          totalCountsY := poll.totalCountsY + reply.state.relativeMovementY.toInt64
          leftButtonDown := if reply.state.leftButton ≠ 0 then 1 else 0
          pollCount := poll.pollCount + 1 }

-- ---------------------------------------------------------------------------
-- From counts to pixels
-- ---------------------------------------------------------------------------

def applyMouseCurve (delta : Int32) : Int32 :=
  let absDelta := if delta < 0 then -delta else delta
  if absDelta ≤ 1 then delta
  else
    let curve := absDelta + absDelta * absDelta / 8
    let curve := if curve > 64 then 64 else curve
    if delta < 0 then -curve else curve

def pointerSensitivityPct : Int64 := 100

/-- Resolutions that cannot be right count as 8. -/
def saneResolution (resolution : UInt64) : UInt64 :=
  if resolution = 0 ∨ resolution > 400 then 8 else resolution

def countsToFixedPixels (counts : Int32) (resolution : UInt64) (span : UInt32) : Int32 :=
  if counts = 0 ∨ span = 0 then 0
  else
    let pixels :=
      counts.toInt64 * span.toUInt64.toInt64 * 2 * pointerSensitivityPct * fixedPixelOne.toInt64 /
        ((saneResolution resolution).toInt64 * 10000)
    pixels.toInt32

def pointerDelta (totalCounts : Int64) (resolution : UInt64) (span : UInt32) : Int32 :=
  let deltaFixed :=
    countsToFixedPixels (applyMouseCurve (clampI32 totalCounts.toInt32 (-256) 256)) resolution span
  let deltaFixed :=
    if deltaFixed = 0 ∧ totalCounts ≠ 0 then
      clampI32 totalCounts.toInt32 (-8) 8 * (fixedPixelOne / 2)
    else deltaFixed
  applyMouseAcceleration deltaFixed

section
variable (header : GeneratedBitmap)

def startPointerPoll (cursor : SoftwareCursor) : PointerPoll where
  totalCountsX := 0
  totalCountsY := 0
  leftButtonDown := cursor.leftButtonDown
  pollCount := 0

/-- The result says whether the cursor has moved. -/
def tryUpdateCursorFromSimplePointer (pointer : SimplePointer) (cursor : SoftwareCursor)
    (framebufferInfo : FramebufferInfo) : UInt8 × SoftwareCursor :=
  match readReports pointer.getState 64 (startPointerPoll cursor) with
  | none => (0, cursor)
  | some poll =>
    if poll.pollCount = 0 then (0, cursor)
    else
      let cursor :=
        { cursor with
          leftButtonDown := poll.leftButtonDown
          lastRawX := clampI32 poll.totalCountsX.toInt32 (-9999) 9999
          lastRawY := clampI32 poll.totalCountsY.toInt32 (-9999) 9999
          lastPollCount := poll.pollCount }
      if poll.totalCountsX = 0 ∧ poll.totalCountsY = 0 then
        (0, { cursor with lastPixelX := 0, lastPixelY := 0 })
      else
        let (resolutionX, resolutionY) := pointer.mode.getD (0, 0)
        let deltaXFixed := pointerDelta poll.totalCountsX resolutionX framebufferInfo.screenWidth
        let deltaYFixed := pointerDelta poll.totalCountsY resolutionY framebufferInfo.screenHeight
        let accumX := clampI32 (cursor.accumX + deltaXFixed) (-(fixedPixelOne * 64))
          (fixedPixelOne * 64)
        let accumY := clampI32 (cursor.accumY + deltaYFixed) (-(fixedPixelOne * 64))
          (fixedPixelOne * 64)
        let deltaX := accumX / fixedPixelOne
        let deltaY := accumY / fixedPixelOne
        let cursor :=
          { cursor with
            accumX := accumX - deltaX * fixedPixelOne
            accumY := accumY - deltaY * fixedPixelOne
            lastPixelX := deltaX
            lastPixelY := deltaY }
        if deltaX = 0 ∧ deltaY = 0 then (0, cursor)
        else
          (1, { cursor with
            x := clampCursorX header (cursor.x.toInt32 + deltaX) framebufferInfo
            y := clampCursorY header (cursor.y.toInt32 + deltaY) framebufferInfo })

end

-- ---------------------------------------------------------------------------
-- The checked functions
-- ---------------------------------------------------------------------------

def applyMouseCurveChecked (delta : Int32) : Option Int32 := do
  let absDelta ← absoluteChecked delta
  if absDelta ≤ 1 then some delta
  else do
    let square ← mulChecked absDelta absDelta
    let eighth ← divChecked square 8
    let curve ← addChecked absDelta eighth
    let curve := if curve > 64 then 64 else curve
    if delta < 0 then negChecked curve else some curve

def countsToFixedPixelsChecked (counts : Int32) (resolution : UInt64) (span : UInt32) :
    Option Int32 :=
  if counts = 0 ∨ span = 0 then some 0
  else
    let pixels :=
      counts.toInt64 * span.toUInt64.toInt64 * 2 * pointerSensitivityPct * fixedPixelOne.toInt64 /
        ((saneResolution resolution).toInt64 * 10000)
    narrowChecked pixels

/-- The total is cut to its low word here too: that is a conversion, which does
not overflow. -/
def pointerDeltaChecked (totalCounts : Int64) (resolution : UInt64) (span : UInt32) :
    Option Int32 := do
  let curved ← applyMouseCurveChecked (clampI32 totalCounts.toInt32 (-256) 256)
  let deltaFixed ← countsToFixedPixelsChecked curved resolution span
  let deltaFixed ←
    if deltaFixed = 0 ∧ totalCounts ≠ 0 then
      mulChecked (clampI32 totalCounts.toInt32 (-8) 8) (fixedPixelOne / 2)
    else some deltaFixed
  applyMouseAccelerationChecked deltaFixed

def tryUpdateCursorFromSimplePointerChecked (header : GeneratedBitmap) (pointer : SimplePointer)
    (cursor : SoftwareCursor) (framebufferInfo : FramebufferInfo) :
    Option (UInt8 × SoftwareCursor) :=
  match readReports pointer.getState 64 (startPointerPoll cursor) with
  | none => some (0, cursor)
  | some poll =>
    if poll.pollCount = 0 then some (0, cursor)
    else
      let cursor :=
        { cursor with
          leftButtonDown := poll.leftButtonDown
          lastRawX := clampI32 poll.totalCountsX.toInt32 (-9999) 9999
          lastRawY := clampI32 poll.totalCountsY.toInt32 (-9999) 9999
          lastPollCount := poll.pollCount }
      if poll.totalCountsX = 0 ∧ poll.totalCountsY = 0 then
        some (0, { cursor with lastPixelX := 0, lastPixelY := 0 })
      else do
        let (resolutionX, resolutionY) := pointer.mode.getD (0, 0)
        let deltaXFixed ← pointerDeltaChecked poll.totalCountsX resolutionX
          framebufferInfo.screenWidth
        let deltaYFixed ← pointerDeltaChecked poll.totalCountsY resolutionY
          framebufferInfo.screenHeight
        let (lastPixelX, accumX) ← accumulateChecked cursor.accumX deltaXFixed
        let (lastPixelY, accumY) ← accumulateChecked cursor.accumY deltaYFixed
        let cursor := { cursor with accumX, accumY, lastPixelX, lastPixelY }
        if lastPixelX = 0 ∧ lastPixelY = 0 then some (0, cursor)
        else do
          let x ← stepCursorAxisChecked cursor.x lastPixelX framebufferInfo.screenWidth
            header.cursorWidth
          let y ← stepCursorAxisChecked cursor.y lastPixelY framebufferInfo.screenHeight
            header.cursorHeight
          some (1, { cursor with x, y })

-- ---------------------------------------------------------------------------
-- The stages
-- ---------------------------------------------------------------------------

/-- `applyMouseCurve` on the magnitude. -/
def curveCounts (counts : Nat) : Nat :=
  if counts ≤ 1 then counts else min 64 (counts + counts * counts / 8)

/-- `countsToFixedPixels` on the magnitude. -/
def fixedCounts (resolution : UInt64) (span : UInt32) (counts : Nat) : Nat :=
  counts * span.toNat * 51200 / ((saneResolution resolution).toNat * 10000)

def pointerFixed (resolution : UInt64) (span : UInt32) (counts : Nat) : Nat :=
  let fixed := fixedCounts resolution span (curveCounts (min counts 256))
  if fixed = 0 then min counts 8 * 128 else fixed

def acceleratedFixed (fixed : Nat) : Nat := fixed * min 3072 (1024 + fixed * 192 / 256) / 1024

def wholePixels (fixed : Nat) : Nat := min fixed 16384 / 256

section
variable {resolution : UInt64} {span : UInt32}

theorem clampI32_eq_signed (value : Int32) {low high : Int32} {bound : Nat}
    (hlow : low.toInt = -bound) (hhigh : high.toInt = bound) :
    (clampI32 value low high).toInt = signed (min · bound) value.toInt := by
  rw [← clamp_eq_signed]
  simp only [clampI32, gt_iff_lt, Int32.lt_iff_toInt_lt]
  split
  · omega
  split <;> omega

theorem curveCounts_le (counts : Nat) : curveCounts counts ≤ 64 := by
  unfold curveCounts
  split <;> omega

theorem applyMouseCurveChecked_eq (delta : Int32) (hdelta : delta.toInt.natAbs ≤ 256) :
    applyMouseCurveChecked delta = some (applyMouseCurve delta) ∧
      (applyMouseCurve delta).toInt = signed curveCounts delta.toInt := by
  obtain ⟨absDelta, habs⟩ : ∃ absDelta : Int32,
      (if delta < 0 then -delta else delta) = absDelta := ⟨_, rfl⟩
  obtain ⟨hchecked, hvalue⟩ := absoluteChecked_eq delta (by omega)
  rw [habs] at hchecked hvalue
  have hsmall : absDelta ≤ 1 ↔ delta.toInt.natAbs ≤ 1 := by
    rw [Int32.le_iff_toInt_le, hvalue, Int32.toInt_one]
    omega
  simp only [applyMouseCurveChecked, applyMouseCurve, habs, hchecked, hsmall,
    Option.bind_eq_bind, Option.bind_some]
  by_cases hcounts : delta.toInt.natAbs ≤ 1
  · rw [if_pos hcounts, if_pos hcounts, signed, curveCounts, if_pos hcounts, Int.sign_mul_natAbs]
    exact ⟨rfl, rfl⟩
  rw [if_neg hcounts, if_neg hcounts]
  generalize hmagnitude : delta.toInt.natAbs = counts at *
  have hproduct : counts * counts ≤ 256 * 256 := Nat.mul_le_mul hdelta hdelta
  have hsquareFits : Fits (absDelta.toInt * absDelta.toInt) := by
    rw [hvalue, ← Int.natCast_mul]
    unfold Fits
    omega
  have hsquare := toInt_mul_of_fits hsquareFits
  rw [hvalue, ← Int.natCast_mul] at hsquare
  have hexact : (absDelta * absDelta).toInt.tdiv (8 : Int32).toInt = (counts * counts / 8 : Nat) := by
    rw [hsquare]
    rfl
  have heighthFits : Fits ((absDelta * absDelta).toInt.tdiv (8 : Int32).toInt) := by
    rw [hexact]
    unfold Fits
    omega
  have heighth := (toInt_div_of_fits heighthFits).trans hexact
  have hsumFits : Fits (absDelta.toInt + (absDelta * absDelta / 8).toInt) := by
    rw [heighth, hvalue]
    unfold Fits
    omega
  have hsum := toInt_add_of_fits hsumFits
  rw [heighth, hvalue] at hsum
  have hlimit : (64 : Int32).toInt = 64 := rfl
  have hmost := curveCounts_le counts
  obtain ⟨curve, hcurve, hcurveValue⟩ : ∃ curve : Int32,
      (if absDelta + absDelta * absDelta / 8 > 64 then 64
        else absDelta + absDelta * absDelta / 8) = curve ∧
      curve.toInt = curveCounts counts := by
    refine ⟨_, rfl, ?_⟩
    rw [curveCounts, if_neg hcounts]
    split <;> rename_i hgt <;> rw [gt_iff_lt, Int32.lt_iff_toInt_lt, hsum, hlimit] at hgt <;> omega
  have hnegFits : Fits (-curve.toInt) := by
    unfold Fits
    omega
  have height : (8 : Int32) ≠ 0 := by decide
  have hnegative : delta < 0 ↔ delta.toInt < 0 := by
    rw [Int32.lt_iff_toInt_lt, Int32.toInt_zero]
  simp only [mulChecked, checked_of_fits hsquareFits, divChecked, height, if_false,
    checked_of_fits heighthFits, addChecked, checked_of_fits hsumFits, negChecked,
    checked_of_fits hnegFits, Option.bind_some, hcurve, hnegative]
  by_cases hsign : delta.toInt < 0
  · rw [if_pos hsign, if_pos hsign, signed_of_neg hsign, hmagnitude, toInt_neg_of_fits hnegFits,
      hcurveValue]
    exact ⟨rfl, rfl⟩
  · rw [if_neg hsign, if_neg hsign, signed_of_nonneg (Int.not_lt.mp hsign) rfl, hmagnitude,
      hcurveValue]
    exact ⟨rfl, rfl⟩

theorem toNat_saneResolution (resolution : UInt64) :
    0 < (saneResolution resolution).toNat ∧ (saneResolution resolution).toNat ≤ 400 := by
  unfold saneResolution
  split
  · decide
  next h =>
    rw [not_or, gt_iff_lt, UInt64.not_lt, UInt64.le_iff_toNat_le] at h
    have hzero : resolution.toNat ≠ 0 := fun hz => h.1 (UInt64.toNat_inj.mp hz)
    exact ⟨Nat.pos_of_ne_zero hzero, h.2⟩

theorem toInt_toInt64_of_lt {value : UInt64} (h : value.toNat < 2 ^ 63) :
    value.toInt64.toInt = value.toNat := by
  have hint : value.toInt64.toInt = value.toBitVec.toInt := rfl
  have hnat : value.toBitVec.toNat = value.toNat := rfl
  rw [hint, BitVec.toInt_eq_toNat_cond, hnat, if_pos (by omega)]

theorem fixedCounts_le (hcounts : counts ≤ 64) (hspan : span.toNat ≤ 32767) :
    fixedCounts resolution span counts ≤ 10737090 := by
  have hproduct : counts * span.toNat ≤ 64 * 32767 := Nat.mul_le_mul hcounts hspan
  have hdivisor : 10000 ≤ (saneResolution resolution).toNat * 10000 :=
    Nat.le_mul_of_pos_left _ (toNat_saneResolution resolution).1
  calc fixedCounts resolution span counts ≤ counts * span.toNat * 51200 / 10000 :=
        Nat.div_le_div_left hdivisor (by decide)
    _ ≤ 10737090 := by omega

theorem toInt_mul64 {a b : Int64} {x y : Int} (ha : a.toInt = x) (hb : b.toInt = y)
    (h : (x * y).natAbs ≤ 2 ^ 62) : (a * b).toInt = x * y := by
  rw [Int64.toInt_mul, ha, hb]
  exact Int.bmod_eq_of_le (by omega) (by omega)

/-- No factor of the product is large enough for it to leave 64 bits, and the
quotient of a curved count fits into 32. -/
theorem countsToFixedPixelsChecked_eq (counts : Int32) (resolution : UInt64)
    (hcounts : counts.toInt.natAbs ≤ 64) (hspan : span.toNat ≤ 32767) :
    countsToFixedPixelsChecked counts resolution span =
        some (countsToFixedPixels counts resolution span) ∧
      (countsToFixedPixels counts resolution span).toInt =
        signed (fixedCounts resolution span) counts.toInt := by
  simp only [countsToFixedPixelsChecked, countsToFixedPixels]
  split
  next hzero =>
    refine ⟨rfl, ?_⟩
    rcases hzero with rfl | rfl
    · simp
    · symm
      rw [Int32.toInt_zero, signed_eq_zero_iff]
      exact .inr (by simp [fixedCounts])
  next =>
  obtain ⟨hres, hresMost⟩ := toNat_saneResolution resolution
  have hbound : (counts.toInt * span.toNat).natAbs ≤ 64 * 32767 := by
    rw [Int.natAbs_mul, Int.natAbs_natCast]
    exact Nat.mul_le_mul hcounts hspan
  have htwo : (2 : Int64).toInt = 2 := rfl
  have hpct : pointerSensitivityPct.toInt = 100 := rfl
  have hone : fixedPixelOne.toInt64.toInt = 256 := rfl
  have hscale : (10000 : Int64).toInt = 10000 := rfl
  have hproduct : (counts.toInt64 * span.toUInt64.toInt64 * 2 * pointerSensitivityPct *
      fixedPixelOne.toInt64).toInt = counts.toInt * span.toNat * 2 * 100 * 256 :=
    toInt_mul64 (toInt_mul64 (toInt_mul64 (toInt_mul64 (Int32.toInt_toInt64 _)
      (toInt_toInt64_toUInt64 _) (by omega)) htwo (by omega)) hpct (by omega)) hone (by omega)
  have hdivisor : ((saneResolution resolution).toInt64 * 10000).toInt =
      (saneResolution resolution).toNat * 10000 :=
    toInt_mul64 (toInt_toInt64_of_lt (by omega)) hscale (by omega)
  have hquotient : (counts.toInt * span.toNat * 2 * 100 * 256).tdiv
      ((saneResolution resolution).toNat * 10000) =
      signed (fixedCounts resolution span) counts.toInt := by
    have hscaled : counts.toInt * span.toNat * 2 * 100 * 256 =
        signed (· * (span.toNat * 51200)) counts.toInt := by
      rw [← mul_eq_signed]
      push_cast
      ring
    have hdivide := tdiv_eq_signed (signed (· * (span.toNat * 51200)) counts.toInt)
      ((saneResolution resolution).toNat * 10000)
    have hcompose : signed (· / ((saneResolution resolution).toNat * 10000))
        (signed (· * (span.toNat * 51200)) counts.toInt) =
        signed (fixedCounts resolution span) counts.toInt := by
      rw [signed_signed]
      · refine congrArg (signed · counts.toInt) (funext fun m => ?_)
        rw [fixedCounts, Nat.mul_assoc]
      · exact Nat.zero_div _
    rw [hscaled]
    exact hdivide.trans hcompose
  have hsmall : (signed (fixedCounts resolution span) counts.toInt).natAbs ≤ 10737090 := by
    rw [natAbs_signed (by simp [fixedCounts])]
    exact fixedCounts_le hcounts hspan
  have hexact : (counts.toInt64 * span.toUInt64.toInt64 * 2 * pointerSensitivityPct *
      fixedPixelOne.toInt64 / ((saneResolution resolution).toInt64 * 10000)).toInt =
      signed (fixedCounts resolution span) counts.toInt := by
    rw [Int64.toInt_div, hproduct, hdivisor, hquotient]
    exact Int.bmod_eq_of_le (by omega) (by omega)
  have hfits : Fits (counts.toInt64 * span.toUInt64.toInt64 * 2 * pointerSensitivityPct *
      fixedPixelOne.toInt64 / ((saneResolution resolution).toInt64 * 10000)).toInt := by
    rw [hexact]
    unfold Fits
    omega
  exact ⟨checked_of_fits hfits, (toInt_narrow_of_fits hfits).trans hexact⟩

theorem applyMouseAcceleration_eq_signed (deltaFixed : Int32)
    (hsmall : 192 * deltaFixed.toInt.natAbs < 2 ^ 31) :
    (applyMouseAcceleration deltaFixed).toInt = signed acceleratedFixed deltaFixed.toInt := by
  have hdivide := tdiv_eq_signed (signed (· * mouseGain deltaFixed) deltaFixed.toInt) 1024
  rw [(applyMouseAccelerationChecked_eq deltaFixed hsmall).2, mul_eq_signed]
  refine hdivide.trans ?_
  rw [signed_signed]
  · rfl
  · rfl

theorem acceleratedFixed_monotone : Monotone acceleratedFixed := by
  intro m n h
  have hgain : min 3072 (1024 + m * 192 / 256) ≤ min 3072 (1024 + n * 192 / 256) := by omega
  exact Nat.div_le_div_right (Nat.mul_le_mul h hgain)

theorem le_acceleratedFixed (fixed : Nat) : fixed ≤ acceleratedFixed fixed := by
  have hgain : 1024 ≤ min 3072 (1024 + fixed * 192 / 256) := by omega
  exact (Nat.le_div_iff_mul_le (by decide)).mpr (Nat.mul_le_mul_left fixed hgain)

theorem toInt_neg_of_small {delta : Int32} (hsmall : 192 * delta.toInt.natAbs < 2 ^ 31) :
    (-delta).toInt = -delta.toInt := by
  rw [Int32.toInt_neg]
  exact Int.bmod_eq_of_le (by omega) (by omega)

/-- Equal and opposite movements cancel, and a larger movement never moves the cursor less. -/
theorem applyMouseAcceleration_order (delta : Int32)
    (hsmall : 192 * delta.toInt.natAbs < 2 ^ 31) :
    applyMouseAcceleration (-delta) = -applyMouseAcceleration delta ∧
      delta.toInt.natAbs ≤ (applyMouseAcceleration delta).toInt.natAbs ∧
      (applyMouseAcceleration delta).toInt.natAbs ≤ 3 * delta.toInt.natAbs ∧
      ∀ larger : Int32, 192 * larger.toInt.natAbs < 2 ^ 31 →
        (delta ≤ larger → applyMouseAcceleration delta ≤ applyMouseAcceleration larger) ∧
        (delta.toInt.natAbs ≤ larger.toInt.natAbs →
          (applyMouseAcceleration delta).toInt.natAbs ≤
            (applyMouseAcceleration larger).toInt.natAbs) := by
  have hvalue := applyMouseAcceleration_eq_signed delta hsmall
  have htripled := natAbs_applyMouseAcceleration_le delta hsmall
  have hopposite := toInt_neg_of_small hsmall
  refine ⟨?_, ?_, htripled, fun larger hlarger => ⟨fun hle => ?_, fun hle => ?_⟩⟩
  · have hneg : (-applyMouseAcceleration delta).toInt = -(applyMouseAcceleration delta).toInt := by
      rw [Int32.toInt_neg]
      exact Int.bmod_eq_of_le (by omega) (by omega)
    rw [← Int32.toInt_inj, hneg, hvalue,
      applyMouseAcceleration_eq_signed (-delta) (by rwa [hopposite, Int.natAbs_neg]), hopposite,
      signed_neg]
  · rw [hvalue, natAbs_signed rfl]
    exact le_acceleratedFixed _
  · rw [Int32.le_iff_toInt_le] at hle ⊢
    rw [hvalue, applyMouseAcceleration_eq_signed larger hlarger]
    exact signed_le_signed acceleratedFixed_monotone hle
  · rw [hvalue, applyMouseAcceleration_eq_signed larger hlarger, natAbs_signed rfl,
      natAbs_signed rfl]
    exact acceleratedFixed_monotone hle

theorem applyMouseAcceleration_order_pixel :
    applyMouseAcceleration (-256) = -applyMouseAcceleration 256 ∧
      (256 : Int32).toInt.natAbs ≤ (applyMouseAcceleration 256).toInt.natAbs ∧
      (applyMouseAcceleration 256).toInt.natAbs ≤ 3 * (256 : Int32).toInt.natAbs ∧
      applyMouseAcceleration 256 ≤ applyMouseAcceleration 1000 := by
  obtain ⟨hodd, hlow, hhigh, horder⟩ := applyMouseAcceleration_order 256 (by decide)
  exact ⟨hodd, hlow, hhigh, (horder 1000 (by decide)).1 (by decide)⟩

theorem pointerFixed_le (resolution : UInt64) (hspan : span.toNat ≤ 32767) (counts : Nat) :
    pointerFixed resolution span counts ≤ 10737090 := by
  have hfixed : fixedCounts resolution span (curveCounts (min counts 256)) ≤ 10737090 :=
    fixedCounts_le (curveCounts_le _) hspan
  simp only [pointerFixed]
  split <;> omega

theorem pointerDelta_fixed (totalCounts : Int64) (deltaFixed : Int32)
    (hfixed : deltaFixed.toInt = signed (fun m => fixedCounts resolution span
      (curveCounts (min m 256))) totalCounts.toInt32.toInt) :
    Fits ((clampI32 totalCounts.toInt32 (-8) 8).toInt * (fixedPixelOne / 2).toInt) ∧
    (if deltaFixed = 0 ∧ totalCounts ≠ 0 then
        clampI32 totalCounts.toInt32 (-8) 8 * (fixedPixelOne / 2)
      else deltaFixed).toInt = signed (pointerFixed resolution span) totalCounts.toInt32.toInt := by
  have hhalf : (fixedPixelOne / 2).toInt = 128 := by decide
  have hclamp : (clampI32 totalCounts.toInt32 (-8) 8).toInt =
      signed (min · 8) totalCounts.toInt32.toInt := clampI32_eq_signed _ rfl rfl
  have hfew : (signed (min · 8) totalCounts.toInt32.toInt).natAbs ≤ 8 := by
    rw [natAbs_signed rfl]
    exact Nat.min_le_right _ _
  have hfits : Fits ((clampI32 totalCounts.toInt32 (-8) 8).toInt * (fixedPixelOne / 2).toInt) := by
    rw [hclamp, hhalf]
    unfold Fits
    omega
  refine ⟨hfits, ?_⟩
  by_cases hlow : totalCounts.toInt32.toInt = 0
  · rw [hlow, signed_zero] at hfixed hclamp
    have hstill : (clampI32 totalCounts.toInt32 (-8) 8 * (fixedPixelOne / 2)).toInt = 0 := by
      rw [toInt_mul_of_fits hfits, hclamp, Int.zero_mul]
    rw [hlow, signed_zero]
    split
    · exact hstill
    · exact hfixed
  · have hnonzero : totalCounts ≠ 0 := fun h => hlow (by rw [h]; rfl)
    have hvanish : deltaFixed = 0 ↔ fixedCounts resolution span
        (curveCounts (min totalCounts.toInt32.toInt.natAbs 256)) = 0 := by
      rw [← Int32.toInt_inj, hfixed, Int32.toInt_zero, signed_eq_zero_iff]
      exact or_iff_right hlow
    simp only [hvanish, hnonzero, ne_eq, not_false_eq_true, and_true, signed, pointerFixed]
    split
    · rw [toInt_mul_of_fits hfits, hclamp, hhalf, signed, Int.mul_assoc, Int.natCast_mul]
      rfl
    · exact hfixed

theorem pointerDeltaChecked_eq (totalCounts : Int64) (resolution : UInt64)
    (hspan : span.toNat ≤ 32767) :
    pointerDeltaChecked totalCounts resolution span =
        some (pointerDelta totalCounts resolution span) ∧
      (pointerDelta totalCounts resolution span).toInt =
        signed (fun m => acceleratedFixed (pointerFixed resolution span m))
          totalCounts.toInt32.toInt ∧
      (pointerDelta totalCounts resolution span).toInt.natAbs < 2 ^ 30 := by
  have hclamp : (clampI32 totalCounts.toInt32 (-256) 256).toInt =
      signed (min · 256) totalCounts.toInt32.toInt := clampI32_eq_signed _ rfl rfl
  obtain ⟨hcurve, hcurveValue⟩ :=
    applyMouseCurveChecked_eq (clampI32 totalCounts.toInt32 (-256) 256)
      (by rw [hclamp, natAbs_signed rfl]; exact Nat.min_le_right _ _)
  rw [hclamp, signed_signed rfl] at hcurveValue
  obtain ⟨hfixed, hfixedValue⟩ := countsToFixedPixelsChecked_eq
    (applyMouseCurve (clampI32 totalCounts.toInt32 (-256) 256)) resolution
    (by rw [hcurveValue, natAbs_signed rfl]; exact curveCounts_le _) hspan
  rw [hcurveValue, signed_signed (by simp [fixedCounts])] at hfixedValue
  obtain ⟨hhalves, hdelta⟩ := pointerDelta_fixed totalCounts _ hfixedValue
  have hbound := pointerFixed_le resolution hspan totalCounts.toInt32.toInt.natAbs
  have hzero : pointerFixed resolution span 0 = 0 := by simp [pointerFixed, fixedCounts, curveCounts]
  obtain ⟨deltaFixed, hname⟩ : ∃ deltaFixed : Int32,
      (if countsToFixedPixels (applyMouseCurve (clampI32 totalCounts.toInt32 (-256) 256))
          resolution span = 0 ∧ totalCounts ≠ 0 then
        clampI32 totalCounts.toInt32 (-8) 8 * (fixedPixelOne / 2)
      else countsToFixedPixels (applyMouseCurve (clampI32 totalCounts.toInt32 (-256) 256))
          resolution span) = deltaFixed := ⟨_, rfl⟩
  rw [hname] at hdelta
  have hsmall : 192 * deltaFixed.toInt.natAbs < 2 ^ 31 := by
    rw [hdelta, natAbs_signed hzero]
    omega
  have htripled := natAbs_applyMouseAcceleration_le deltaFixed hsmall
  simp only [pointerDeltaChecked, hcurve, hfixed, mulChecked, checked_of_fits hhalves,
    Option.bind_eq_bind, Option.bind_some, pointerDelta, hname]
  rw [← apply_ite applyMouseAccelerationChecked, hname]
  refine ⟨(applyMouseAccelerationChecked_eq deltaFixed hsmall).1, ?_, by omega⟩
  rw [applyMouseAcceleration_eq_signed deltaFixed hsmall, hdelta, signed_signed rfl]

theorem accumulated_zero (deltaFixed : Int32) :
    (accumulated 0 deltaFixed / fixedPixelOne).toInt = signed wholePixels deltaFixed.toInt := by
  have hclamp : (accumulated 0 deltaFixed).toInt = signed (min · 16384) deltaFixed.toInt := by
    rw [accumulated, Int32.zero_add]
    exact clampI32_eq_signed _ rfl rfl
  have hdivide : (accumulated 0 deltaFixed).toInt.tdiv fixedPixelOne.toInt =
      signed wholePixels deltaFixed.toInt := by
    rw [hclamp]
    exact (tdiv_eq_signed _ 256).trans (signed_signed rfl)
  have hsmall : (signed wholePixels deltaFixed.toInt).natAbs ≤ 64 := by
    rw [natAbs_signed rfl, wholePixels]
    omega
  rw [toInt_div_of_fits (by rw [hdivide]; unfold Fits; omega), hdivide]

/-- Up to 220 parts of 256, acceleration does not make a pixel. -/
theorem wholePixels_accelerated_eq_zero_iff (fixed : Nat) :
    wholePixels (acceleratedFixed fixed) = 0 ↔ fixed ≤ 220 := by
  have hpixel : wholePixels (acceleratedFixed fixed) = 0 ↔
      fixed * min 3072 (1024 + fixed * 192 / 256) < 262144 := by
    rw [wholePixels, acceleratedFixed]
    omega
  rw [hpixel]
  constructor
  · intro h
    by_contra hmore
    have hleast : 221 * 1189 ≤ fixed * min 3072 (1024 + fixed * 192 / 256) :=
      Nat.mul_le_mul (by omega) (by omega)
    omega
  · intro h
    have hmost : fixed * min 3072 (1024 + fixed * 192 / 256) ≤ 220 * 1189 :=
      Nat.mul_le_mul h (by omega)
    omega

end

-- ---------------------------------------------------------------------------
-- The reports of a call
-- ---------------------------------------------------------------------------

def reportsFrom (getState : Nat → PointerReply) (first limit : Nat) : List PointerState :=
  (((List.range' first limit).map getState).takeWhile (·.status = efiSuccess)).map (·.state)

structure PointerPoll.Sums (poll : PointerPoll) (reports : List PointerState) : Prop where
  pollCount : poll.pollCount.toNat = reports.length
  totalCountsX : poll.totalCountsX.toInt = (reports.map (·.relativeMovementX.toInt)).sum
  totalCountsY : poll.totalCountsY.toInt = (reports.map (·.relativeMovementY.toInt)).sum

theorem startPointerPoll_sums (cursor : SoftwareCursor) : (startPointerPoll cursor).Sums [] where
  pollCount := rfl
  totalCountsX := rfl
  totalCountsY := rfl

theorem natAbs_sum_le (counts : PointerState → Int32) (reports : List PointerState) :
    (reports.map fun state => (counts state).toInt).sum.natAbs ≤ reports.length * 2 ^ 31 := by
  induction reports with
  | nil => simp
  | cons state reports ih =>
    have := (counts state).le_toInt
    have := (counts state).toInt_lt
    rw [List.map_cons, List.sum_cons, List.length_cons]
    omega

theorem toInt_add_report {total : Int64} (counts : PointerState → Int32)
    {reports : List PointerState} (hroom : reports.length < 64)
    (h : total.toInt = (reports.map fun state => (counts state).toInt).sum)
    (state : PointerState) :
    (total + (counts state).toInt64).toInt =
      ((reports ++ [state]).map fun state => (counts state).toInt).sum := by
  have hbound := natAbs_sum_le counts reports
  have := (counts state).le_toInt
  have := (counts state).toInt_lt
  rw [Int64.toInt_add, Int32.toInt_toInt64, h, List.map_append, List.sum_append, List.map_singleton,
    List.sum_singleton]
  exact Int.bmod_eq_of_le (by omega) (by omega)

theorem PointerPoll.Sums.next {poll : PointerPoll} {reports : List PointerState}
    (h : poll.Sums reports) (hroom : reports.length < 64) (state : PointerState) :
    PointerPoll.Sums
      { totalCountsX := poll.totalCountsX + state.relativeMovementX.toInt64
        totalCountsY := poll.totalCountsY + state.relativeMovementY.toInt64
        leftButtonDown := if state.leftButton ≠ 0 then 1 else 0
        pollCount := poll.pollCount + 1 } (reports ++ [state]) where
  pollCount := by
    rw [toNat_add_of_lt (by rw [h.pollCount, UInt32.toNat_one]; omega), h.pollCount,
      List.length_append]
    rfl
  totalCountsX := toInt_add_report (·.relativeMovementX) hroom h.totalCountsX state
  totalCountsY := toInt_add_report (·.relativeMovementY) hroom h.totalCountsY state

theorem reportsFrom_succ (getState : Nat → PointerReply) (first limit : Nat) :
    reportsFrom getState first (limit + 1) =
      if (getState first).status = efiSuccess then
        (getState first).state :: reportsFrom getState (first + 1) limit
      else [] := by
  simp only [reportsFrom, List.range'_succ, List.map_cons, List.takeWhile_cons]
  by_cases hstatus : (getState first).status = efiSuccess <;> simp [hstatus]

theorem readReports_cases (getState : Nat → PointerReply) (limit : Nat) {poll : PointerPoll}
    {earlier later : List PointerState} (h : poll.Sums earlier)
    (hroom : earlier.length + limit ≤ 64)
    (hlater : reportsFrom getState earlier.length limit = later) :
    (∃ poll', readReports getState limit poll = some poll' ∧ poll'.Sums (earlier ++ later) ∧
      (later.length = limit ∨ (getState (earlier.length + later.length)).status = efiNotReady)) ∨
    (readReports getState limit poll = none ∧ later.length ≠ limit ∧
      (getState (earlier.length + later.length)).status ≠ efiNotReady) := by
  induction limit generalizing poll earlier later with
  | zero =>
    obtain rfl : [] = later := hlater
    exact .inl ⟨poll, rfl, by rwa [List.append_nil], .inl rfl⟩
  | succ limit ih =>
    have hdistinct : efiNotReady ≠ efiSuccess := by decide
    rw [reportsFrom_succ] at hlater
    simp only [readReports, h.pollCount]
    by_cases hready : (getState earlier.length).status = efiNotReady
    · rw [if_neg (hready ▸ hdistinct)] at hlater
      subst hlater
      exact .inl ⟨poll, if_pos hready, by rwa [List.append_nil], .inr hready⟩
    rw [if_neg hready]
    by_cases hsuccess : (getState earlier.length).status = efiSuccess
    · rw [if_pos hsuccess] at hlater
      subst hlater
      have hlength : (earlier ++ [(getState earlier.length).state]).length = earlier.length + 1 := by
        rw [List.length_append, List.length_singleton]
      have hrest := ih (h.next (by omega) (getState earlier.length).state) (by rw [hlength]; omega) rfl
      rw [hlength, List.append_assoc, List.singleton_append] at hrest
      simp only [List.length_cons, ne_eq, Nat.add_right_cancel_iff]
      rw [if_neg (not_not.mpr hsuccess), ← Nat.add_assoc, Nat.add_right_comm]
      exact hrest
    · rw [if_neg hsuccess] at hlater
      subst hlater
      exact .inr ⟨if_pos hsuccess, by simp, hready⟩

-- ---------------------------------------------------------------------------
-- The direction
-- ---------------------------------------------------------------------------

/-- The displacement has the sign of the total, or there is none. -/
def SameDirection (pixels total : Int) : Prop := pixels.sign = total.sign ∨ pixels = 0

/-- The low word of the total, read as a signed number, has the sign of the
total or moves the cursor by less than a pixel. -/
def NarrowsWell (total : Int) (resolution : UInt64) (span : UInt32) : Prop :=
  (total.bmod (2 ^ 32)).sign = total.sign ∨
    pointerFixed resolution span (total.bmod (2 ^ 32)).natAbs ≤ 220

instance (total : Int) (resolution : UInt64) (span : UInt32) :
    Decidable (NarrowsWell total resolution span) := inferInstanceAs (Decidable (_ ∨ _))

theorem sameDirection_iff (totalCounts : Int64) (resolution : UInt64) (span : UInt32)
    (hspan : span.toNat ≤ 32767) :
    SameDirection (accumulated 0 (pointerDelta totalCounts resolution span) / fixedPixelOne).toInt
        totalCounts.toInt ↔ NarrowsWell totalCounts.toInt resolution span := by
  have hzero : pointerFixed resolution span 0 = 0 := by simp [pointerFixed, fixedCounts, curveCounts]
  have hpixels : (accumulated 0 (pointerDelta totalCounts resolution span) / fixedPixelOne).toInt =
      signed (fun m => wholePixels (acceleratedFixed (pointerFixed resolution span m)))
        totalCounts.toInt32.toInt := by
    rw [accumulated_zero, (pointerDeltaChecked_eq totalCounts resolution hspan).2.1,
      signed_signed rfl]
  have hnarrow : totalCounts.toInt.bmod (2 ^ 32) = totalCounts.toInt32.toInt :=
    (Int64.toInt_toInt32 totalCounts).symm
  rw [SameDirection, NarrowsWell, hpixels, hnarrow, ← wholePixels_accelerated_eq_zero_iff]
  generalize totalCounts.toInt32.toInt = low
  have hvanish : signed (fun m => wholePixels (acceleratedFixed (pointerFixed resolution span m)))
      low = 0 ↔ wholePixels (acceleratedFixed (pointerFixed resolution span low.natAbs)) = 0 := by
    rw [signed_eq_zero_iff]
    refine or_iff_right_of_imp ?_
    rintro rfl
    rw [Int.natAbs_zero, hzero]
    rfl
  rw [hvanish]
  refine or_congr_left' fun hmoves => ?_
  rw [sign_signed.resolve_right (mt hvanish.mp hmoves)]

namespace SimplePointer

variable (pointer : SimplePointer)

def reports : List PointerState := reportsFrom pointer.getState 0 64

def Delivers : Prop :=
  pointer.reports ≠ [] ∧ (pointer.reports.length = 64 ∨
    (pointer.getState pointer.reports.length).status = efiNotReady)

def totalX : Int := (pointer.reports.map (·.relativeMovementX.toInt)).sum

def totalY : Int := (pointer.reports.map (·.relativeMovementY.toInt)).sum

def resolutionX : UInt64 := (pointer.mode.getD (0, 0)).1

def resolutionY : UInt64 := (pointer.mode.getD (0, 0)).2

end SimplePointer

def DirectionKept (header : GeneratedBitmap) (pointer : SimplePointer) (cursor : SoftwareCursor)
    (framebufferInfo : FramebufferInfo) : Prop :=
  let after := (tryUpdateCursorFromSimplePointer header pointer cursor framebufferInfo).2
  SameDirection after.lastPixelX.toInt pointer.totalX ∧
    SameDirection after.lastPixelY.toInt pointer.totalY

section
variable {header : GeneratedBitmap} {pointer : SimplePointer} {cursor : SoftwareCursor}
  {framebufferInfo : FramebufferInfo}

theorem tryUpdateCursorFromSimplePointer_idle (header : GeneratedBitmap)
    (cursor : SoftwareCursor) (framebufferInfo : FramebufferInfo) (h : ¬ pointer.Delivers) :
    tryUpdateCursorFromSimplePointer header pointer cursor framebufferInfo = (0, cursor) ∧
    tryUpdateCursorFromSimplePointerChecked header pointer cursor framebufferInfo =
      some (0, cursor) := by
  rcases readReports_cases pointer.getState 64 (startPointerPoll_sums cursor) (Nat.le_refl _) rfl
    with ⟨poll, hread, hsums, hend⟩ | ⟨hread, -⟩
  · rw [List.nil_append] at hsums
    have hnone : poll.pollCount = 0 := by
      by_contra hcount
      refine h ⟨fun hnil => hcount ?_, ?_⟩
      · rw [← UInt32.toNat_inj, hsums.pollCount]
        exact congrArg List.length hnil
      · rwa [List.length_nil, Nat.zero_add] at hend
    simp only [tryUpdateCursorFromSimplePointer, tryUpdateCursorFromSimplePointerChecked, hread,
      hnone, if_true, and_self]
  · simp only [tryUpdateCursorFromSimplePointer, tryUpdateCursorFromSimplePointerChecked, hread,
      and_self]

theorem pointerDelta_zero (resolution : UInt64) (hspan : span.toNat ≤ 32767) :
    pointerDelta 0 resolution span = 0 := by
  rw [← Int32.toInt_inj, (pointerDeltaChecked_eq 0 resolution hspan).2.1]
  exact signed_zero _

/-- What a call with reports leaves in the cursor, and that no step of it
overflows. -/
theorem tryUpdateCursorFromSimplePointer_reported (header : GeneratedBitmap)
    (hread : readReports pointer.getState 64 (startPointerPoll cursor) = some poll)
    (hcount : poll.pollCount ≠ 0) (haccum : cursor.accumX = 0 ∧ cursor.accumY = 0)
    (hwidth : framebufferInfo.screenWidth.toNat ≤ 32767)
    (hheight : framebufferInfo.screenHeight.toNat ≤ 32767)
    (hx : cursor.x ≤ framebufferInfo.screenWidth) (hy : cursor.y ≤ framebufferInfo.screenHeight) :
    (tryUpdateCursorFromSimplePointer header pointer cursor framebufferInfo).2.lastPixelX =
      accumulated 0 (pointerDelta poll.totalCountsX pointer.resolutionX
        framebufferInfo.screenWidth) / fixedPixelOne ∧
    (tryUpdateCursorFromSimplePointer header pointer cursor framebufferInfo).2.lastPixelY =
      accumulated 0 (pointerDelta poll.totalCountsY pointer.resolutionY
        framebufferInfo.screenHeight) / fixedPixelOne ∧
    tryUpdateCursorFromSimplePointerChecked header pointer cursor framebufferInfo =
      some (tryUpdateCursorFromSimplePointer header pointer cursor framebufferInfo) := by
  simp only [tryUpdateCursorFromSimplePointer, tryUpdateCursorFromSimplePointerChecked, hread,
    hcount, if_false]
  by_cases hstill : poll.totalCountsX = 0 ∧ poll.totalCountsY = 0
  · have hnone : accumulated 0 0 / fixedPixelOne = 0 := by decide
    rw [if_pos hstill, if_pos hstill, hstill.1, hstill.2, pointerDelta_zero _ hwidth,
      pointerDelta_zero _ hheight, hnone]
    exact ⟨rfl, rfl, rfl⟩
  rw [if_neg hstill, if_neg hstill]
  obtain ⟨hdeltaX, -, hboundX⟩ :=
    pointerDeltaChecked_eq poll.totalCountsX (pointer.mode.getD (0, 0)).1 hwidth
  obtain ⟨hdeltaY, -, hboundY⟩ :=
    pointerDeltaChecked_eq poll.totalCountsY (pointer.mode.getD (0, 0)).2 hheight
  have hzero : (0 : Int32).toInt.natAbs < 256 := by decide
  obtain ⟨haccumX, hpixelX, -⟩ := accumulateChecked_eq hzero hboundX
  obtain ⟨haccumY, hpixelY, -⟩ := accumulateChecked_eq hzero hboundY
  rw [UInt32.le_iff_toNat_le] at hx hy
  have hstepX := stepCursorAxisChecked_eq header.cursorWidth
    (show cursor.x.toNat < 2 ^ 30 by omega) hpixelX
    (show framebufferInfo.screenWidth.toNat < 2 ^ 30 by omega)
  have hstepY := stepCursorAxisChecked_eq header.cursorHeight
    (show cursor.y.toNat < 2 ^ 30 by omega) hpixelY
    (show framebufferInfo.screenHeight.toNat < 2 ^ 30 by omega)
  simp only [haccum.1, haccum.2, hdeltaX, hdeltaY, haccumX, haccumY, hstepX, hstepY,
    Option.bind_eq_bind, Option.bind_some]
  refine ⟨?_, ?_, (apply_ite some _ _ _).symm⟩
  · rw [apply_ite Prod.snd, apply_ite SoftwareCursor.lastPixelX, ite_self]
    rfl
  · rw [apply_ite Prod.snd, apply_ite SoftwareCursor.lastPixelY, ite_self]
    rfl

/-- On each axis, a call keeps the direction exactly when the low word of the
total does or the movement is too small to be seen; nothing overflows in any
case. -/
theorem tryUpdateCursorFromSimplePointer_direction_iff (header : GeneratedBitmap)
    (pointer : SimplePointer) (cursor : SoftwareCursor) (framebufferInfo : FramebufferInfo)
    (haccum : cursor.accumX = 0 ∧ cursor.accumY = 0)
    (hscreen : framebufferInfo.screenWidth.toNat ≤ 32767 ∧
      framebufferInfo.screenHeight.toNat ≤ 32767)
    (hposition : cursor.x ≤ framebufferInfo.screenWidth ∧
      cursor.y ≤ framebufferInfo.screenHeight) :
    ((pointer.Delivers → DirectionKept header pointer cursor framebufferInfo) ∧
      tryUpdateCursorFromSimplePointerChecked header pointer cursor framebufferInfo =
        some (tryUpdateCursorFromSimplePointer header pointer cursor framebufferInfo)) ↔
    (pointer.Delivers →
      NarrowsWell pointer.totalX pointer.resolutionX framebufferInfo.screenWidth ∧
        NarrowsWell pointer.totalY pointer.resolutionY framebufferInfo.screenHeight) := by
  by_cases hdelivers : pointer.Delivers
  · simp only [hdelivers, forall_const]
    rcases readReports_cases pointer.getState 64 (startPointerPoll_sums cursor) (Nat.le_refl _) rfl
      with ⟨poll, hread, hsums, -⟩ | ⟨-, hshort, hfailed⟩
    · rw [List.nil_append] at hsums
      have hcount : poll.pollCount ≠ 0 := by
        intro hnone
        have hlength := hsums.pollCount
        rw [hnone] at hlength
        exact hdelivers.1 (List.length_eq_zero_iff.mp hlength.symm)
      have hx : poll.totalCountsX.toInt = pointer.totalX := hsums.totalCountsX
      have hy : poll.totalCountsY.toInt = pointer.totalY := hsums.totalCountsY
      obtain ⟨hpixelX, hpixelY, hchecked⟩ := tryUpdateCursorFromSimplePointer_reported
        header hread hcount haccum hscreen.1 hscreen.2 hposition.1 hposition.2
      rw [DirectionKept, hpixelX, hpixelY, ← hx, ← hy, sameDirection_iff _ _ _ hscreen.1,
        sameDirection_iff _ _ _ hscreen.2]
      exact and_iff_left hchecked
    · rw [List.length_nil, Nat.zero_add] at hfailed
      exact absurd hdelivers.2 (not_or.mpr ⟨hshort, hfailed⟩)
  · obtain ⟨hidle, hchecked⟩ := tryUpdateCursorFromSimplePointer_idle header cursor
      framebufferInfo hdelivers
    simp only [hdelivers, false_implies, hidle, hchecked, and_self]

end

def farPointer : SimplePointer where
  getState call := ⟨if call < 2 then efiSuccess else efiNotReady, ⟨2147483647, 0, 0⟩⟩
  mode := none

theorem tryUpdateCursorFromSimplePointer_turns :
    farPointer.Delivers ∧ farPointer.totalX = 4294967294 ∧
      ¬ DirectionKept plainBitmap farPointer default vgaScreen := by
  have hreports : farPointer.reports = [⟨2147483647, 0, 0⟩, ⟨2147483647, 0, 0⟩] := rfl
  have htotal : farPointer.totalX = 4294967294 := by
    rw [SimplePointer.totalX, hreports]
    decide
  have hdelivers : farPointer.Delivers := by
    rw [SimplePointer.Delivers, hreports]
    exact ⟨List.cons_ne_nil _ _, .inr rfl⟩
  refine ⟨hdelivers, htotal, fun hkept => ?_⟩
  rcases readReports_cases farPointer.getState 64 (startPointerPoll_sums default) (Nat.le_refl _)
    rfl with ⟨poll, hread, hsums, -⟩ | ⟨-, hshort, hfailed⟩
  · have hcount : poll.pollCount ≠ 0 := by
      intro hnone
      have hlength : poll.pollCount.toNat = 2 := hsums.pollCount
      rw [hnone] at hlength
      cases hlength
    have hx : poll.totalCountsX.toInt = farPointer.totalX := hsums.totalCountsX
    have hpixel := (tryUpdateCursorFromSimplePointer_reported plainBitmap hread hcount ⟨rfl, rfl⟩
      (show vgaScreen.screenWidth.toNat ≤ 32767 by decide) (by decide) (by decide) (by decide)).1
    have hsame := hkept.1
    rw [hpixel, ← hx, sameDirection_iff _ _ _ (by decide), hx, htotal] at hsame
    exact absurd hsame (by decide)
  · exact hfailed rfl

theorem tryUpdateCursorFromSimplePointer_direction_iff_far :
    ((farPointer.Delivers → DirectionKept plainBitmap farPointer default vgaScreen) ∧
      tryUpdateCursorFromSimplePointerChecked plainBitmap farPointer default vgaScreen =
        some (tryUpdateCursorFromSimplePointer plainBitmap farPointer default vgaScreen)) ↔
    (farPointer.Delivers →
      NarrowsWell farPointer.totalX farPointer.resolutionX vgaScreen.screenWidth ∧
        NarrowsWell farPointer.totalY farPointer.resolutionY vgaScreen.screenHeight) :=
  tryUpdateCursorFromSimplePointer_direction_iff plainBitmap farPointer default vgaScreen
    ⟨rfl, rfl⟩ ⟨by decide, by decide⟩ ⟨by decide, by decide⟩

end DragonOS.Boot
