import DragonOS.Boot.MouseScreen
import DragonOS.Boot.Movement
import DragonOS.Lib.SignedWords

/-!
# The range of the cursor

The functions of `DragonOS.Boot.Ps2` once more, with every signed operation checked:
they answer `none` when the exact result of one does not fit into a word. Starting from
the first cursor of the mouse loop they never do, whatever the controller says, because
the totals of a call are small, the accumulated movement is clamped before it is used,
and the cursor stays on the screen: `CursorReachable.inRange`.
-/

namespace DragonOS.Boot

open Lib

-- ---------------------------------------------------------------------------
-- The checked functions
-- ---------------------------------------------------------------------------

def absoluteChecked (value : Int32) : Option Int32 :=
  if value < 0 then negChecked value else some value

def applyMouseAccelerationChecked (deltaFixed : Int32) : Option Int32 := do
  let absDelta ← absoluteChecked deltaFixed
  let scaled ← mulChecked absDelta 192
  let quotient ← divChecked scaled fixedPixelOne
  let gain1024 := 1024 + quotient.toUInt32
  let gain1024 := if gain1024 > 3072 then 3072 else gain1024
  narrowChecked (deltaFixed.toInt64 * gain1024.toUInt64.toInt64 / 1024)

def clampCoordinateChecked (value : Int32) (limit : UInt32) : Option UInt32 :=
  if limit = 0 then some 0
  else if value < 0 then some 0
  else do
    let maxValue ← castChecked (limit - 1)
    if value > maxValue then some (limit - 1) else some value.toUInt32

def clampCursorAxisChecked (value : Int32) (screenSize cursorSize : UInt32) : Option UInt32 :=
  let limit := if screenSize > cursorSize then screenSize - cursorSize else 0
  clampCoordinateChecked value (limit + 1)

def receiveMouseByteChecked (poll : PollState) (data : UInt8) : Option (PollState × Bool) :=
  if poll.mouse.packetIndex = 0 ∧ data &&& 0x08 = 0 then some (poll, false)
  else
    let mouse :=
      { poll.mouse with
        packet := Function.update poll.mouse.packet poll.mouse.packetIndex data
        packetIndex := poll.mouse.packetIndex + 1 }
    if mouse.packetIndex < 3 then some ({ poll with mouse }, false)
    else
      let poll :=
        { poll with
          mouse := { mouse with packetIndex := 0 }
          leftButtonDown := if mouse.packet 0 &&& 0x01 ≠ 0 then 1 else 0
          packets := poll.packets ++ [(mouse.packet 0, mouse.packet 1, mouse.packet 2)] }
      if mouse.packet 0 &&& 0xC0 ≠ 0 then some (poll, false)
      else do
        let totalDeltaX ← addChecked poll.totalDeltaX (mouse.packet 1).toInt8.toInt32
        let totalDeltaY ← addChecked poll.totalDeltaY (mouse.packet 2).toInt8.toInt32
        let poll := { poll with totalDeltaX, totalDeltaY, packetCount := poll.packetCount + 1 }
        some (poll, poll.packetCount ≥ 32)

def readPacketsChecked : (limit : Nat) → PollState → Option PollState
  | 0, poll => some poll
  | limit + 1, poll =>
    match ps2TryReadByte poll.port with
    | (none, port) => some { poll with port }
    | (some (_, false), port) => readPacketsChecked limit { poll with port }
    | (some (data, true), port) =>
      match receiveMouseByteChecked { poll with port } data with
      | none => none
      | some (poll, true) => some poll
      | some (poll, false) => readPacketsChecked limit poll

def accumulateChecked (accum lastDelta : Int32) : Option (Int32 × Int32) := do
  let sum ← addChecked accum lastDelta
  let accum := clampI32 sum (-(fixedPixelOne * 64)) (fixedPixelOne * 64)
  let lastPixel ← divChecked accum fixedPixelOne
  let whole ← mulChecked lastPixel fixedPixelOne
  let rest ← subChecked accum whole
  some (lastPixel, rest)

def stepCursorAxisChecked (position : UInt32) (lastPixel : Int32)
    (screenSize cursorSize : UInt32) : Option UInt32 := do
  let position ← castChecked position
  let moved ← addChecked position lastPixel
  clampCursorAxisChecked moved screenSize cursorSize

section
variable (header : GeneratedBitmap) (framebufferInfo : FramebufferInfo)

def moveCursorChecked (mouseState : Ps2MouseState) (cursor : SoftwareCursor) :
    Option SoftwareCursor := do
  let (lastPixelX, accumX) ← accumulateChecked cursor.accumX mouseState.lastDeltaX
  let (lastPixelY, accumY) ← accumulateChecked cursor.accumY mouseState.lastDeltaY
  let cursor := { cursor with lastPixelX, lastPixelY, accumX, accumY }
  if lastPixelX ≠ 0 ∨ lastPixelY ≠ 0 then
    let x ← stepCursorAxisChecked cursor.x lastPixelX framebufferInfo.screenWidth
      header.cursorWidth
    let y ← stepCursorAxisChecked cursor.y lastPixelY framebufferInfo.screenHeight
      header.cursorHeight
    some { cursor with x, y }
  else some cursor

/-- The movement of a call on one axis, in fractions of a pixel. -/
def accelerateChecked (total : Int32) : Option Int32 := do
  let fixed ← mulChecked (clampI32 total (-64) 64) (fixedPixelOne / 2)
  applyMouseAccelerationChecked fixed

def updateCursorFromPs2MouseChecked (mouseState : Ps2MouseState) (cursor : SoftwareCursor)
    (port : Port) : Option PollResult :=
  if mouseState.enabled = 0 then
    some { result := 0, mouse := mouseState, cursor, port, packets := [] }
  else do
    let poll ← readPacketsChecked 96 (startPoll mouseState cursor port)
    let mouseState := poll.mouse
    let cursor :=
      { cursor with leftButtonDown := poll.leftButtonDown, lastPollCount := poll.packetCount }
    if poll.packetCount = 0 then
      some { result := 0, mouse := mouseState, cursor, port := poll.port, packets := poll.packets }
    else
      let cursor :=
        { cursor with
          lastRawX := clampI32 poll.totalDeltaX (-9999) 9999
          lastRawY := clampI32 poll.totalDeltaY (-9999) 9999 }
      if poll.totalDeltaX = 0 ∧ poll.totalDeltaY = 0 then
        some
          { result := 1, mouse := mouseState
            cursor := { cursor with lastPixelX := 0, lastPixelY := 0 }
            port := poll.port, packets := poll.packets }
      else do
        let lastDeltaX ← accelerateChecked poll.totalDeltaX
        let negatedY ← negChecked poll.totalDeltaY
        let lastDeltaY ← accelerateChecked negatedY
        let mouseState := { mouseState with lastDeltaX, lastDeltaY }
        let cursor ← moveCursorChecked header framebufferInfo mouseState cursor
        some
          { result := 1
            mouse := { mouseState with packetCount := mouseState.packetCount + poll.packetCount }
            cursor, port := poll.port, packets := poll.packets }

end

-- ---------------------------------------------------------------------------
-- The acceleration
-- ---------------------------------------------------------------------------

/-- The gain of `applyMouseAcceleration`, in 1024ths. -/
def mouseGain (deltaFixed : Int32) : Nat :=
  min 3072 (1024 + deltaFixed.toInt.natAbs * 192 / 256)

theorem natAbs_mul_mouseGain_le (deltaFixed : Int32) :
    (deltaFixed.toInt * mouseGain deltaFixed).natAbs ≤ deltaFixed.toInt.natAbs * 3072 := by
  rw [Int.natAbs_mul]
  exact Nat.mul_le_mul_left _ (Nat.min_le_left _ _)

theorem absoluteChecked_eq (value : Int32) (hvalue : value.toInt.natAbs < 2 ^ 31) :
    absoluteChecked value = some (if value < 0 then -value else value) ∧
      (if value < 0 then -value else value).toInt = value.toInt.natAbs := by
  have hnegative : value < 0 ↔ value.toInt < 0 := by
    rw [Int32.lt_iff_toInt_lt, Int32.toInt_zero]
  constructor <;> simp only [absoluteChecked, hnegative] <;> split
  · exact checked_of_fits (by unfold Fits; omega)
  · rfl
  · rw [toInt_neg_of_fits (by unfold Fits; omega)]
    omega
  · omega

/-- A movement of less than 2^31 / 192 is scaled by its gain, without an overflow. -/
theorem applyMouseAccelerationChecked_eq (deltaFixed : Int32)
    (hsmall : 192 * deltaFixed.toInt.natAbs < 2 ^ 31) :
    applyMouseAccelerationChecked deltaFixed = some (applyMouseAcceleration deltaFixed) ∧
      (applyMouseAcceleration deltaFixed).toInt =
        (deltaFixed.toInt * mouseGain deltaFixed).tdiv 1024 := by
  have hmost := natAbs_mul_mouseGain_le deltaFixed
  obtain ⟨absDelta, habs⟩ : ∃ absDelta : Int32,
      (if deltaFixed < 0 then -deltaFixed else deltaFixed) = absDelta := ⟨_, rfl⟩
  obtain ⟨hchecked, hvalue⟩ := absoluteChecked_eq deltaFixed (by omega)
  rw [habs] at hchecked hvalue
  have hmul : Fits (absDelta.toInt * (192 : Int32).toInt) := by
    rw [hvalue]
    show Fits (_ * 192)
    unfold Fits
    omega
  have hscaled : (absDelta * 192).toInt = (deltaFixed.toInt.natAbs * 192 : Nat) := by
    rw [toInt_mul_of_fits hmul, hvalue]
    rfl
  have hexact : (absDelta * 192).toInt.tdiv fixedPixelOne.toInt =
      (deltaFixed.toInt.natAbs * 192 / 256 : Nat) := by
    rw [hscaled]
    rfl
  have hdiv : Fits ((absDelta * 192).toInt.tdiv fixedPixelOne.toInt) := by
    rw [hexact]
    unfold Fits
    omega
  have hquotient : (absDelta * 192 / fixedPixelOne).toInt =
      (deltaFixed.toInt.natAbs * 192 / 256 : Nat) := by rw [toInt_div_of_fits hdiv, hexact]
  have hunsigned : (absDelta * 192 / fixedPixelOne).toUInt32.toNat =
      deltaFixed.toInt.natAbs * 192 / 256 := by
    have := toNat_toUInt32 (absDelta * 192 / fixedPixelOne)
    rw [hquotient, if_neg (by omega)] at this
    omega
  obtain ⟨gain, hgain, hgainValue⟩ : ∃ gain : UInt32,
      (if 1024 + (absDelta * 192 / fixedPixelOne).toUInt32 > 3072 then 3072
        else 1024 + (absDelta * 192 / fixedPixelOne).toUInt32) = gain ∧
      gain.toNat = mouseGain deltaFixed := by
    refine ⟨_, rfl, ?_⟩
    have hsum := toNat_add_of_lt (a := 1024) (b := (absDelta * 192 / fixedPixelOne).toUInt32)
      (by rw [hunsigned]; show 1024 + _ < _; omega)
    rw [toNat_ite_gt, hsum, hunsigned, mouseGain, Nat.min_comm]
    rfl
  have hproduct : (deltaFixed.toInt64 * gain.toUInt64.toInt64).toInt =
      deltaFixed.toInt * mouseGain deltaFixed := by
    rw [Int64.toInt_mul, Int32.toInt_toInt64, toInt_toInt64_toUInt64, hgainValue]
    exact Int.bmod_eq_of_le (by omega) (by omega)
  have hquarter : ((deltaFixed.toInt * mouseGain deltaFixed).tdiv 1024).natAbs =
      (deltaFixed.toInt * mouseGain deltaFixed).natAbs / 1024 := Int.natAbs_tdiv _ _
  have haccelerated : (deltaFixed.toInt64 * gain.toUInt64.toInt64 / 1024).toInt =
      (deltaFixed.toInt * mouseGain deltaFixed).tdiv 1024 := by
    have hdivisor : (1024 : Int64).toInt = 1024 := rfl
    rw [Int64.toInt_div, hproduct, hdivisor]
    exact Int.bmod_eq_of_le (by omega) (by omega)
  have hnarrow : Fits (deltaFixed.toInt64 * gain.toUInt64.toInt64 / 1024).toInt := by
    rw [haccelerated]
    unfold Fits
    omega
  constructor
  · have hnonzero : fixedPixelOne ≠ 0 := by decide
    simp only [applyMouseAccelerationChecked, applyMouseAcceleration, hchecked, habs, mulChecked,
      checked_of_fits hmul, divChecked, hnonzero, if_false, checked_of_fits hdiv, hgain,
      narrowChecked, checked_of_fits hnarrow, Option.bind_eq_bind, Option.bind_some]
  · simp only [applyMouseAcceleration, habs, hgain]
    rw [toInt_narrow_of_fits hnarrow, haccelerated]

theorem natAbs_applyMouseAcceleration_le (deltaFixed : Int32)
    (hsmall : 192 * deltaFixed.toInt.natAbs < 2 ^ 31) :
    (applyMouseAcceleration deltaFixed).toInt.natAbs ≤ 3 * deltaFixed.toInt.natAbs := by
  have hmost := natAbs_mul_mouseGain_le deltaFixed
  have hquarter : ((deltaFixed.toInt * mouseGain deltaFixed).tdiv 1024).natAbs =
      (deltaFixed.toInt * mouseGain deltaFixed).natAbs / 1024 := Int.natAbs_tdiv _ _
  rw [(applyMouseAccelerationChecked_eq deltaFixed hsmall).2]
  omega

-- ---------------------------------------------------------------------------
-- The parts of a call
-- ---------------------------------------------------------------------------

theorem clampI32_bounds (value : Int32) {min max : Int32} (h : min.toInt ≤ max.toInt) :
    min.toInt ≤ (clampI32 value min max).toInt ∧ (clampI32 value min max).toInt ≤ max.toInt := by
  simp only [clampI32, gt_iff_lt, Int32.lt_iff_toInt_lt]
  split
  · exact ⟨Int.le_refl _, h⟩
  split <;> omega

/-- At most 64 counts, of half a pixel each, are accelerated. -/
theorem accelerateChecked_eq (total : Int32) :
    accelerateChecked total =
        some (applyMouseAcceleration (clampI32 total (-64) 64 * (fixedPixelOne / 2))) ∧
      (applyMouseAcceleration (clampI32 total (-64) 64 * (fixedPixelOne / 2))).toInt.natAbs ≤
        24576 := by
  have hclamp := clampI32_bounds total (show (-64 : Int32).toInt ≤ (64 : Int32).toInt by decide)
  have hlow : (-64 : Int32).toInt = -64 := rfl
  have hhigh : (64 : Int32).toInt = 64 := rfl
  have hhalf : (fixedPixelOne / 2).toInt = 128 := by decide
  rw [hlow, hhigh] at hclamp
  have hfits : Fits ((clampI32 total (-64) 64).toInt * (fixedPixelOne / 2).toInt) := by
    rw [hhalf]
    unfold Fits
    omega
  have hvalue := toInt_mul_of_fits hfits
  rw [hhalf] at hvalue
  have hsmall : 192 * (clampI32 total (-64) 64 * (fixedPixelOne / 2)).toInt.natAbs < 2 ^ 31 := by
    rw [hvalue]
    omega
  have hbound := natAbs_applyMouseAcceleration_le _ hsmall
  constructor
  · simp only [accelerateChecked, mulChecked, checked_of_fits hfits, Option.bind_eq_bind,
      Option.bind_some, (applyMouseAccelerationChecked_eq _ hsmall).1]
  · rw [hvalue] at hbound
    omega

def accumulated (accum lastDelta : Int32) : Int32 :=
  clampI32 (accum + lastDelta) (-(fixedPixelOne * 64)) (fixedPixelOne * 64)

theorem accumulateChecked_eq {accum lastDelta : Int32} (haccum : accum.toInt.natAbs < 256)
    (hdelta : lastDelta.toInt.natAbs < 2 ^ 30) :
    accumulateChecked accum lastDelta =
        some (accumulated accum lastDelta / fixedPixelOne, accumulated accum lastDelta -
          accumulated accum lastDelta / fixedPixelOne * fixedPixelOne) ∧
      (accumulated accum lastDelta / fixedPixelOne).toInt.natAbs ≤ 64 ∧
      (accumulated accum lastDelta -
        accumulated accum lastDelta / fixedPixelOne * fixedPixelOne).toInt.natAbs < 256 := by
  have hsum : Fits (accum.toInt + lastDelta.toInt) := by
    unfold Fits
    omega
  have hclamp := clampI32_bounds (accum + lastDelta)
    (show (-(fixedPixelOne * 64)).toInt ≤ (fixedPixelOne * 64).toInt by decide)
  have hlow : (-(fixedPixelOne * 64)).toInt = -16384 := by decide
  have hhigh : (fixedPixelOne * 64).toInt = 16384 := by decide
  rw [hlow, hhigh] at hclamp
  unfold accumulated
  generalize hsettled : clampI32 (accum + lastDelta) _ _ = settled at hclamp ⊢
  have hone : fixedPixelOne.toInt = 256 := rfl
  have hnonzero : fixedPixelOne ≠ 0 := by decide
  have hsplit := Int.mul_tdiv_add_tmod settled.toInt 256
  have hquotient : (settled.toInt.tdiv 256).natAbs = settled.toInt.natAbs / 256 :=
    Int.natAbs_tdiv _ _
  have hremainder : (settled.toInt.tmod 256).natAbs = settled.toInt.natAbs % 256 :=
    Int.natAbs_tmod _ _
  have hdiv : Fits (settled.toInt.tdiv fixedPixelOne.toInt) := by
    rw [hone]
    unfold Fits
    omega
  have hpixels := toInt_div_of_fits hdiv
  rw [hone] at hpixels
  have hmul : Fits ((settled / fixedPixelOne).toInt * fixedPixelOne.toInt) := by
    rw [hone, hpixels]
    unfold Fits
    omega
  have hwhole := toInt_mul_of_fits hmul
  rw [hone, hpixels] at hwhole
  have hsub : Fits (settled.toInt - (settled / fixedPixelOne * fixedPixelOne).toInt) := by
    rw [hwhole]
    unfold Fits
    omega
  refine ⟨?_, ?_, ?_⟩
  · simp only [accumulateChecked, addChecked, checked_of_fits hsum, hsettled, divChecked, hnonzero,
      if_false, checked_of_fits hdiv, mulChecked, checked_of_fits hmul, subChecked,
      checked_of_fits hsub, Option.bind_eq_bind, Option.bind_some]
  · rw [hpixels]
    omega
  · rw [toInt_sub_of_fits hsub, hwhole]
    omega

theorem clampCoordinateChecked_eq (value : Int32) {limit : UInt32} (h : limit.toNat ≤ 2 ^ 31) :
    clampCoordinateChecked value limit = some (clampCoordinate value limit) := by
  unfold clampCoordinateChecked clampCoordinate
  split
  · rfl
  next hlimit =>
  split
  · rfl
  have hpos : 1 ≤ limit.toNat := by
    rw [Nat.one_le_iff_ne_zero, ne_eq, ← UInt32.toNat_zero, UInt32.toNat_inj]
    exact hlimit
  have hlast : (limit - 1).toNat = limit.toNat - 1 :=
    toNat_sub_of_ge hpos
  have hcast := (castChecked_of_lt (show (limit - 1).toNat < 2 ^ 31 by omega)).1
  simp only [hcast, Option.bind_eq_bind, Option.bind_some]
  split <;> rfl

theorem stepCursorAxisChecked_eq (cursorSize : UInt32) {position screenSize : UInt32}
    {lastPixel : Int32} (hposition : position.toNat < 2 ^ 30)
    (hpixel : lastPixel.toInt.natAbs ≤ 64) (hscreen : screenSize.toNat < 2 ^ 30) :
    stepCursorAxisChecked position lastPixel screenSize cursorSize =
      some (clampCursorAxis (position.toInt32 + lastPixel) screenSize cursorSize) := by
  obtain ⟨hcast, hvalue⟩ := castChecked_of_lt (show position.toNat < 2 ^ 31 by omega)
  have hsum : Fits (position.toInt32.toInt + lastPixel.toInt) := by
    rw [hvalue]
    unfold Fits
    omega
  have hlimit : ((if screenSize > cursorSize then screenSize - cursorSize else 0) + 1).toNat ≤
      2 ^ 31 := by
    have hsucc := toNat_add_le (if screenSize > cursorSize then screenSize - cursorSize else 0) 1
    have hone : (1 : UInt32).toNat = 1 := rfl
    rw [hone] at hsucc
    split at hsucc
    next hgt =>
      rw [UInt32.toNat_sub_of_le _ _ (UInt32.le_of_lt hgt)] at hsucc
      rw [if_pos hgt]
      omega
    next hle =>
      rw [if_neg hle]
      decide
  simp only [stepCursorAxisChecked, hcast, addChecked, checked_of_fits hsum,
    clampCursorAxisChecked, clampCoordinateChecked_eq _ hlimit, clampCursorAxis,
    Option.bind_eq_bind, Option.bind_some]

-- ---------------------------------------------------------------------------
-- A call
-- ---------------------------------------------------------------------------

theorem receiveMouseByteChecked_eq {poll : PollState} (h : poll.Sums)
    (hroom : poll.acceptedPackets.length < 32) (data : UInt8) :
    receiveMouseByteChecked poll data = some (receiveMouseByte poll data) := by
  obtain ⟨hx, hy⟩ := h.bounds
  have hadd (total : Int32) (low : UInt8) (hbounds :
      -128 * (poll.acceptedPackets.length : Int) ≤ total.toInt ∧
        total.toInt ≤ 127 * poll.acceptedPackets.length) :
      addChecked total low.toInt8.toInt32 = some (total + low.toInt8.toInt32) := by
    have hlow := toInt_toInt8_bounds low
    refine checked_of_fits ?_
    rw [Int8.toInt_toInt32]
    unfold Fits
    omega
  simp only [receiveMouseByteChecked, receiveMouseByte]
  split
  · rfl
  split
  · rfl
  split
  · rfl
  · simp only [hadd _ _ hx, hadd _ _ hy, Option.bind_eq_bind, Option.bind_some]

theorem readPacketsChecked_eq (limit : Nat) {poll : PollState} (h : poll.Sums)
    (hroom : poll.acceptedPackets.length < 32) :
    readPacketsChecked limit poll = some (readPackets limit poll) := by
  induction limit generalizing poll with
  | zero => rfl
  | succ limit ih =>
    simp only [readPacketsChecked, readPackets]
    obtain ⟨read, port⟩ := ps2TryReadByte poll.port
    have hwith := h.withMouse poll.mouse port
    obtain _ | ⟨data, fromMouse⟩ := read
    · rfl
    cases fromMouse with
    | false => exact ih hwith hroom
    | true =>
      have hreceived := receiveMouseByte_sums hwith hroom data
      simp only [receiveMouseByteChecked_eq hwith hroom data]
      revert hreceived
      obtain ⟨next, broken⟩ := receiveMouseByte { poll with port } data
      intro hreceived
      cases broken with
      | true => rfl
      | false => exact ih hreceived.1 (hreceived.2 rfl)

section
variable (header : GeneratedBitmap) (framebufferInfo : FramebufferInfo)

/-- The invariant of the cursor. The accumulated movement is less than a pixel, and a
call moves the cursor by 64 pixels at most. -/
structure SoftwareCursor.InRange (cursor : SoftwareCursor) : Prop where
  x_le : cursor.x.toNat ≤ framebufferInfo.screenWidth.toNat - header.cursorWidth.toNat
  y_le : cursor.y.toNat ≤ framebufferInfo.screenHeight.toNat - header.cursorHeight.toNat
  accumX : -256 < cursor.accumX.toInt ∧ cursor.accumX.toInt < 256
  accumY : -256 < cursor.accumY.toInt ∧ cursor.accumY.toInt < 256
  lastPixelX : -64 ≤ cursor.lastPixelX.toInt ∧ cursor.lastPixelX.toInt ≤ 64
  lastPixelY : -64 ≤ cursor.lastPixelY.toInt ∧ cursor.lastPixelY.toInt ≤ 64

theorem SoftwareCursor.InRange.clamped {cursor : SoftwareCursor}
    (h : cursor.InRange header framebufferInfo) : cursor.Clamped header framebufferInfo :=
  ⟨h.x_le, h.y_le⟩

variable {header framebufferInfo}

theorem zero_accum : -256 < (0 : Int32).toInt ∧ (0 : Int32).toInt < 256 := by decide

theorem zero_lastPixel : -64 ≤ (0 : Int32).toInt ∧ (0 : Int32).toInt ≤ 64 := by decide

theorem moveCursorChecked_eq (hwidth : framebufferInfo.screenWidth.toNat < 2 ^ 30)
    (hheight : framebufferInfo.screenHeight.toNat < 2 ^ 30) (cursor : SoftwareCursor)
    (mouseState : Ps2MouseState) (h : cursor.InRange header framebufferInfo)
    (hdeltaX : mouseState.lastDeltaX.toInt.natAbs ≤ 24576)
    (hdeltaY : mouseState.lastDeltaY.toInt.natAbs ≤ 24576) :
    moveCursorChecked header framebufferInfo mouseState cursor =
        some (moveCursor header framebufferInfo mouseState cursor) ∧
      (moveCursor header framebufferInfo mouseState cursor).InRange header framebufferInfo := by
  obtain ⟨hx, hpixelX, hrestX⟩ :=
    accumulateChecked_eq (show cursor.accumX.toInt.natAbs < 256 by have := h.accumX; omega)
      (Nat.lt_of_le_of_lt hdeltaX (by decide))
  obtain ⟨hy, hpixelY, hrestY⟩ :=
    accumulateChecked_eq (show cursor.accumY.toInt.natAbs < 256 by have := h.accumY; omega)
      (Nat.lt_of_le_of_lt hdeltaY (by decide))
  have hstepX := stepCursorAxisChecked_eq header.cursorWidth
    (show cursor.x.toNat < 2 ^ 30 by have := h.x_le; omega) hpixelX hwidth
  have hstepY := stepCursorAxisChecked_eq header.cursorHeight
    (show cursor.y.toNat < 2 ^ 30 by have := h.y_le; omega) hpixelY hheight
  have hclamped := moveCursor_clamped header framebufferInfo mouseState h.clamped
  refine ⟨?_, hclamped.x_le, hclamped.y_le, ?_, ?_, ?_, ?_⟩
  · simp only [moveCursorChecked, hx, hy, hstepX, hstepY, Option.bind_eq_bind, Option.bind_some]
    simp only [moveCursor, clampCursorX, clampCursorY, accumulated]
    exact (apply_ite some _ _ _).symm
  all_goals
    simp only [moveCursor]
    simp only [accumulated] at hpixelX hrestX hpixelY hrestY
    split <;> (dsimp only; omega)

theorem updateCursorFromPs2MouseChecked_eq (hwidth : framebufferInfo.screenWidth.toNat < 2 ^ 30)
    (hheight : framebufferInfo.screenHeight.toNat < 2 ^ 30) {cursor : SoftwareCursor}
    (h : cursor.InRange header framebufferInfo) (mouseState : Ps2MouseState) (port : Port) :
    updateCursorFromPs2MouseChecked header framebufferInfo mouseState cursor port =
        some (updateCursorFromPs2Mouse header framebufferInfo mouseState cursor port) ∧
      (updateCursorFromPs2Mouse header framebufferInfo mouseState cursor port).cursor.InRange
        header framebufferInfo := by
  simp only [updateCursorFromPs2MouseChecked, updateCursorFromPs2Mouse]
  split
  · exact ⟨rfl, h⟩
  have hroom : (startPoll mouseState cursor port).acceptedPackets.length < 32 :=
    Nat.zero_lt_succ 31
  have hsums := readPackets_sums 96 startPoll_sums hroom
  simp only [readPacketsChecked_eq 96 startPoll_sums hroom, Option.bind_eq_bind, Option.bind_some]
  generalize readPackets 96 (startPoll mouseState cursor port) = poll at hsums ⊢
  split
  · exact ⟨rfl, h.x_le, h.y_le, h.accumX, h.accumY, h.lastPixelX, h.lastPixelY⟩
  split
  · exact ⟨rfl, h.x_le, h.y_le, h.accumX, h.accumY, zero_lastPixel, zero_lastPixel⟩
  have hnegated : negChecked poll.totalDeltaY = some (-poll.totalDeltaY) := by
    have hbounds := hsums.bounds.2
    have hcount := hsums.count_le
    refine checked_of_fits ?_
    unfold Fits
    omega
  obtain ⟨hx, hdeltaX⟩ := accelerateChecked_eq poll.totalDeltaX
  obtain ⟨hy, hdeltaY⟩ := accelerateChecked_eq (-poll.totalDeltaY)
  simp only [hx, hy, hnegated, Option.bind_some]
  obtain ⟨hmoved, hrange⟩ := moveCursorChecked_eq hwidth hheight
    { cursor with
      leftButtonDown := poll.leftButtonDown, lastPollCount := poll.packetCount
      lastRawX := clampI32 poll.totalDeltaX (-9999) 9999
      lastRawY := clampI32 poll.totalDeltaY (-9999) 9999 }
    { poll.mouse with
      lastDeltaX := applyMouseAcceleration (clampI32 poll.totalDeltaX (-64) 64 * (fixedPixelOne / 2))
      lastDeltaY :=
        applyMouseAcceleration (clampI32 (-poll.totalDeltaY) (-64) 64 * (fixedPixelOne / 2)) }
    ⟨h.x_le, h.y_le, h.accumX, h.accumY, h.lastPixelX, h.lastPixelY⟩ hdeltaX hdeltaY
  rw [hmoved]
  exact ⟨rfl, hrange⟩

end

-- ---------------------------------------------------------------------------
-- Every sequence of calls
-- ---------------------------------------------------------------------------

/-- The cursors a sequence of calls can produce, from the first cursor of the loop. Every
call finds any state of the mouse and any readings of the controller. -/
inductive CursorReachable (header : GeneratedBitmap) (framebufferInfo : FramebufferInfo) :
    SoftwareCursor → Prop
  | start (locals : Locals) :
    CursorReachable header framebufferInfo (locals.firstCursor header framebufferInfo)
  | update (mouseState : Ps2MouseState) (port : Port)
    (h : CursorReachable header framebufferInfo cursor) :
    CursorReachable header framebufferInfo
      (updateCursorFromPs2Mouse header framebufferInfo mouseState cursor port).cursor

section
variable {header : GeneratedBitmap} {framebufferInfo : FramebufferInfo}

theorem firstCursor_inRange (locals : Locals) :
    (locals.firstCursor header framebufferInfo).InRange header framebufferInfo := by
  have hx := clampCursorAxis_le (framebufferInfo.screenWidth / 2).toInt32
    framebufferInfo.screenWidth header.cursorWidth
  have hy := clampCursorAxis_le (framebufferInfo.screenHeight / 2).toInt32
    framebufferInfo.screenHeight header.cursorHeight
  obtain ⟨opaqueMask, resolvedPixels, heq⟩ := initializeCursorSurface_eq header framebufferInfo
    (startCursor header framebufferInfo locals.cursor)
  rw [Locals.firstCursor, heq]
  exact ⟨hx, hy, zero_accum, zero_accum, zero_lastPixel, zero_lastPixel⟩

theorem SoftwareCursor.InRange.saved_le {cursor : SoftwareCursor}
    (h : cursor.InRange header framebufferInfo) :
    let saved := (saveCursorBackground header framebufferInfo cursor).1
    saved.x.toNat + saved.savedWidth.toNat ≤ framebufferInfo.screenWidth.toNat ∧
      saved.y.toNat + saved.savedHeight.toNat ≤ framebufferInfo.screenHeight.toNat := by
  obtain ⟨hwidth, hheight⟩ := h.clamped.toNat_clip
  have hx := h.x_le
  have hy := h.y_le
  simp only [saveCursorBackground, SoftwareCursor.clip] at *
  omega

/-- Every reachable cursor is in range, the next call returns without an overflow, and
the background of the cursor is on the screen. -/
theorem CursorReachable.inRange (hwidth : framebufferInfo.screenWidth.toNat < 2 ^ 30)
    (hheight : framebufferInfo.screenHeight.toNat < 2 ^ 30) {cursor : SoftwareCursor}
    (h : CursorReachable header framebufferInfo cursor) :
    cursor.InRange header framebufferInfo ∧
      (∀ mouseState port,
        updateCursorFromPs2MouseChecked header framebufferInfo mouseState cursor port =
          some (updateCursorFromPs2Mouse header framebufferInfo mouseState cursor port)) ∧
      let saved := (saveCursorBackground header framebufferInfo cursor).1
      saved.x.toNat + saved.savedWidth.toNat ≤ framebufferInfo.screenWidth.toNat ∧
        saved.y.toNat + saved.savedHeight.toNat ≤ framebufferInfo.screenHeight.toNat := by
  have hrange : cursor.InRange header framebufferInfo := by
    induction h with
    | start locals => exact firstCursor_inRange locals
    | update mouseState port _ ih =>
      exact (updateCursorFromPs2MouseChecked_eq hwidth hheight ih mouseState port).2
  exact ⟨hrange,
    fun mouseState port =>
      (updateCursorFromPs2MouseChecked_eq hwidth hheight hrange mouseState port).1,
    hrange.saved_le⟩

/-- A packet that moves 127 to the right and 128 up, on the way from the middle. -/
theorem CursorReachable.inRange_vga :
    let mouseState := { (default : Ps2MouseState) with enabled := 1 }
    let cursor := (updateCursorFromPs2Mouse plainBitmap vgaScreen mouseState
      ((vgaLocals []).firstCursor plainBitmap vgaScreen)
      [⟨0x21, 0x28⟩, ⟨0x21, 0x7F⟩, ⟨0x21, 0x80⟩]).cursor
    cursor.InRange plainBitmap vgaScreen ∧
      (∀ mouseState port,
        updateCursorFromPs2MouseChecked plainBitmap vgaScreen mouseState cursor port =
          some (updateCursorFromPs2Mouse plainBitmap vgaScreen mouseState cursor port)) ∧
      let saved := (saveCursorBackground plainBitmap vgaScreen cursor).1
      saved.x.toNat + saved.savedWidth.toNat ≤ vgaScreen.screenWidth.toNat ∧
        saved.y.toNat + saved.savedHeight.toNat ≤ vgaScreen.screenHeight.toNat :=
  CursorReachable.inRange (by decide) (by decide) (.update _ _ (.start _))

end

end DragonOS.Boot
