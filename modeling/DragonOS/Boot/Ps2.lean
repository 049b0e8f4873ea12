import DragonOS.Boot.OnScreen
import DragonOS.Lib.Framing

/-!
# The PS/2 mouse

The controller is a list of readings: what the status and the data port would
answer to one poll after the other. The list is arbitrary, so it stands for any
timing and for any mix of keyboard and mouse bytes; a list that has run out is a
controller with nothing to say.

`updateCursorFromPs2Mouse` keeps an unfinished packet between calls. What it
recognises is the framing of the mouse bytes, wherever its calls begin and end:
`polls_framing`.
-/

namespace DragonOS.Boot

open Lib

-- ---------------------------------------------------------------------------
-- The controller
-- ---------------------------------------------------------------------------

structure Reading where
  status : UInt8
  data : UInt8
  deriving DecidableEq, Repr

abbrev Port := List Reading

/-- `sent` lists the bytes written to the ports, newest first. -/
structure Controller where
  port : Port
  sent : List (UInt16 × UInt8)

abbrev Ps2 := StateM Controller

def nextReading : Ps2 Reading :=
  modifyGet fun controller =>
    match controller.port with
    | [] => (⟨0, 0⟩, controller)
    | reading :: port => (reading, { controller with port })

def outByte (address : UInt16) (value : UInt8) : Ps2 Unit :=
  modify fun controller => { controller with sent := (address, value) :: controller.sent }

def ps2WaitForInputClear : (attempts : Nat) → Ps2 Bool
  | 0 => pure false
  | attempts + 1 => do
    let reading ← nextReading
    if reading.status &&& 0x02 = 0 then pure true else ps2WaitForInputClear attempts

def ps2WaitForOutputByte (requireMouseData : Bool) : (attempts : Nat) → Ps2 (Option UInt8)
  | 0 => pure none
  | attempts + 1 => do
    let reading ← nextReading
    if reading.status &&& 0x01 ≠ 0 ∧ (requireMouseData = false ∨ reading.status &&& 0x20 ≠ 0) then
      pure (some reading.data)
    else ps2WaitForOutputByte requireMouseData attempts

/-- The byte and whether it came from the mouse. -/
def ps2TryReadByte : Port → Option (UInt8 × Bool) × Port
  | [] => (none, [])
  | reading :: port =>
    if reading.status &&& 0x01 = 0 then (none, port)
    else (some (reading.data, reading.status &&& 0x20 ≠ 0), port)

def ps2FlushOutputBuffer : (flushes : Nat) → Ps2 Unit
  | 0 => pure ()
  | flushes + 1 => do
    let reading ← nextReading
    if reading.status &&& 0x01 = 0 then pure () else ps2FlushOutputBuffer flushes

def ps2WriteControllerCommand (command : UInt8) : Ps2 Bool := do
  if ← ps2WaitForInputClear 100000 then
    outByte 0x64 command
    pure true
  else pure false

def ps2WriteControllerData (value : UInt8) : Ps2 Bool := do
  if ← ps2WaitForInputClear 100000 then
    outByte 0x60 value
    pure true
  else pure false

def ps2WriteMouseCommand (command : UInt8) : Ps2 Bool := do
  if ← ps2WriteControllerCommand 0xD4 then ps2WriteControllerData command else pure false

/-- The acknowledge byte a mouse command waits for. -/
def ps2Acknowledged : Ps2 Bool := do
  let acknowledge ← ps2WaitForOutputByte true 100000
  pure (acknowledge = some 0xFA)

-- ---------------------------------------------------------------------------
-- The mouse state
-- ---------------------------------------------------------------------------

/-- `packet` is indexed like the array of the source. -/
structure Ps2MouseState where
  enabled : UInt8
  packetIndex : UInt8
  leftButtonDown : UInt8
  packet : UInt8 → UInt8
  lastDeltaX : Int32
  lastDeltaY : Int32
  packetCount : UInt32
  deriving Inhabited

/-- The assignments `initializePs2Mouse` begins with. -/
def Ps2MouseState.reset (mouseState : Ps2MouseState) : Ps2MouseState :=
  { mouseState with
    enabled := 0, packetIndex := 0, leftButtonDown := 0, lastDeltaX := 0, lastDeltaY := 0,
    packetCount := 0 }

/-- The exchange with the controller; whether every step of it succeeded. -/
def ps2EnableMouse : Ps2 Bool := do
  ps2FlushOutputBuffer 64
  unless ← ps2WriteControllerCommand 0xA8 do return false
  unless ← ps2WriteControllerCommand 0x20 do return false
  let some controllerConfig ← ps2WaitForOutputByte false 100000 | return false
  let controllerConfig := (controllerConfig ||| 0x02) &&& 0xDF
  unless ← ps2WriteControllerCommand 0x60 do return false
  unless ← ps2WriteControllerData controllerConfig do return false
  ps2FlushOutputBuffer 64
  unless ← ps2WriteMouseCommand 0xF6 do return false
  unless ← ps2Acknowledged do return false
  unless ← ps2WriteMouseCommand 0xF4 do return false
  ps2Acknowledged

def initializePs2Mouse (mouseState : Ps2MouseState) : Ps2 (UInt8 × Ps2MouseState) := do
  if ← ps2EnableMouse then pure (1, { mouseState.reset with enabled := 1 })
  else pure (0, mouseState.reset)

-- ---------------------------------------------------------------------------
-- Moving the cursor
-- ---------------------------------------------------------------------------

def clampCoordinate (value : Int32) (limit : UInt32) : UInt32 :=
  if limit = 0 then 0
  else if value < 0 then 0
  else if value > (limit - 1).toInt32 then limit - 1
  else value.toUInt32

/-- `ClampCursorX` at the width of the screen, `ClampCursorY` at its height. -/
def clampCursorAxis (value : Int32) (screenSize cursorSize : UInt32) : UInt32 :=
  let limit := if screenSize > cursorSize then screenSize - cursorSize else 0
  clampCoordinate value (limit + 1)

section
variable (header : GeneratedBitmap)

def clampCursorX (value : Int32) (framebufferInfo : FramebufferInfo) : UInt32 :=
  clampCursorAxis value framebufferInfo.screenWidth header.cursorWidth

def clampCursorY (value : Int32) (framebufferInfo : FramebufferInfo) : UInt32 :=
  clampCursorAxis value framebufferInfo.screenHeight header.cursorHeight

end

def clampI32 (value min max : Int32) : Int32 :=
  if value < min then min else if value > max then max else value

def fixedPixelOne : Int32 := 256

def applyMouseAcceleration (deltaFixed : Int32) : Int32 :=
  let absDelta := if deltaFixed < 0 then -deltaFixed else deltaFixed
  let gain1024 := 1024 + (absDelta * 192 / fixedPixelOne).toUInt32
  let gain1024 := if gain1024 > 3072 then 3072 else gain1024
  (deltaFixed.toInt64 * gain1024.toUInt64.toInt64 / 1024).toInt32

-- ---------------------------------------------------------------------------
-- Reading packets
-- ---------------------------------------------------------------------------

abbrev Packet := UInt8 × UInt8 × UInt8

/-- The loop of `updateCursorFromPs2Mouse` between two reads. `packets` records
the packets completed so far; the source does not keep them. -/
structure PollState where
  mouse : Ps2MouseState
  port : Port
  totalDeltaX : Int32
  totalDeltaY : Int32
  packetCount : UInt32
  leftButtonDown : UInt8
  packets : List Packet

/-- What the loop does with a byte of the mouse, and whether it breaks off. -/
def receiveMouseByte (poll : PollState) (data : UInt8) : PollState × Bool :=
  if poll.mouse.packetIndex = 0 ∧ data &&& 0x08 = 0 then (poll, false)
  else
    let mouse :=
      { poll.mouse with
        packet := Function.update poll.mouse.packet poll.mouse.packetIndex data
        packetIndex := poll.mouse.packetIndex + 1 }
    if mouse.packetIndex < 3 then ({ poll with mouse }, false)
    else
      let poll :=
        { poll with
          mouse := { mouse with packetIndex := 0 }
          leftButtonDown := if mouse.packet 0 &&& 0x01 ≠ 0 then 1 else 0
          packets := poll.packets ++ [(mouse.packet 0, mouse.packet 1, mouse.packet 2)] }
      if mouse.packet 0 &&& 0xC0 ≠ 0 then (poll, false)
      else
        let poll :=
          { poll with
            totalDeltaX := poll.totalDeltaX + (mouse.packet 1).toInt8.toInt32
            totalDeltaY := poll.totalDeltaY + (mouse.packet 2).toInt8.toInt32
            packetCount := poll.packetCount + 1 }
        (poll, poll.packetCount ≥ 32)

/-- The loop with at most `limit` more reads. -/
def readPackets : (limit : Nat) → PollState → PollState
  | 0, poll => poll
  | limit + 1, poll =>
    match ps2TryReadByte poll.port with
    | (none, port) => { poll with port }
    | (some (_, false), port) => readPackets limit { poll with port }
    | (some (data, true), port) =>
      match receiveMouseByte { poll with port } data with
      | (poll, true) => poll
      | (poll, false) => readPackets limit poll

def startPoll (mouseState : Ps2MouseState) (cursor : SoftwareCursor) (port : Port) : PollState where
  mouse := mouseState
  port := port
  totalDeltaX := 0
  totalDeltaY := 0
  packetCount := 0
  leftButtonDown := cursor.leftButtonDown
  packets := []

structure PollResult where
  result : UInt8
  mouse : Ps2MouseState
  cursor : SoftwareCursor
  port : Port
  packets : List Packet

def moveCursor (header : GeneratedBitmap) (framebufferInfo : FramebufferInfo)
    (mouseState : Ps2MouseState) (cursor : SoftwareCursor) : SoftwareCursor :=
  let accumX :=
    clampI32 (cursor.accumX + mouseState.lastDeltaX) (-(fixedPixelOne * 64)) (fixedPixelOne * 64)
  let accumY :=
    clampI32 (cursor.accumY + mouseState.lastDeltaY) (-(fixedPixelOne * 64)) (fixedPixelOne * 64)
  let lastPixelX := accumX / fixedPixelOne
  let lastPixelY := accumY / fixedPixelOne
  let cursor :=
    { cursor with
      lastPixelX, lastPixelY
      accumX := accumX - lastPixelX * fixedPixelOne
      accumY := accumY - lastPixelY * fixedPixelOne }
  if lastPixelX ≠ 0 ∨ lastPixelY ≠ 0 then
    { cursor with
      x := clampCursorX header (cursor.x.toInt32 + lastPixelX) framebufferInfo
      y := clampCursorY header (cursor.y.toInt32 + lastPixelY) framebufferInfo }
  else cursor

def updateCursorFromPs2Mouse (header : GeneratedBitmap) (framebufferInfo : FramebufferInfo)
    (mouseState : Ps2MouseState) (cursor : SoftwareCursor) (port : Port) : PollResult :=
  if mouseState.enabled = 0 then { result := 0, mouse := mouseState, cursor, port, packets := [] }
  else
    let poll := readPackets 96 (startPoll mouseState cursor port)
    let mouseState := poll.mouse
    let cursor :=
      { cursor with leftButtonDown := poll.leftButtonDown, lastPollCount := poll.packetCount }
    if poll.packetCount = 0 then
      { result := 0, mouse := mouseState, cursor, port := poll.port, packets := poll.packets }
    else
      let cursor :=
        { cursor with
          lastRawX := clampI32 poll.totalDeltaX (-9999) 9999
          lastRawY := clampI32 poll.totalDeltaY (-9999) 9999 }
      if poll.totalDeltaX = 0 ∧ poll.totalDeltaY = 0 then
        { result := 1, mouse := mouseState, cursor := { cursor with lastPixelX := 0, lastPixelY := 0 }
          port := poll.port, packets := poll.packets }
      else
        let mouseState :=
          { mouseState with
            lastDeltaX :=
              applyMouseAcceleration (clampI32 poll.totalDeltaX (-64) 64 * (fixedPixelOne / 2))
            lastDeltaY :=
              applyMouseAcceleration (clampI32 (-poll.totalDeltaY) (-64) 64 * (fixedPixelOne / 2)) }
        { result := 1
          mouse := { mouseState with packetCount := mouseState.packetCount + poll.packetCount }
          cursor := moveCursor header framebufferInfo mouseState cursor
          port := poll.port
          packets := poll.packets }

-- ---------------------------------------------------------------------------
-- What a call does to the cursor
-- ---------------------------------------------------------------------------

theorem clampCoordinate_le (value : Int32) (limit : UInt32) :
    (clampCoordinate value limit).toNat ≤ limit.toNat - 1 := by
  unfold clampCoordinate
  split
  · simp
  next hlimit =>
  have hpos : 1 ≤ limit.toNat := by
    rw [Nat.one_le_iff_ne_zero, ne_eq, ← UInt32.toNat_zero, UInt32.toNat_inj]
    exact hlimit
  have hlast : (limit - 1).toNat = limit.toNat - 1 :=
    toNat_sub_of_ge hpos
  split
  · simp
  next hnegative =>
  split
  · exact Nat.le_of_eq hlast
  next hbelow =>
  -- A value that is neither negative nor too large is at most the last one.
  have hvalue := toNat_toUInt32 value
  have hmax := toInt_toInt32 (limit - 1)
  have := (limit - 1).toNat_lt
  simp only [gt_iff_lt, Int32.lt_iff_toInt_lt, Int32.toInt_zero] at hnegative hbelow
  split at hvalue <;> split at hmax <;> omega

theorem clampCursorAxis_le (value : Int32) (screenSize cursorSize : UInt32) :
    (clampCursorAxis value screenSize cursorSize).toNat ≤ screenSize.toNat - cursorSize.toNat := by
  simp only [clampCursorAxis]
  split
  next hgt =>
    have hsub : (screenSize - cursorSize).toNat = screenSize.toNat - cursorSize.toNat :=
      UInt32.toNat_sub_of_le _ _ (UInt32.le_of_lt hgt)
    have hle := clampCoordinate_le value (screenSize - cursorSize + 1)
    have hsucc := toNat_add_le (screenSize - cursorSize) 1
    rw [UInt32.toNat_one] at hsucc
    omega
  · have hle := clampCoordinate_le value (0 + 1)
    have hone : ((0 : UInt32) + 1).toNat = 1 := rfl
    omega

structure SoftwareCursor.SameImage (cursor cursor' : SoftwareCursor) : Prop where
  savedWidth : cursor.savedWidth = cursor'.savedWidth
  savedHeight : cursor.savedHeight = cursor'.savedHeight
  visible : cursor.visible = cursor'.visible
  savedPixels : cursor.savedPixels = cursor'.savedPixels
  resolvedPixels : cursor.resolvedPixels = cursor'.resolvedPixels
  opaqueMask : cursor.opaqueMask = cursor'.opaqueMask

section
variable (header : GeneratedBitmap) (framebufferInfo : FramebufferInfo)

theorem moveCursor_sameImage (mouseState : Ps2MouseState) (cursor : SoftwareCursor) :
    (moveCursor header framebufferInfo mouseState cursor).SameImage cursor := by
  simp only [moveCursor]
  split <;> exact ⟨rfl, rfl, rfl, rfl, rfl, rfl⟩

theorem moveCursor_clamped (mouseState : Ps2MouseState) {cursor : SoftwareCursor}
    (h : cursor.Clamped header framebufferInfo) :
    (moveCursor header framebufferInfo mouseState cursor).Clamped header framebufferInfo := by
  simp only [moveCursor]
  split
  · exact ⟨clampCursorAxis_le _ _ _, clampCursorAxis_le _ _ _⟩
  · exact ⟨h.x_le, h.y_le⟩

variable (mouseState : Ps2MouseState) (cursor : SoftwareCursor) (port : Port)

theorem updateCursorFromPs2Mouse_sameImage :
    (updateCursorFromPs2Mouse header framebufferInfo mouseState cursor port).cursor.SameImage
      cursor := by
  simp only [updateCursorFromPs2Mouse]
  split
  · exact ⟨rfl, rfl, rfl, rfl, rfl, rfl⟩
  split
  · exact ⟨rfl, rfl, rfl, rfl, rfl, rfl⟩
  split
  · exact ⟨rfl, rfl, rfl, rfl, rfl, rfl⟩
  · have := moveCursor_sameImage header framebufferInfo
    exact ⟨(this _ _).1, (this _ _).2, (this _ _).3, (this _ _).4, (this _ _).5, (this _ _).6⟩

theorem updateCursorFromPs2Mouse_clamped {cursor : SoftwareCursor}
    (h : cursor.Clamped header framebufferInfo) :
    (updateCursorFromPs2Mouse header framebufferInfo mouseState cursor port).cursor.Clamped header
      framebufferInfo := by
  simp only [updateCursorFromPs2Mouse]
  split
  · exact h
  split
  · exact ⟨h.x_le, h.y_le⟩
  split
  · exact ⟨h.x_le, h.y_le⟩
  · exact moveCursor_clamped header framebufferInfo _ ⟨h.x_le, h.y_le⟩

theorem updateCursorFromPs2Mouse_still
    (h : (updateCursorFromPs2Mouse header framebufferInfo mouseState cursor port).result = 0) :
    (updateCursorFromPs2Mouse header framebufferInfo mouseState cursor port).cursor.x = cursor.x ∧
      (updateCursorFromPs2Mouse header framebufferInfo mouseState cursor port).cursor.y =
        cursor.y := by
  have hone : ¬ ((1 : UInt8) = 0) := by decide
  revert h
  simp only [updateCursorFromPs2Mouse]
  split
  · exact fun _ => ⟨rfl, rfl⟩
  split
  · exact fun _ => ⟨rfl, rfl⟩
  split
  · exact fun h => absurd h hone
  · exact fun h => absurd h hone

end

-- ---------------------------------------------------------------------------
-- Packets are the framing of the mouse bytes
-- ---------------------------------------------------------------------------

/-- A packet begins with a byte that has bit 3 set. -/
abbrev StartsPacket (data : UInt8) : Prop := data &&& 0x08 ≠ 0

def mouseBytes (port : Port) : List UInt8 :=
  port.filterMap fun reading =>
    if reading.status &&& 0x01 ≠ 0 ∧ reading.status &&& 0x20 ≠ 0 then some reading.data else none

/-- Bit 0 of the last packet, zero before the first one. -/
def lastButton (packets : List Packet) : UInt8 :=
  match packets.getLast? with
  | none => 0
  | some packet => if packet.1 &&& 0x01 ≠ 0 then 1 else 0

/-- The unfinished packet is what waits for the rest of a frame. -/
def Ps2MouseState.Holds (mouseState : Ps2MouseState) : List UInt8 → Prop
  | [] => mouseState.packetIndex = 0
  | [first] => mouseState.packetIndex = 1 ∧ mouseState.packet 0 = first
  | [first, second] =>
    mouseState.packetIndex = 2 ∧ mouseState.packet 0 = first ∧ mouseState.packet 1 = second
  | _ => False

/-- After the mouse bytes `bytes`, of which the calls before completed the
packets `earlier`. -/
structure PollState.Tracks (poll : PollState) (earlier : List Packet) (bytes : List UInt8) :
    Prop where
  enabled : poll.mouse.enabled ≠ 0
  packets : (framing StartsPacket bytes).frames = earlier ++ poll.packets
  holds : poll.mouse.Holds (framing StartsPacket bytes).pending
  button : poll.leftButtonDown = lastButton (earlier ++ poll.packets)

theorem lastButton_concat (packets : List Packet) (packet : Packet) :
    lastButton (packets ++ [packet]) = if packet.1 &&& 0x01 ≠ 0 then 1 else 0 := by
  simp [lastButton]

theorem Ps2MouseState.Holds.toNat_packetIndex {mouseState : Ps2MouseState} {pending : List UInt8}
    (h : mouseState.Holds pending) :
    mouseState.packetIndex.toNat = pending.length ∧ mouseState.packetIndex < 3 := by
  rcases pending with _ | ⟨first, _ | ⟨second, _ | ⟨third, rest⟩⟩⟩
  · rw [show mouseState.packetIndex = 0 from h]
    decide
  · rw [h.1]
    exact ⟨rfl, by decide⟩
  · rw [h.1]
    exact ⟨rfl, by decide⟩
  · exact h.elim

/-- One byte of the mouse extends the framing by one unit, in all four cases the
loop body tells apart. -/
theorem receiveMouseByte_tracks {poll : PollState} (h : poll.Tracks earlier bytes) (data : UInt8) :
    (receiveMouseByte poll data).1.Tracks earlier (bytes ++ [data]) := by
  obtain ⟨henabled, hpackets, hholds, hbutton⟩ := h
  have hpush := framing_concat StartsPacket bytes data
  revert hpackets hholds hpush
  generalize framing StartsPacket bytes = framed
  obtain ⟨frames, pending⟩ := framed
  rintro rfl hholds hpush
  rcases pending with _ | ⟨first, _ | ⟨second, _ | ⟨third, rest⟩⟩⟩
  · -- At a boundary the byte is dropped or begins a packet.
    have hindex : poll.mouse.packetIndex = 0 := hholds
    by_cases hstart : data &&& 0x08 = 0
    · simp only [Framing.push, StartsPacket, ne_eq, hstart, not_true_eq_false, if_false] at hpush
      simp only [receiveMouseByte, hindex, hstart, and_self, if_true]
      exact ⟨henabled, by rw [hpush], by rw [hpush]; exact hindex, hbutton⟩
    · simp only [Framing.push, StartsPacket, ne_eq, hstart, not_false_eq_true, if_true] at hpush
      simp only [receiveMouseByte, hindex, hstart, and_false, if_false]
      exact ⟨henabled, by rw [hpush]; rfl, by rw [hpush]; exact ⟨rfl, rfl⟩, hbutton⟩
  · obtain ⟨hindex, hfirst⟩ := hholds
    simp only [Framing.push] at hpush
    have hone : ¬ ((1 : UInt8) = 0) := by decide
    have htwo : (1 : UInt8) + 1 < 3 := by decide
    simp only [receiveMouseByte, hindex, hone, false_and, if_false, htwo, if_true]
    exact ⟨henabled, by rw [hpush], by rw [hpush]; exact ⟨rfl, hfirst, rfl⟩, hbutton⟩
  · -- The third byte completes the packet, also when it is then discarded.
    obtain ⟨hindex, hfirst, hsecond⟩ := hholds
    simp only [Framing.push] at hpush
    have htwo : ¬ ((2 : UInt8) = 0) := by decide
    have hthree : ¬ ((2 : UInt8) + 1 < 3) := by decide
    have hzero : (0 : UInt8) ≠ 2 := by decide
    have hone : (1 : UInt8) ≠ 2 := by decide
    simp only [receiveMouseByte, hindex, htwo, false_and, if_false, hthree,
      Function.update_of_ne hzero, Function.update_of_ne hone, Function.update_self, hfirst, hsecond]
    split <;>
      exact ⟨henabled, by rw [hpush, List.append_assoc], by rw [hpush]; rfl,
        by rw [← List.append_assoc, lastButton_concat]⟩
  · exact hholds.elim

theorem mouseBytes_append (first second : Port) :
    mouseBytes (first ++ second) = mouseBytes first ++ mouseBytes second :=
  List.filterMap_append

theorem receiveMouseByte_port (poll : PollState) (data : UInt8) :
    (receiveMouseByte poll data).1.port = poll.port := by
  simp only [receiveMouseByte]
  repeat' split
  all_goals rfl

/-- What one round of the loop does with the next reading: nothing has arrived, a
keyboard byte is skipped, or a mouse byte is received. -/
theorem readPackets_cases (limit : Nat) {poll : PollState} (hport : poll.port = reading :: port) :
    (readPackets (limit + 1) poll = { poll with port } ∧ mouseBytes [reading] = []) ∨
      (readPackets (limit + 1) poll = readPackets limit { poll with port } ∧
        mouseBytes [reading] = []) ∨
      ∃ next, next = (receiveMouseByte { poll with port } reading.data).1 ∧
        mouseBytes [reading] = [reading.data] ∧
        (readPackets (limit + 1) poll = next ∨
          readPackets (limit + 1) poll = readPackets limit next) := by
  by_cases hfull : reading.status &&& 0x01 = 0
  · exact .inl (by simp [readPackets, ps2TryReadByte, mouseBytes, hport, hfull])
  by_cases hmouse : reading.status &&& 0x20 = 0
  · exact .inr (.inl (by simp [readPackets, ps2TryReadByte, mouseBytes, hport, hfull, hmouse]))
  refine .inr (.inr ⟨_, rfl, by simp [mouseBytes, hfull, hmouse], ?_⟩)
  rcases hbyte : receiveMouseByte { poll with port } reading.data with ⟨next, broken⟩
  have hread : ps2TryReadByte (reading :: port) = (some (reading.data, true), port) := by
    simp [ps2TryReadByte, hfull, hmouse]
  cases broken with
  | true => exact .inl (by simp only [readPackets, hport, hread, hbyte])
  | false => exact .inr (by simp only [readPackets, hport, hread, hbyte])

theorem readPackets_nil (limit : Nat) {poll : PollState} (hport : poll.port = []) :
    readPackets limit poll = poll := by
  cases limit with
  | zero => rfl
  | succ limit =>
    simp only [readPackets, hport, ps2TryReadByte]
    rw [← hport]

theorem PollState.Tracks.withPort {poll : PollState} (h : poll.Tracks earlier bytes) (port : Port) :
    ({ poll with port } : PollState).Tracks earlier bytes :=
  ⟨h.enabled, h.packets, h.holds, h.button⟩

theorem readPackets_tracks (limit : Nat) {poll : PollState} (h : poll.Tracks earlier bytes) :
    ∃ consumed, poll.port = consumed ++ (readPackets limit poll).port ∧
      (readPackets limit poll).Tracks earlier (bytes ++ mouseBytes consumed) := by
  induction limit generalizing poll bytes with
  | zero => exact ⟨[], rfl, by simpa [mouseBytes, readPackets] using h⟩
  | succ limit ih =>
    rcases hport : poll.port with _ | ⟨reading, port⟩
    · rw [readPackets_nil _ hport]
      exact ⟨[], hport.symm, by simpa [mouseBytes] using h⟩
    rcases readPackets_cases limit hport with ⟨heq, hbytes⟩ | ⟨heq, hbytes⟩ | ⟨next, rfl, hbytes, heq⟩
    · rw [heq]
      exact ⟨[reading], rfl, by simpa [hbytes] using h.withPort port⟩
    · rw [heq]
      obtain ⟨consumed, hrest, htracks⟩ := ih (h.withPort port)
      refine ⟨[reading] ++ consumed, by rw [List.append_assoc, ← hrest]; rfl, ?_⟩
      rwa [mouseBytes_append, hbytes, List.nil_append]
    · have hreceived := receiveMouseByte_tracks (h.withPort port) reading.data
      have hkept := receiveMouseByte_port { poll with port } reading.data
      rcases heq with heq | heq <;> rw [heq]
      · exact ⟨[reading], by rw [hkept]; rfl, by rw [hbytes]; exact hreceived⟩
      · obtain ⟨consumed, hrest, htracks⟩ := ih hreceived
        refine ⟨[reading] ++ consumed, by rw [List.append_assoc, ← hrest, hkept]; rfl, ?_⟩
        rwa [mouseBytes_append, hbytes, ← List.append_assoc]

theorem readPackets_port_length (limit : Nat) (poll : PollState) :
    (readPackets limit poll).port.length ≤ poll.port.length - min limit 1 := by
  induction limit generalizing poll with
  | zero => simp [readPackets]
  | succ limit ih =>
    rcases hport : poll.port with _ | ⟨reading, port⟩
    · rw [readPackets_nil _ hport, hport]
      simp
    rcases readPackets_cases limit hport with ⟨heq, -⟩ | ⟨heq, -⟩ | ⟨next, rfl, -, heq⟩
    · rw [heq]
      simp
    · rw [heq]
      have := ih { poll with port }
      simp only [List.length_cons] at *
      omega
    · have hkept := receiveMouseByte_port { poll with port } reading.data
      have := ih (receiveMouseByte { poll with port } reading.data).1
      rcases heq with heq | heq <;> rw [heq] <;> rw [hkept] at * <;>
        simp only [List.length_cons] at * <;> omega

-- ---------------------------------------------------------------------------
-- Successive calls
-- ---------------------------------------------------------------------------

/-- What lives on between the calls. `packets` are those completed so far. -/
structure Session where
  mouse : Ps2MouseState
  cursor : SoftwareCursor
  port : Port
  packets : List Packet

section
variable (header : GeneratedBitmap) (framebufferInfo : FramebufferInfo)

def Session.poll (session : Session) : Session :=
  let result :=
    updateCursorFromPs2Mouse header framebufferInfo session.mouse session.cursor session.port
  { mouse := result.mouse
    cursor := result.cursor
    port := result.port
    packets := session.packets ++ result.packets }

def Session.polls (session : Session) : (calls : Nat) → Session
  | 0 => session
  | calls + 1 => (session.polls calls).poll header framebufferInfo

structure Session.Fresh (session : Session) : Prop where
  enabled : session.mouse.enabled ≠ 0
  packetIndex : session.mouse.packetIndex = 0
  leftButtonDown : session.cursor.leftButtonDown = 0
  packets : session.packets = []

def Session.startPoll (session : Session) : PollState :=
  Boot.startPoll session.mouse session.cursor session.port

end

section
variable (header : GeneratedBitmap) (framebufferInfo : FramebufferInfo) {session : Session}

@[simp] theorem Session.startPoll_packets : session.startPoll.packets = [] := rfl

@[simp] theorem Session.startPoll_leftButtonDown :
    session.startPoll.leftButtonDown = session.cursor.leftButtonDown := rfl

theorem Session.Fresh.tracks (h : session.Fresh) :
    session.startPoll.Tracks session.packets [] where
  enabled := h.enabled
  packets := by rw [h.packets]; rfl
  holds := h.packetIndex
  button := by rw [h.packets]; exact h.leftButtonDown

theorem Session.poll_eq (henabled : session.mouse.enabled ≠ 0) :
    let poll := readPackets 96 session.startPoll
    let after := session.poll header framebufferInfo
    after.port = poll.port ∧ after.packets = session.packets ++ poll.packets ∧
      after.mouse.enabled = poll.mouse.enabled ∧
      after.mouse.packetIndex = poll.mouse.packetIndex ∧ after.mouse.packet = poll.mouse.packet ∧
      after.cursor.leftButtonDown = poll.leftButtonDown := by
  simp only [Session.poll, updateCursorFromPs2Mouse, henabled, if_false, Session.startPoll]
  split
  · simp
  split
  · simp
  · refine ⟨rfl, rfl, rfl, rfl, rfl, ?_⟩
    simp only [moveCursor]
    split <;> rfl

theorem Ps2MouseState.Holds.congr {mouse mouse' : Ps2MouseState}
    (hindex : mouse'.packetIndex = mouse.packetIndex) (hpacket : mouse'.packet = mouse.packet)
    {pending : List UInt8} (h : mouse.Holds pending) : mouse'.Holds pending := by
  unfold Ps2MouseState.Holds at *
  rwa [hindex, hpacket]

/-- One call consumes readings and leaves the session in step with the mouse
bytes among them, whichever of its exits it took. -/
theorem Session.poll_tracks (h : session.startPoll.Tracks session.packets bytes) :
    ∃ consumed, session.port = consumed ++ (session.poll header framebufferInfo).port ∧
      (session.poll header framebufferInfo).startPoll.Tracks
        (session.poll header framebufferInfo).packets (bytes ++ mouseBytes consumed) := by
  obtain ⟨consumed, hrest, htracks⟩ := readPackets_tracks 96 h
  obtain ⟨hport, hpackets, henabled, hindex, hpacket, hbutton⟩ :=
    Session.poll_eq header framebufferInfo h.enabled
  refine ⟨consumed, by rw [hport]; exact hrest, ?_, ?_, ?_, ?_⟩
  · exact henabled ▸ htracks.enabled
  · rw [htracks.packets, hpackets]
    exact (List.append_nil _).symm
  · exact htracks.holds.congr hindex hpacket
  · rw [hpackets]
    show (session.poll header framebufferInfo).cursor.leftButtonDown = lastButton (_ ++ [])
    rw [hbutton, htracks.button, List.append_nil]

theorem Session.polls_tracks (h : session.Fresh) (calls : Nat) :
    ∃ consumed, session.port = consumed ++ (session.polls header framebufferInfo calls).port ∧
      (session.polls header framebufferInfo calls).startPoll.Tracks
        (session.polls header framebufferInfo calls).packets (mouseBytes consumed) := by
  induction calls with
  | zero => exact ⟨[], rfl, h.tracks⟩
  | succ calls ih =>
    obtain ⟨before, hbefore, htracks⟩ := ih
    obtain ⟨consumed, hconsumed, htracks⟩ :=
      Session.poll_tracks header framebufferInfo htracks
    refine ⟨before ++ consumed, ?_, by rw [mouseBytes_append]; exact htracks⟩
    rw [List.append_assoc, Session.polls, ← hconsumed, ← hbefore]

theorem Session.polls_port_length (h : session.Fresh) (calls : Nat) :
    (session.polls header framebufferInfo calls).port.length ≤ session.port.length - calls := by
  induction calls with
  | zero => exact Nat.le_refl _
  | succ calls ih =>
    obtain ⟨_, -, htracks⟩ := Session.polls_tracks header framebufferInfo h calls
    have hport := (Session.poll_eq header framebufferInfo htracks.enabled).1
    have hlength := readPackets_port_length 96
      (session.polls header framebufferInfo calls).startPoll
    rw [Session.polls, hport]
    simp only [Session.startPoll, Boot.startPoll] at hlength ⊢
    omega

theorem Session.polls_drained (h : session.Fresh) (hcalls : session.port.length ≤ calls) :
    (session.polls header framebufferInfo calls).port = [] := by
  have := Session.polls_port_length header framebufferInfo h calls
  exact List.eq_nil_of_length_eq_zero (by omega)

/-- Two runs that drain their controllers recognise the same packets when the
mouse sent the same bytes, whatever else came in between and whenever. -/
theorem Session.polls_eq_of_mouseBytes {session' : Session} (h : session.Fresh)
    (h' : session'.Fresh) (hbytes : mouseBytes session.port = mouseBytes session'.port)
    (hcalls : session.port.length ≤ calls) (hcalls' : session'.port.length ≤ calls') :
    (session.polls header framebufferInfo calls).packets =
        (session'.polls header framebufferInfo calls').packets ∧
      (session.polls header framebufferInfo calls).mouse.packetIndex =
        (session'.polls header framebufferInfo calls').mouse.packetIndex := by
  obtain ⟨consumed, hport, htracks⟩ := Session.polls_tracks header framebufferInfo h calls
  obtain ⟨consumed', hport', htracks'⟩ := Session.polls_tracks header framebufferInfo h' calls'
  rw [Session.polls_drained header framebufferInfo h hcalls, List.append_nil] at hport
  rw [Session.polls_drained header framebufferInfo h' hcalls', List.append_nil] at hport'
  rw [← hport, hbytes] at htracks
  rw [← hport'] at htracks'
  constructor
  · simpa using htracks.packets.symm.trans htracks'.packets
  · rw [← UInt8.toNat_inj]
    exact htracks.holds.toNat_packetIndex.1.trans htracks'.holds.toNat_packetIndex.1.symm

/-- After any number of calls the packets and the packet index are those of the
mouse bytes consumed so far; the index stays below three between any two reads,
and the button is the one of the last packet. -/
theorem Session.polls_framing (h : session.Fresh) (calls : Nat) :
    ∃ consumed,
      session.port = consumed ++ (session.polls header framebufferInfo calls).port ∧
      (session.port.length ≤ calls → consumed = session.port) ∧
      (session.polls header framebufferInfo calls).packets =
        (framing StartsPacket (mouseBytes consumed)).frames ∧
      (session.polls header framebufferInfo calls).mouse.packetIndex.toNat =
        (framing StartsPacket (mouseBytes consumed)).pending.length ∧
      (∀ reads, (readPackets reads
        (session.polls header framebufferInfo calls).startPoll).mouse.packetIndex < 3) ∧
      (session.polls header framebufferInfo calls).cursor.leftButtonDown =
        lastButton (session.polls header framebufferInfo calls).packets := by
  obtain ⟨consumed, hport, htracks⟩ := Session.polls_tracks header framebufferInfo h calls
  refine ⟨consumed, hport, fun hcalls => ?_, ?_, htracks.holds.toNat_packetIndex.1,
    fun reads => ?_, ?_⟩
  · rw [hport, Session.polls_drained header framebufferInfo h hcalls, List.append_nil]
  · simpa using htracks.packets.symm
  · obtain ⟨_, -, hreads⟩ := readPackets_tracks reads htracks
    exact hreads.holds.toNat_packetIndex.2
  · simpa using htracks.button

end

def Session.detected (mouseState : Ps2MouseState) (cursor : SoftwareCursor) (port : Port) :
    Session where
  mouse := { mouseState.reset with enabled := 1 }
  cursor := { cursor with leftButtonDown := 0 }
  port := port
  packets := []

/-- A mouse byte that begins no packet, a keyboard byte inside a packet, and a
packet spread over two calls. -/
theorem Session.polls_framing_split :
    let port : Port := [⟨0x21, 0x00⟩, ⟨0x21, 0x09⟩, ⟨0x01, 0x1C⟩, ⟨0x00, 0x00⟩, ⟨0x21, 0x02⟩,
      ⟨0x21, 0x03⟩]
    let session := Session.detected default default port
    let after := session.polls plainBitmap vgaScreen 6
    ∃ consumed, session.port = consumed ++ after.port ∧
      (session.port.length ≤ 6 → consumed = session.port) ∧
      after.packets = (framing StartsPacket (mouseBytes consumed)).frames ∧
      after.mouse.packetIndex.toNat =
        (framing StartsPacket (mouseBytes consumed)).pending.length ∧
      (∀ reads, (readPackets reads after.startPoll).mouse.packetIndex < 3) ∧
      after.cursor.leftButtonDown = lastButton after.packets :=
  Session.polls_framing plainBitmap vgaScreen ⟨by decide, rfl, rfl, rfl⟩ 6

end DragonOS.Boot
