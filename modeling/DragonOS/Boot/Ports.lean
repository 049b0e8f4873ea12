import DragonOS.Boot.Ps2
import DragonOS.Lib.Dialogue

/-!
# The ports of the mouse

The driver once more, with every single access to a port: a wait reads the status before it
reads a byte, and what answers may do something of its own in between. Each function is a
dialogue with whatever is behind the ports. `Mirrors` says that a dialogue does what the
driver above does on a list of readings.
-/

namespace DragonOS.Boot

open Lib Lib.Dialogue

inductive PortAction
  | inByte (address : UInt16)
  | outByte (address : UInt16) (value : UInt8)

abbrev PortAction.Reply : PortAction → Type
  | .inByte _ => UInt8
  | .outByte _ _ => Unit

abbrev Driver : Type → Type := Dialogue PortAction PortAction.Reply

namespace Ports

def inByte (address : UInt16) : Driver UInt8 := request (PortAction.inByte address)

def outByte (address : UInt16) (value : UInt8) : Driver Unit := request (PortAction.outByte address value)

def ps2WaitForInputClear : Driver Bool := do
  let clear ← attempts (do
    let status ← inByte 0x64
    pure (if status &&& 0x02 = 0 then some () else none)) 100000
  pure clear.isSome

def ps2WaitForOutputByte (requireMouseData : Bool) : Driver (Option UInt8) :=
  attempts (do
    let status ← inByte 0x64
    if status &&& 0x01 ≠ 0 then
      let data ← inByte 0x60
      pure (if requireMouseData = false ∨ status &&& 0x20 ≠ 0 then some data else none)
    else pure none) 100000

def ps2TryReadByte : Driver (Option (UInt8 × Bool)) := do
  let status ← inByte 0x64
  if status &&& 0x01 = 0 then pure none
  else
    let data ← inByte 0x60
    pure (some (data, status &&& 0x20 ≠ 0))

def ps2FlushOutputBuffer : Driver Unit := do
  let _ ← attempts (do
    let status ← inByte 0x64
    if status &&& 0x01 = 0 then pure (some ())
    else
      let _ ← inByte 0x60
      pure none) 64

def ps2WriteControllerCommand (command : UInt8) : Driver Bool := do
  if ← ps2WaitForInputClear then
    outByte 0x64 command
    pure true
  else pure false

def ps2WriteControllerData (value : UInt8) : Driver Bool := do
  if ← ps2WaitForInputClear then
    outByte 0x60 value
    pure true
  else pure false

def ps2WriteMouseCommand (command : UInt8) : Driver Bool := do
  if ← ps2WriteControllerCommand 0xD4 then ps2WriteControllerData command else pure false

def ps2Acknowledged : Driver Bool := do
  let acknowledge ← ps2WaitForOutputByte true
  pure (acknowledge = some 0xFA)

def ps2EnableMouse : Driver Bool := do
  ps2FlushOutputBuffer
  unless ← ps2WriteControllerCommand 0xA8 do return false
  unless ← ps2WriteControllerCommand 0x20 do return false
  let some controllerConfig ← ps2WaitForOutputByte false | return false
  let controllerConfig := (controllerConfig ||| 0x02) &&& 0xDF
  unless ← ps2WriteControllerCommand 0x60 do return false
  unless ← ps2WriteControllerData controllerConfig do return false
  ps2FlushOutputBuffer
  unless ← ps2WriteMouseCommand 0xF6 do return false
  unless ← ps2Acknowledged do return false
  unless ← ps2WriteMouseCommand 0xF4 do return false
  ps2Acknowledged

def initializePs2Mouse (mouseState : Ps2MouseState) : Driver (UInt8 × Ps2MouseState) := do
  if ← ps2EnableMouse then pure (1, { mouseState.reset with enabled := 1 })
  else pure (0, mouseState.reset)

def readPackets : (limit : Nat) → PollState → Driver PollState
  | 0, poll => pure poll
  | limit + 1, poll => do
    match ← ps2TryReadByte with
    | none => pure poll
    | some (_, false) => readPackets limit poll
    | some (data, true) =>
      match receiveMouseByte poll data with
      | (poll, true) => pure poll
      | (poll, false) => readPackets limit poll

section
variable (header : GeneratedBitmap) (framebufferInfo : FramebufferInfo)

/-- What `updateCursorFromPs2Mouse` does when its loop is over. -/
def finishPoll (cursor : SoftwareCursor) (poll : PollState) : PollResult :=
  let mouseState := poll.mouse
  let cursor :=
    { cursor with leftButtonDown := poll.leftButtonDown, lastPollCount := poll.packetCount }
  if poll.packetCount = 0 then
    { result := 0, mouse := mouseState, cursor, port := poll.port, packets := poll.packets }
  else
    let cursor :=
      { cursor with
        lastRawX := clampI32 poll.totalDeltaX (-9999) 9999
        lastRawY := clampI32 poll.totalDeltaY (-9999) 9999 }
    if poll.totalDeltaX = 0 ∧ poll.totalDeltaY = 0 then
      { result := 1, mouse := mouseState, cursor := { cursor with lastPixelX := 0, lastPixelY := 0 }
        port := poll.port, packets := poll.packets }
    else
      let mouseState :=
        { mouseState with
          lastDeltaX :=
            applyMouseAcceleration (clampI32 poll.totalDeltaX (-64) 64 * (fixedPixelOne / 2))
          lastDeltaY :=
            applyMouseAcceleration (clampI32 (-poll.totalDeltaY) (-64) 64 * (fixedPixelOne / 2)) }
      { result := 1
        mouse := { mouseState with packetCount := mouseState.packetCount + poll.packetCount }
        cursor := moveCursor header framebufferInfo mouseState cursor
        port := poll.port
        packets := poll.packets }

def updateCursorFromPs2Mouse (mouseState : Ps2MouseState) (cursor : SoftwareCursor) :
    Driver PollResult := do
  if mouseState.enabled = 0 then
    pure { result := 0, mouse := mouseState, cursor, port := [], packets := [] }
  else
    let poll ← readPackets 96 (startPoll mouseState cursor [])
    pure (finishPoll header framebufferInfo cursor poll)

/-- One call in the loop of the kernel. -/
def poll (session : Session) : Driver Session := do
  let result ← updateCursorFromPs2Mouse header framebufferInfo session.mouse session.cursor
  pure
    { mouse := result.mouse
      cursor := result.cursor
      port := result.port
      packets := session.packets ++ result.packets }

def polls (session : Session) : (calls : Nat) → Driver Session
  | 0 => pure session
  | calls + 1 => do
    let session ← polls session calls
    poll header framebufferInfo session

end

-- ---------------------------------------------------------------------------
-- The same on a list of readings
-- ---------------------------------------------------------------------------

/-- Ports that answer anything. What is written to them is kept, the last byte first. -/
def anything : Surroundings (List (UInt16 × UInt8)) PortAction PortAction.Reply
  | sent, .inByte _, _, after => after = sent
  | sent, .outByte address value, _, after => after = (address, value) :: sent

/-- Whatever the replies are, there are readings that make the model do the same. -/
def Mirrors (driver : Driver α) (model : Ps2 α) : Prop :=
  ∀ sent, driver.Ends anything (fun value after => ∃ readings, ∀ port,
    model ⟨readings ++ port, sent⟩ = (value, ⟨port, after⟩)) sent

section
variable {driver : Driver α} {model : Ps2 α} {sent : List (UInt16 × UInt8)}

theorem ends_inByte {address : UInt16} {next : UInt8 → Driver α}
    {goal : α → List (UInt16 × UInt8) → Prop} (h : ∀ value, (next value).Ends anything goal sent) :
    (inByte address >>= next).Ends anything goal sent :=
  ends_request_bind ⟨0, sent, rfl⟩ fun value after hafter =>
    (show after = sent from hafter) ▸ h value

theorem mirrors_pure (value : α) : Mirrors (pure value) (pure value) :=
  fun _ => ends_pure ⟨[], fun _ => rfl⟩

theorem mirrors_outByte (address : UInt16) (value : UInt8) :
    Mirrors (outByte address value) (Boot.outByte address value) :=
  fun sent => ends_request ⟨(), (address, value) :: sent, rfl⟩ fun _ after hafter =>
    ⟨[], fun _ => (show after = (address, value) :: sent from hafter) ▸ rfl⟩

theorem Mirrors.bind {next : α → Driver β} {next' : α → Ps2 β} (h : Mirrors driver model)
    (hnext : ∀ value, Mirrors (next value) (next' value)) :
    Mirrors (driver >>= next) (model >>= next') := by
  refine fun sent => (h sent).bind fun value after hafter => ?_
  obtain ⟨readings, hmodel⟩ := hafter
  refine (hnext value after).mono fun result final hfinal => ?_
  obtain ⟨more, hresult⟩ := hfinal
  refine ⟨readings ++ more, fun port => ?_⟩
  rw [List.append_assoc, ← hresult port]
  exact congrArg (fun run => next' run.1 run.2) (hmodel (more ++ port))

theorem Mirrors.ite {condition : Bool} {driver' : Driver α} {model' : Ps2 α}
    (h : Mirrors driver model) (h' : Mirrors driver' model') :
    Mirrors (if condition = true then driver else driver')
      (if condition = true then model else model') := by
  split
  · exact h
  · exact h'

theorem updateCursorFromPs2Mouse_eq (header : GeneratedBitmap) (framebufferInfo : FramebufferInfo)
    (henabled : mouseState.enabled ≠ 0) (cursor : SoftwareCursor) (port : Port) :
    Boot.updateCursorFromPs2Mouse header framebufferInfo mouseState cursor port =
      finishPoll header framebufferInfo cursor
        (Boot.readPackets 96 (startPoll mouseState cursor port)) := by
  rw [Boot.updateCursorFromPs2Mouse, if_neg henabled]
  rfl

theorem receiveMouseByte_withPort (poll : PollState) (data : UInt8) (port : Port) :
    receiveMouseByte { poll with port } data =
      ({ (receiveMouseByte poll data).1 with port }, (receiveMouseByte poll data).2) := by
  simp only [receiveMouseByte]
  split_ifs <;> rfl

theorem readPackets_received (limit : Nat) {poll next : PollState} {broken : Bool}
    (hread : ∀ port, Boot.ps2TryReadByte (reading :: port) = (some (data, true), port))
    (hreceived : receiveMouseByte poll data = (next, broken)) (port : Port) :
    Boot.readPackets (limit + 1) { poll with port := reading :: port } =
      if broken = true then { next with port } else Boot.readPackets limit { next with port } := by
  simp only [Boot.readPackets, hread, receiveMouseByte_withPort, hreceived]
  cases broken with
  | true => rfl
  | false => rfl

theorem mirrors_attempts {round : Driver (Option α)} (result : Option α → β) {model : Nat → Ps2 β}
    (hround : ∀ sent, round.Ends anything (fun value after => after = sent ∧ ∃ reading, ∀ left port,
      model (left + 1) ⟨reading :: port, sent⟩ =
        if value = none then model left ⟨port, sent⟩ else (result value, ⟨port, sent⟩)) sent)
    (hover : ∀ controller, model 0 controller = (result none, controller)) (left : Nat)
    (sent : List (UInt16 × UInt8)) :
    (attempts round left).Ends anything (fun value after => ∃ readings, ∀ port,
      model left ⟨readings ++ port, sent⟩ = (result value, ⟨port, after⟩)) sent := by
  refine ends_attempts (fun passed after => after = sent ∧
    ∃ readings, ∀ left' port, left = left' + passed →
      model left ⟨readings ++ port, sent⟩ = model left' ⟨port, sent⟩) left 0 ?_ ?_
    ⟨rfl, [], fun left' port hleft => by rw [hleft]; rfl⟩
  · rintro passed _ hpassed ⟨rfl, readings, hreadings⟩
    refine (hround _).mono fun value after hafter => ?_
    obtain ⟨rfl, reading, hreading⟩ := hafter
    cases value with
    | none =>
      refine .inl ⟨rfl, rfl, readings ++ [reading], fun left' port hleft => ?_⟩
      rw [List.append_assoc, hreadings (left' + 1) _ (by omega), List.singleton_append, hreading,
        if_pos rfl]
    | some found =>
      refine .inr ⟨found, rfl, readings ++ [reading], fun port => ?_⟩
      rw [List.append_assoc, hreadings (left - passed - 1 + 1) _ (by omega), List.singleton_append,
        hreading, if_neg nofun]
  · rintro _ ⟨rfl, readings, hreadings⟩
    exact ⟨readings, fun port => by rw [hreadings 0 port (by omega), hover]⟩

theorem nextReading_bind (next : Reading → Ps2 α) (reading : Reading) (port : Port)
    (sent : List (UInt16 × UInt8)) :
    (nextReading >>= next) ⟨reading :: port, sent⟩ = next reading ⟨port, sent⟩ := rfl

theorem mirrors_waitForInputClear :
    Mirrors ps2WaitForInputClear (Boot.ps2WaitForInputClear 100000) := by
  refine fun sent => (mirrors_attempts Option.isSome (fun sent => ends_inByte fun status => ?_)
    (fun _ => rfl) 100000 sent).bind fun _ _ h => h
  refine ends_pure ⟨rfl, ⟨status, 0⟩, fun left port => ?_⟩
  rw [Boot.ps2WaitForInputClear, nextReading_bind]
  by_cases hclear : status &&& 0x02 = 0
  · rw [if_pos hclear, if_pos hclear, if_neg nofun]
    rfl
  · rw [if_neg hclear, if_neg hclear, if_pos rfl]

theorem mirrors_waitForOutputByte (requireMouseData : Bool) :
    Mirrors (ps2WaitForOutputByte requireMouseData)
      (Boot.ps2WaitForOutputByte requireMouseData 100000) := by
  refine mirrors_attempts id (fun sent => ends_inByte fun status => ?_) (fun _ => rfl) 100000
  by_cases hfull : status &&& 0x01 = 0
  · rw [if_neg (not_not.mpr hfull)]
    refine ends_pure ⟨rfl, ⟨status, 0⟩, fun left port => ?_⟩
    rw [Boot.ps2WaitForOutputByte, nextReading_bind, if_pos rfl, if_neg fun h => h.1 hfull]
  · rw [if_pos hfull]
    refine ends_inByte fun data => ends_pure ⟨rfl, ⟨status, data⟩, fun left port => ?_⟩
    rw [Boot.ps2WaitForOutputByte, nextReading_bind]
    by_cases hwanted : requireMouseData = false ∨ status &&& 0x20 ≠ 0
    · rw [if_pos hwanted, if_pos ⟨hfull, hwanted⟩, if_neg nofun]
      rfl
    · rw [if_neg hwanted, if_neg fun h => hwanted h.2, if_pos rfl]

theorem mirrors_flushOutputBuffer : Mirrors ps2FlushOutputBuffer (Boot.ps2FlushOutputBuffer 64) := by
  refine fun sent => (mirrors_attempts (fun _ => ()) (fun sent => ends_inByte fun status => ?_)
    (fun _ => rfl) 64 sent).bind fun _ _ h => h
  by_cases hfull : status &&& 0x01 = 0
  · rw [if_pos hfull]
    refine ends_pure ⟨rfl, ⟨status, 0⟩, fun left port => ?_⟩
    rw [Boot.ps2FlushOutputBuffer, nextReading_bind, if_pos hfull, if_neg nofun]
    rfl
  · rw [if_neg hfull]
    refine ends_inByte fun data => ends_pure ⟨rfl, ⟨status, data⟩, fun left port => ?_⟩
    rw [Boot.ps2FlushOutputBuffer, nextReading_bind, if_neg hfull, if_pos rfl]

theorem mirrors_writeControllerCommand (command : UInt8) :
    Mirrors (ps2WriteControllerCommand command) (Boot.ps2WriteControllerCommand command) :=
  mirrors_waitForInputClear.bind fun _ =>
    ((mirrors_outByte 0x64 command).bind fun _ => mirrors_pure true).ite (mirrors_pure false)

theorem mirrors_writeControllerData (value : UInt8) :
    Mirrors (ps2WriteControllerData value) (Boot.ps2WriteControllerData value) :=
  mirrors_waitForInputClear.bind fun _ =>
    ((mirrors_outByte 0x60 value).bind fun _ => mirrors_pure true).ite (mirrors_pure false)

theorem mirrors_writeMouseCommand (command : UInt8) :
    Mirrors (ps2WriteMouseCommand command) (Boot.ps2WriteMouseCommand command) :=
  (mirrors_writeControllerCommand 0xD4).bind fun _ =>
    (mirrors_writeControllerData command).ite (mirrors_pure false)

theorem mirrors_acknowledged : Mirrors ps2Acknowledged Boot.ps2Acknowledged :=
  (mirrors_waitForOutputByte true).bind fun _ => mirrors_pure _

theorem mirrors_enableMouse : Mirrors ps2EnableMouse Boot.ps2EnableMouse := by
  refine mirrors_flushOutputBuffer.bind fun _ => ?_
  refine (mirrors_writeControllerCommand 0xA8).bind fun _ => .ite ?_ (mirrors_pure false)
  refine (mirrors_writeControllerCommand 0x20).bind fun _ => .ite ?_ (mirrors_pure false)
  refine (mirrors_waitForOutputByte false).bind fun controllerConfig => ?_
  cases controllerConfig with
  | none => exact mirrors_pure false
  | some controllerConfig =>
    refine (mirrors_writeControllerCommand 0x60).bind fun _ => .ite ?_ (mirrors_pure false)
    refine (mirrors_writeControllerData _).bind fun _ => .ite ?_ (mirrors_pure false)
    refine mirrors_flushOutputBuffer.bind fun _ => ?_
    refine (mirrors_writeMouseCommand 0xF6).bind fun _ => .ite ?_ (mirrors_pure false)
    refine mirrors_acknowledged.bind fun _ => .ite ?_ (mirrors_pure false)
    refine (mirrors_writeMouseCommand 0xF4).bind fun _ => .ite ?_ (mirrors_pure false)
    exact mirrors_acknowledged

theorem mirrors_initializePs2Mouse (mouseState : Ps2MouseState) :
    Mirrors (initializePs2Mouse mouseState) (Boot.initializePs2Mouse mouseState) :=
  mirrors_enableMouse.bind fun _ => (mirrors_pure _).ite (mirrors_pure _)

end

end Ports

end DragonOS.Boot
