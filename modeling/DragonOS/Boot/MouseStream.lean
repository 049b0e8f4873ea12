import DragonOS.Boot.MouseStart

/-!
# Packets on their way

A started mouse sends a packet for each movement. The bytes that the driver has read and those
that are still on their way are together all that was sent, so each packet is recognised once
and in its turn, however the calls of the driver and the work of the controller interleave.
-/

namespace DragonOS.Boot

open Lib Lib.Dialogue

namespace Chip

/-- The driver has read `received` of what the mouse has sent. -/
structure Streams (received : List UInt8) (chip : Chip) : Prop where
  reporting : chip.reporting = true
  lost : chip.lost = []
  stream : chip.moves.flatMap Packet.bytes = received ++ chip.stream
  starts : ∀ packet ∈ chip.moves, StartsPacket packet.1

section
variable {chip : Chip} {received : List UInt8}

theorem steady_streams : Steady (Streams received) where
  deliver {chip byte rest} h hempty hbox := by
    refine ⟨h.reporting, h.lost, ?_, h.starts⟩
    have hstream : chip.stream = chip.outbox := stream_of_other (by rw [hempty]; nofun)
    have hkept := h.stream
    rwa [hstream, hbox] at hkept
  press {chip byte} h hempty := by
    refine ⟨h.reporting, h.lost, ?_, h.starts⟩
    have hstream : chip.stream = chip.outbox := stream_of_other (by rw [hempty]; nofun)
    have hkept := h.stream
    rwa [hstream] at hkept
  move {chip packet} h _ hstarts := by
    refine ⟨h.reporting, h.lost, ?_, fun other hother => ?_⟩
    · rw [List.flatMap_append, h.stream, List.flatMap_singleton, List.append_assoc]
      exact congrArg (received ++ ·) (List.append_assoc _ _ _)
    · rcases List.mem_append.mp hother with hother | hother
      · exact h.starts other hother
      · exact List.mem_singleton.mp hother ▸ hstarts
  wait h := ⟨h.reporting, h.lost, h.stream, h.starts⟩
  lost h := h.lost

theorem Streams.emptied_mouse (h : chip.Streams received) (houtput : chip.output = some (byte, true)) :
    chip.emptied.Streams (received ++ [byte]) := by
  refine ⟨h.reporting, h.lost, ?_, h.starts⟩
  have hstream : chip.stream = byte :: chip.outbox := by rw [Chip.stream, houtput]; rfl
  have hkept := h.stream
  rw [hstream] at hkept
  rw [List.append_assoc]
  exact hkept

theorem Streams.emptied (h : chip.Streams received) (hother : ∀ byte, chip.output ≠ some (byte, true)) :
    chip.emptied.Streams received := by
  refine ⟨h.reporting, h.lost, ?_, h.starts⟩
  have hstream := h.stream
  rw [stream_of_other hother] at hstream
  exact hstream

theorem ends_tryReadByte (h : chip.Streams received ∧ chip.input = none) :
    Ports.ps2TryReadByte.Ends Answers (fun found after => ∃ reading : Reading,
      (∀ port, ps2TryReadByte (reading :: port) = (found, port)) ∧
        after.Streams (received ++ mouseBytes [reading]) ∧ after.input = none) chip := by
  have hsteady : Steady fun chip => chip.Streams received := steady_streams
  have hstable := hsteady.free
  refine ends_status hstable h fun status ready hready _ hstatus => ?_
  by_cases hempty : status &&& 0x01 = 0
  · rw [if_pos hempty]
    have hbytes : mouseBytes [⟨status, 0⟩] = [] := by simp [mouseBytes, hempty]
    refine ends_pure ⟨⟨status, 0⟩, fun port => by rw [ps2TryReadByte, if_pos hempty], ?_⟩
    rw [hbytes, List.append_nil]
    exact hstable.wait hready
  · rw [if_neg hempty]
    obtain ⟨⟨byte, fromMouse⟩, houtput⟩ := Option.ne_none_iff_exists'.mp (hstatus.output.mp hempty)
    have hmouse := hstatus.mouse byte fromMouse houtput
    refine ends_data (hstable.full (byte, fromMouse)) ⟨hstable.wait hready, houtput⟩
      fun value after hafter _ hvalue => ends_pure ?_
    obtain rfl := hvalue byte fromMouse hafter.2
    refine ⟨⟨status, value⟩, fun port => by rw [ps2TryReadByte, if_neg hempty], ?_, hafter.1.2⟩
    cases fromMouse with
    | true =>
      have hbytes : mouseBytes [⟨status, value⟩] = [value] := by simp [mouseBytes, hempty, hmouse]
      rw [hbytes]
      exact hafter.1.1.emptied_mouse hafter.2
    | false =>
      have hbytes : mouseBytes [⟨status, value⟩] = [] := by simp [mouseBytes, hmouse]
      rw [hbytes, List.append_nil]
      exact hafter.1.1.emptied (by simp [hafter.2])

/-- The loop of a call does what the model does on the readings, and takes all of them. -/
theorem ends_readPackets (limit : Nat) {poll : PollState} (hport : poll.port = [])
    (h : chip.Streams received ∧ chip.input = none) :
    (Ports.readPackets limit poll).Ends Answers (fun value after => ∃ consumed : Port,
      readPackets limit { poll with port := consumed } = value ∧ value.port = [] ∧
        after.Streams (received ++ mouseBytes consumed) ∧ after.input = none) chip := by
  induction limit generalizing poll received chip with
  | zero =>
    refine ends_pure ⟨[], ?_, hport, by rwa [mouseBytes, List.filterMap_nil, List.append_nil]⟩
    rw [readPackets, ← hport]
  | succ limit ih =>
    refine (ends_tryReadByte h).bind fun found after hafter => ?_
    obtain ⟨reading, hread, hafter⟩ := hafter
    have hlater {poll' : PollState} (hport : poll'.port = [])
        (hstep : ∀ port, readPackets (limit + 1) { poll with port := reading :: port } =
          readPackets limit { poll' with port }) :
        (Ports.readPackets limit poll').Ends Answers (fun value final => ∃ consumed : Port,
          readPackets (limit + 1) { poll with port := consumed } = value ∧ value.port = [] ∧
            final.Streams (received ++ mouseBytes consumed) ∧ final.input = none) after := by
      refine (ih hport hafter).mono fun value final hfinal => ?_
      obtain ⟨consumed, hvalue, hempty, hstreams⟩ := hfinal
      refine ⟨reading :: consumed, (hstep consumed).trans hvalue, hempty, ?_⟩
      rwa [← List.singleton_append, mouseBytes_append, ← List.append_assoc]
    cases found with
    | none =>
      refine ends_pure ⟨[reading], ?_, hport, hafter⟩
      rw [readPackets, hread, ← hport]
    | some found =>
      obtain ⟨data, fromMouse⟩ := found
      cases fromMouse with
      | false => exact hlater hport fun port => by rw [readPackets, hread]
      | true =>
        have hkept := (receiveMouseByte_port poll data).trans hport
        rcases hreceived : receiveMouseByte poll data with ⟨next, broken⟩
        have hstep := Ports.readPackets_received limit hread hreceived
        rw [hreceived] at hkept
        simp only [hreceived]
        cases broken with
        | false => exact hlater hkept fun port => (hstep port).trans (if_neg Bool.false_ne_true)
        | true =>
          refine ends_pure ⟨[reading], (hstep []).trans ?_, hkept, hafter⟩
          exact (if_pos rfl).trans (congrArg (fun port => { next with port }) hkept.symm)

/-- The locals of the next call do not depend on what comes. -/
theorem ends_poll (header : GeneratedBitmap) (framebufferInfo : FramebufferInfo) {session : Session}
    (henabled : session.mouse.enabled ≠ 0)
    (h : chip.Streams received ∧ chip.input = none) :
    (Ports.poll header framebufferInfo session).Ends Answers (fun next after => ∃ consumed : Port,
      ({ session with port := consumed } : Session).poll header framebufferInfo = next ∧
        next.port = [] ∧ after.Streams (received ++ mouseBytes consumed) ∧ after.input = none)
      chip := by
  have hcall : (Ports.updateCursorFromPs2Mouse header framebufferInfo session.mouse session.cursor).Ends
      Answers (fun result after => ∃ consumed : Port,
        updateCursorFromPs2Mouse header framebufferInfo session.mouse session.cursor consumed = result ∧
          result.port = [] ∧ after.Streams (received ++ mouseBytes consumed) ∧ after.input = none)
      chip := by
    rw [Ports.updateCursorFromPs2Mouse, if_neg henabled]
    refine (ends_readPackets 96 rfl h).bind fun poll after hafter => ?_
    obtain ⟨consumed, hpoll, hempty, hstreams⟩ := hafter
    refine ends_pure ⟨consumed, ?_, ?_, hstreams⟩
    · rw [Ports.updateCursorFromPs2Mouse_eq header framebufferInfo henabled, ← hpoll]
      rfl
    · simp only [Ports.finishPoll]
      split_ifs <;> exact hempty
  refine hcall.bind fun result after hafter => ?_
  obtain ⟨consumed, hresult, hempty, hstreams⟩ := hafter
  refine ends_pure ⟨consumed, ?_, hempty, hstreams⟩
  simp only [Session.poll, hresult]

theorem ends_polls (header : GeneratedBitmap) (framebufferInfo : FramebufferInfo) {session : Session}
    (hfresh : session.Fresh) (hport : session.port = [])
    (h : chip.Streams [] ∧ chip.input = none) (calls : Nat) :
    (Ports.polls header framebufferInfo session calls).Ends Answers (fun next after =>
      ∃ received, next.startPoll.Tracks next.packets received ∧ next.port = [] ∧
        after.Streams received ∧ after.input = none) chip := by
  induction calls with
  | zero => exact ends_pure ⟨[], hfresh.tracks, hport, h⟩
  | succ calls ih =>
    refine ih.bind fun session after hafter => ?_
    obtain ⟨received, htracks, -, hafter⟩ := hafter
    refine (ends_poll header framebufferInfo htracks.enabled hafter).mono fun next final hfinal => ?_
    obtain ⟨consumed, hnext, hempty, hstreams⟩ := hfinal
    refine ⟨received ++ mouseBytes consumed, ?_, hempty, hstreams⟩
    obtain ⟨taken, htaken, hfollows⟩ :=
      Session.poll_tracks header framebufferInfo (show ({ session with port := consumed } :
        Session).startPoll.Tracks session.packets received from htracks.withPort consumed)
    rw [hnext, hempty, List.append_nil] at htaken
    rw [hnext, ← show consumed = taken from htaken] at hfollows
    exact hfollows

theorem Started.streams {mode : UInt8} (h : chip.Started mode)
    (hstarts : ∀ packet ∈ chip.moves, StartsPacket packet.1) :
    chip.Streams [] ∧ chip.input = none := by
  obtain ⟨config, -, hsits⟩ := h.mode
  exact ⟨⟨hsits.reporting_eq, hsits.lost_eq, hsits.stream_eq.symm, hstarts⟩, h.input⟩

end

end Chip

-- ---------------------------------------------------------------------------
-- The whole session
-- ---------------------------------------------------------------------------

section
variable (header : GeneratedBitmap) (framebufferInfo : FramebufferInfo)

/-- What `RunKernelMouseLoop` does with the ports: the mouse is started, and then asked again
and again. -/
def Ports.mouseSession (mouseState : Ps2MouseState) (cursor : SoftwareCursor) (calls : Nat) :
    Driver Session := do
  let (_, mouse) ← Ports.initializePs2Mouse mouseState
  Ports.polls header framebufferInfo
    { mouse, cursor := { cursor with leftButtonDown := 0 }, port := [], packets := [] } calls

/-- Each packet that was sent has been recognised once, in its turn, or is on its way. -/
structure Delivered (session : Session) (chip : Chip) : Prop where
  lost : chip.lost = []
  inTurn : ∃ pending left, session.mouse.Holds pending ∧ chip.moves = session.packets ++ left ∧
    left.flatMap Packet.bytes = pending ++ chip.stream

variable {header framebufferInfo} {chip : Chip} {session : Session}

theorem ends_polls_off (hoff : session.mouse.enabled = 0) (hport : session.port = []) (calls : Nat) :
    (Ports.polls header framebufferInfo session calls).Ends Chip.Answers
      (fun next after => next.mouse = session.mouse ∧ next.packets = session.packets ∧
        next.port = [] ∧ after = chip) chip := by
  induction calls with
  | zero => exact ends_pure ⟨rfl, rfl, hport, rfl⟩
  | succ calls ih =>
    refine ih.bind fun next after hafter => ?_
    obtain ⟨hmouse, hpackets, -, rfl⟩ := hafter
    rw [Ports.poll, Ports.updateCursorFromPs2Mouse, if_pos (by rw [hmouse, hoff])]
    exact ends_pure ⟨hmouse, (List.append_nil _).trans hpackets, rfl, rfl⟩

/-- From an idle mouse on, whatever keys are pressed, however the mouse is moved and whenever
the controller works: no packet is lost or seen twice, and none is misread. Otherwise the
controller has stalled, and it and the mouse are left as the failed start left them. -/
theorem mouseSession_delivers (h : chip.Idle) (mouseState : Ps2MouseState) (cursor : SoftwareCursor)
    (calls : Nat) :
    (Ports.mouseSession header framebufferInfo mouseState cursor calls).Ends Chip.Answers
      (fun session after => (session.mouse.enabled ≠ 0 ∧ Delivered session after) ∨
        (session.mouse.enabled = 0 ∧ session.packets = [] ∧ after.Stalled ∧
          (Ports.initializePs2Mouse mouseState).MayEnd Chip.Answers (0, session.mouse) after chip))
      chip := by
  refine ((Chip.ends_initializePs2Mouse h mouseState).and
    (Chip.ends_grows _ chip)).mayEnd.bind fun result after hafter => ?_
  obtain ⟨⟨⟨rfl, hstarted⟩ | ⟨rfl, hstalled⟩, hgrows⟩, hended⟩ := hafter
  · have hstarts := hgrows.starts (by rw [h.moves]; nofun)
    refine (Chip.ends_polls header framebufferInfo ⟨show (1 : UInt8) ≠ 0 by decide, rfl, rfl, rfl⟩ rfl
      (hstarted.streams hstarts) calls).mono fun session final hfinal => .inl ?_
    obtain ⟨received, htracks, -, hstreams, -⟩ := hfinal
    obtain ⟨left, hmoves, hleft⟩ := framing_of_frames final.moves hstreams.starts hstreams.stream
    have hpackets : (framing StartsPacket received).frames = session.packets :=
      htracks.packets.trans (List.append_nil _)
    rw [hpackets] at hmoves
    exact ⟨htracks.enabled, hstreams.lost, _, left, htracks.holds, hmoves, hleft⟩
  · refine (ends_polls_off rfl rfl calls).mono fun session final hfinal => .inr ?_
    obtain ⟨hmouse, hpackets, -, rfl⟩ := hfinal
    exact ⟨by rw [hmouse]; rfl, hpackets, hstalled, by rw [hmouse]; exact hended⟩

theorem mouseSession_delivers_resting :
    (Ports.mouseSession plainBitmap vgaScreen default default 3).Ends Chip.Answers
      (fun session after => (session.mouse.enabled ≠ 0 ∧ Delivered session after) ∨
        (session.mouse.enabled = 0 ∧ session.packets = [] ∧ after.Stalled ∧
          (Ports.initializePs2Mouse default).MayEnd Chip.Answers (0, session.mouse) after
            Chip.resting)) Chip.resting :=
  mouseSession_delivers Chip.idle_resting default default 3

end

end DragonOS.Boot
