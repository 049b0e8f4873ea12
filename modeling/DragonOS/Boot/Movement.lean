import DragonOS.Boot.Ps2
import Mathlib.Algebra.BigOperators.Group.List.Basic

/-!
# The movement of a packet

A packet carries two 9-bit two's-complement movements: the second and the third byte
hold the low eight bits, two bits of the first byte the signs. `receiveMouseByte`
reads the low eight bits as a signed byte. The two readings differ by 256 for a
movement that does not fit into a byte, so the totals of a call are right when the
differences cancel: `readPackets_movement_iff`.
-/

namespace DragonOS.Boot

open Lib

/-- Neither overflow bit is set. -/
def Packet.accepted (packet : Packet) : Bool := packet.1 &&& 0xC0 = 0

/-- The sign in a bit of the first byte, before the low eight bits. -/
def movement (signBit first low : UInt8) : Int :=
  if first &&& signBit ≠ 0 then low.toNat - 256 else low.toNat

def Packet.movementX (packet : Packet) : Int := movement 0x10 packet.1 packet.2.1

def Packet.movementY (packet : Packet) : Int := movement 0x20 packet.1 packet.2.2

def Packet.FarNegative (signBit first low : UInt8) : Prop := first &&& signBit ≠ 0 ∧ low < 128

def Packet.FarPositive (signBit first low : UInt8) : Prop := first &&& signBit = 0 ∧ 128 ≤ low

instance : Decidable (Packet.FarNegative signBit first low) := inferInstanceAs (Decidable (_ ∧ _))

instance : Decidable (Packet.FarPositive signBit first low) := inferInstanceAs (Decidable (_ ∧ _))

/-- As many movements are too far to the left as to the right, and as many up as down. -/
def Balanced (packets : List Packet) : Prop :=
  packets.countP (fun packet => Packet.FarNegative 0x10 packet.1 packet.2.1) =
      packets.countP (fun packet => Packet.FarPositive 0x10 packet.1 packet.2.1) ∧
    packets.countP (fun packet => Packet.FarNegative 0x20 packet.1 packet.2.2) =
      packets.countP (fun packet => Packet.FarPositive 0x20 packet.1 packet.2.2)

-- ---------------------------------------------------------------------------
-- One byte
-- ---------------------------------------------------------------------------

theorem toInt_toInt8_eq (signBit first low : UInt8) :
    low.toInt8.toInt = movement signBit first low +
      256 * ((if Packet.FarNegative signBit first low then 1 else 0) -
        (if Packet.FarPositive signBit first low then 1 else 0)) := by
  have hlt : low < 128 ↔ low.toNat < 128 := UInt8.lt_iff_toNat_lt
  have hle : 128 ≤ low ↔ 128 ≤ low.toNat := UInt8.le_iff_toNat_le
  rw [toInt_toInt8, movement]
  simp only [Packet.FarNegative, Packet.FarPositive, hlt, hle]
  by_cases hsign : first &&& signBit = 0
  · simp only [hsign, ne_eq, not_true_eq_false, false_and, if_false, true_and]
    split <;> split <;> omega
  · simp only [hsign, ne_eq, not_false_eq_true, true_and, if_true, false_and, if_false]
    split <;> omega

theorem sum_toInt8 (signBit : UInt8) (low : Packet → UInt8) (packets : List Packet) :
    (packets.map fun packet => (low packet).toInt8.toInt).sum =
      (packets.map fun packet => movement signBit packet.1 (low packet)).sum +
        256 * (packets.countP (fun packet => Packet.FarNegative signBit packet.1 (low packet)) -
          packets.countP (fun packet => Packet.FarPositive signBit packet.1 (low packet))) := by
  induction packets with
  | nil => rfl
  | cons packet rest ih =>
    rw [List.map_cons, List.sum_cons, List.map_cons, List.sum_cons, List.countP_cons,
      List.countP_cons, ih, toInt_toInt8_eq signBit packet.1 (low packet)]
    simp only [decide_eq_true_eq]
    split <;> split <;> push_cast <;> omega

-- ---------------------------------------------------------------------------
-- The totals of a call
-- ---------------------------------------------------------------------------

def PollState.acceptedPackets (poll : PollState) : List Packet :=
  poll.packets.filter Packet.accepted

/-- The totals are the sums of the signed bytes. At most 32 packets are accepted, so
they stay far away from the end of a signed word. -/
structure PollState.Sums (poll : PollState) : Prop where
  totalX : poll.totalDeltaX.toInt =
    (poll.acceptedPackets.map fun packet => packet.2.1.toInt8.toInt).sum
  totalY : poll.totalDeltaY.toInt =
    (poll.acceptedPackets.map fun packet => packet.2.2.toInt8.toInt).sum
  count : poll.packetCount.toNat = poll.acceptedPackets.length
  count_le : poll.acceptedPackets.length ≤ 32

theorem sum_bounds (low : Packet → UInt8) (packets : List Packet) :
    -128 * packets.length ≤ (packets.map fun packet => (low packet).toInt8.toInt).sum ∧
      (packets.map fun packet => (low packet).toInt8.toInt).sum ≤ 127 * packets.length := by
  induction packets with
  | nil => exact ⟨Int.le_refl 0, Int.le_refl 0⟩
  | cons packet rest ih =>
    have := toInt_toInt8_bounds (low packet)
    rw [List.map_cons, List.sum_cons, List.length_cons]
    omega

theorem PollState.Sums.bounds {poll : PollState} (h : poll.Sums) :
    (-128 * poll.acceptedPackets.length ≤ poll.totalDeltaX.toInt ∧
      poll.totalDeltaX.toInt ≤ 127 * poll.acceptedPackets.length) ∧
    (-128 * poll.acceptedPackets.length ≤ poll.totalDeltaY.toInt ∧
      poll.totalDeltaY.toInt ≤ 127 * poll.acceptedPackets.length) := by
  rw [h.totalX, h.totalY]
  exact ⟨sum_bounds (·.2.1) _, sum_bounds (·.2.2) _⟩

theorem PollState.Sums.withMouse {poll : PollState} (h : poll.Sums) (mouse : Ps2MouseState)
    (port : Port) : ({ poll with mouse, port } : PollState).Sums :=
  ⟨h.totalX, h.totalY, h.count, h.count_le⟩

theorem startPoll_sums : (startPoll mouseState cursor port).Sums :=
  ⟨rfl, rfl, rfl, Nat.zero_le _⟩

theorem acceptedPackets_concat (packets : List Packet) (packet : Packet) :
    (packets ++ [packet]).filter Packet.accepted =
      if packet.accepted then packets.filter Packet.accepted ++ [packet]
      else packets.filter Packet.accepted := by
  rw [List.filter_append, List.filter_singleton]
  cases packet.accepted with
  | true => rfl
  | false => exact List.append_nil _

theorem receiveMouseByte_sums {poll : PollState} (h : poll.Sums)
    (hroom : poll.acceptedPackets.length < 32) (data : UInt8) :
    (receiveMouseByte poll data).1.Sums ∧
      ((receiveMouseByte poll data).2 = false →
        (receiveMouseByte poll data).1.acceptedPackets.length < 32) := by
  simp only [receiveMouseByte]
  split
  · exact ⟨h, fun _ => hroom⟩
  split
  · exact ⟨h.withMouse _ _, fun _ => hroom⟩
  generalize Function.update poll.mouse.packet poll.mouse.packetIndex data = packet
  split
  next hoverflow =>
    have hrejected : Packet.accepted (packet 0, packet 1, packet 2) = false :=
      decide_eq_false hoverflow
    have hsame : (poll.packets ++ [(packet 0, packet 1, packet 2)]).filter Packet.accepted =
        poll.acceptedPackets := by
      rw [acceptedPackets_concat, hrejected]
      rfl
    refine ⟨⟨?_, ?_, ?_, ?_⟩, fun _ => ?_⟩ <;> simp only [PollState.acceptedPackets, hsame]
    · exact h.totalX
    · exact h.totalY
    · exact h.count
    · exact h.count_le
    · exact hroom
  next hclear =>
    have haccepted : Packet.accepted (packet 0, packet 1, packet 2) = true :=
      decide_eq_true (not_not.mp hclear)
    have hmore : (poll.packets ++ [(packet 0, packet 1, packet 2)]).filter Packet.accepted =
        poll.acceptedPackets ++ [(packet 0, packet 1, packet 2)] := by
      rw [acceptedPackets_concat, haccepted]
      rfl
    obtain ⟨⟨hxlow, hxhigh⟩, hylow, hyhigh⟩ := h.bounds
    have hx := toInt_toInt8_bounds (packet 1)
    have hy := toInt_toInt8_bounds (packet 2)
    have hcount : (poll.packetCount + 1).toNat = poll.acceptedPackets.length + 1 := by
      rw [toNat_add_of_lt (by rw [h.count, UInt32.toNat_one]; omega), h.count, UInt32.toNat_one]
    refine ⟨⟨?_, ?_, ?_, ?_⟩, fun hbroken => ?_⟩ <;>
      simp only [PollState.acceptedPackets, hmore, List.map_append, List.map_cons, List.map_nil,
        List.sum_append, List.sum_singleton, List.length_append, List.length_singleton]
    · rw [Int32.toInt_add, Int8.toInt_toInt32, Int.bmod_eq_of_le (by omega) (by omega), h.totalX]
      rfl
    · rw [Int32.toInt_add, Int8.toInt_toInt32, Int.bmod_eq_of_le (by omega) (by omega), h.totalY]
      rfl
    · exact hcount
    · exact hroom
    · simp only [ge_iff_le, decide_eq_false_iff_not, UInt32.le_iff_toNat_le, hcount] at hbroken
      exact Nat.lt_of_not_le hbroken

theorem readPackets_sums (limit : Nat) {poll : PollState} (h : poll.Sums)
    (hroom : poll.acceptedPackets.length < 32) : (readPackets limit poll).Sums := by
  induction limit generalizing poll with
  | zero => exact h
  | succ limit ih =>
    rw [readPackets]
    split
    next => exact h.withMouse poll.mouse _
    next => exact ih (h.withMouse poll.mouse _) hroom
    next data port hread =>
      have hreceived := receiveMouseByte_sums (h.withMouse poll.mouse port) hroom data
      split
      next next hbroken =>
        rw [hbroken] at hreceived
        exact hreceived.1
      next next hgoes =>
        rw [hgoes] at hreceived
        exact ih hreceived.1 (hreceived.2 rfl)

/-- The totals are the sums of the 9-bit movements when the movements that do not fit
into a byte cancel. -/
theorem readPackets_movement_iff (mouseState : Ps2MouseState) (cursor : SoftwareCursor)
    (port : Port) :
    let poll := readPackets 96 (startPoll mouseState cursor port)
    (poll.totalDeltaX.toInt = (poll.acceptedPackets.map Packet.movementX).sum ∧
        poll.totalDeltaY.toInt = (poll.acceptedPackets.map Packet.movementY).sum) ↔
      Balanced poll.acceptedPackets := by
  intro poll
  have hsums : poll.Sums := readPackets_sums 96 startPoll_sums (Nat.zero_lt_succ 31)
  have hx : _ = (poll.acceptedPackets.map Packet.movementX).sum + _ :=
    sum_toInt8 0x10 (·.2.1) poll.acceptedPackets
  have hy : _ = (poll.acceptedPackets.map Packet.movementY).sum + _ :=
    sum_toInt8 0x20 (·.2.2) poll.acceptedPackets
  rw [hsums.totalX, hsums.totalY, hx, hy, Balanced]
  omega

/-- A packet that moves 200 to the right counts as 56 to the left. -/
theorem readPackets_movement_fast :
    let poll := readPackets 96 (startPoll default default
      [⟨0x21, 0x08⟩, ⟨0x21, 0xC8⟩, ⟨0x21, 0x00⟩])
    poll.acceptedPackets = [(0x08, 0xC8, 0x00)] ∧
      (poll.acceptedPackets.map Packet.movementX).sum = 200 ∧ poll.totalDeltaX.toInt = -56 := by
  decide

end DragonOS.Boot
