import DragonOS.Boot.Ports
import Mathlib.Logic.Relation

/-!
# The controller, its keyboard and its mouse

What is behind the two ports: a controller with one byte of output and one of input, a keyboard
that is typed on at any time, and a mouse that is moved at any time. Between two accesses of the
driver the controller does as much of its work as it likes. A byte that is written before the
last one has been taken is lost.
-/

namespace DragonOS.Boot

open Lib Lib.Dialogue

def Packet.bytes (packet : Packet) : List UInt8 := [packet.1, packet.2.1, packet.2.2]

/-- What the next data byte is for. -/
inductive Awaited
  | mode
  | mouse

/-- `output` says whether its byte came from the mouse, `input` to which port its byte went.
`outbox` is what the mouse has not handed over yet. The rest is a record: for how many reads of
the status there has been something to do, what was written, what was lost, which keys were
pressed, and which packets the mouse has sent. -/
structure Chip where
  output : Option (UInt8 × Bool)
  input : Option (UInt16 × UInt8)
  awaited : Option Awaited
  mode : UInt8
  reporting : Bool
  outbox : List UInt8
  overdue : Nat
  sent : List (UInt16 × UInt8)
  lost : List (UInt16 × UInt8)
  keys : List UInt8
  moves : List Packet

namespace Chip

def command (chip : Chip) (value : UInt8) : Chip :=
  if value = 0xA8 then { chip with mode := chip.mode &&& 0xDF }
  else if value = 0x20 then { chip with output := some (chip.mode, false) }
  else if value = 0x60 then { chip with awaited := some .mode }
  else if value = 0xD4 then { chip with awaited := some .mouse }
  else chip

/-- The mouse drops what it was about to say, and answers. -/
def tellMouse (chip : Chip) (value : UInt8) : Chip :=
  if value = 0xF6 then { chip with reporting := false, outbox := [0xFA] }
  else if value = 0xF4 then { chip with reporting := true, outbox := [0xFA] }
  else { chip with outbox := [0xFE] }

def data (chip : Chip) (value : UInt8) : Chip :=
  match chip.awaited with
  | none => chip
  | some .mode => { chip with mode := value, awaited := none }
  | some .mouse => { chip.tellMouse value with awaited := none }

/-- The controller takes the byte that has been written. -/
def take (chip : Chip) (address : UInt16) (value : UInt8) : Chip :=
  if address = 0x64 then { chip with input := none }.command value
  else { chip with input := none }.data value

def Clocked (chip : Chip) : Prop := chip.mode &&& 0x20 = 0

/-- One thing that happens behind the ports. -/
inductive Works : Chip → Chip → Prop
  | take {chip : Chip} {address : UInt16} {value : UInt8} :
    chip.input = some (address, value) → (address = 0x64 → value = 0x20 → chip.output = none) →
      Works chip (chip.take address value)
  | deliver {chip : Chip} {byte : UInt8} {rest : List UInt8} :
    chip.output = none → chip.outbox = byte :: rest → chip.Clocked →
      Works chip { chip with output := some (byte, true), outbox := rest }
  | press {chip : Chip} (byte : UInt8) :
    chip.output = none →
      Works chip { chip with output := some (byte, false), keys := chip.keys ++ [byte] }
  | move {chip : Chip} (packet : Packet) :
    chip.reporting = true → StartsPacket packet.1 →
      Works chip { chip with
        outbox := chip.outbox ++ packet.bytes, moves := chip.moves ++ [packet] }

/-- There is something left to do for the driver. -/
def Owes (chip : Chip) : Prop := chip.input ≠ none ∨ (chip.outbox ≠ [] ∧ chip.Clocked)

instance (chip : Chip) : Decidable chip.Owes := by
  unfold Owes Clocked
  infer_instance

structure StatusIs (chip : Chip) (status : UInt8) : Prop where
  output : status &&& 0x01 ≠ 0 ↔ chip.output ≠ none
  input : status &&& 0x02 ≠ 0 ↔ chip.input ≠ none
  mouse : ∀ byte fromMouse, chip.output = some (byte, fromMouse) →
    (status &&& 0x20 ≠ 0 ↔ fromMouse = true)

def polled (chip : Chip) : Chip :=
  { chip with overdue := if chip.Owes then chip.overdue + 1 else 0 }

def emptied (chip : Chip) : Chip := { chip with output := none }

def written (chip : Chip) (address : UInt16) (value : UInt8) : Chip :=
  { chip with
    input := some (address, value)
    sent := (address, value) :: chip.sent
    lost := chip.input.toList ++ chip.lost }

/-- An access to a port. What comes from an empty output, or from another port, can be anything. -/
def Replies (chip : Chip) : (act : PortAction) → act.Reply → Chip → Prop
  | .inByte address, value, after =>
    if address = 0x64 then chip.StatusIs value ∧ after = chip.polled
    else if address = 0x60 then
      (∀ byte fromMouse, chip.output = some (byte, fromMouse) → value = byte) ∧ after = chip.emptied
    else after = chip
  | .outByte address value, _, after => after = chip.written address value

def Answers : Surroundings Chip PortAction PortAction.Reply := fun chip act reply after =>
  ∃ ready, Relation.ReflTransGen Works chip ready ∧ ready.Replies act reply after

-- ---------------------------------------------------------------------------
-- What the controller keeps by itself
-- ---------------------------------------------------------------------------

/-- Kept by whatever happens, apart from a byte being taken. -/
structure Keeps (P : Chip → Prop) : Prop where
  deliver : ∀ {chip byte rest}, P chip → chip.output = none → chip.outbox = byte :: rest →
    P { chip with output := some (byte, true), outbox := rest }
  press : ∀ {chip byte}, P chip → chip.output = none →
    P { chip with output := some (byte, false), keys := chip.keys ++ [byte] }
  move : ∀ {chip} {packet : Packet}, P chip → chip.reporting = true → StartsPacket packet.1 →
    P { chip with outbox := chip.outbox ++ packet.bytes, moves := chip.moves ++ [packet] }
  wait : ∀ {chip overdue}, P chip → P { chip with overdue }

/-- Kept so, and nothing has been lost. -/
structure Steady (P : Chip → Prop) : Prop extends Keeps P where
  lost : ∀ {chip}, P chip → chip.lost = []

/-- Kept by whatever happens. -/
structure Stable (P : Chip → Prop) : Prop extends Steady P where
  take : ∀ {chip address value}, P chip → chip.input = some (address, value) →
    (address = 0x64 → value = 0x20 → chip.output = none) → P (chip.take address value)

section
variable {P Q : Chip → Prop} {chip after : Chip}

theorem Steady.and (hP : Steady P) (hQ : Keeps Q) : Steady fun chip => P chip ∧ Q chip where
  deliver h hempty hbox := ⟨hP.deliver h.1 hempty hbox, hQ.deliver h.2 hempty hbox⟩
  press h hempty := ⟨hP.press h.1 hempty, hQ.press h.2 hempty⟩
  move h hreports hstarts := ⟨hP.move h.1 hreports hstarts, hQ.move h.2 hreports hstarts⟩
  wait h := ⟨hP.wait h.1, hQ.wait h.2⟩
  lost h := hP.lost h.1

theorem Stable.works (hP : Stable P) (h : P chip) (hworks : Works chip after) : P after := by
  cases hworks with
  | take hinput hallowed => exact hP.take h hinput hallowed
  | deliver hempty hbox _ => exact hP.deliver h hempty hbox
  | press byte hempty => exact hP.press h hempty
  | move packet hreports hstarts => exact hP.move h hreports hstarts

theorem Stable.run (hP : Stable P) (h : P chip) (hrun : Relation.ReflTransGen Works chip after) :
    P after := by
  induction hrun with
  | refl => exact h
  | tail _ hworks ih => exact hP.works ih hworks

/-- What a byte that is taken can change. Only for the mode there is a reply. -/
theorem take_eq (chip : Chip) (address : UInt16) (value : UInt8) :
    ∃ output awaited mode reporting outbox,
      chip.take address value = { chip with input := none, output, awaited, mode, reporting, outbox } ∧
        ((address = 0x64 → value ≠ 0x20) → output = chip.output) := by
  simp only [take, command, data, tellMouse]
  split_ifs with haddress _ hmode
  · exact ⟨_, _, _, _, _, rfl, fun _ => rfl⟩
  · exact ⟨_, _, _, _, _, rfl, fun hother => absurd hmode (hother haddress)⟩
  · exact ⟨_, _, _, _, _, rfl, fun _ => rfl⟩
  · exact ⟨_, _, _, _, _, rfl, fun _ => rfl⟩
  · exact ⟨_, _, _, _, _, rfl, fun _ => rfl⟩
  all_goals split <;> exact ⟨_, _, _, _, _, rfl, fun _ => rfl⟩

@[simp] theorem input_take (chip : Chip) (address : UInt16) (value : UInt8) :
    (chip.take address value).input = none := by
  obtain ⟨_, _, _, _, _, htake, -⟩ := chip.take_eq address value
  rw [htake]

@[simp] theorem overdue_take (chip : Chip) (address : UInt16) (value : UInt8) :
    (chip.take address value).overdue = chip.overdue := by
  obtain ⟨_, _, _, _, _, htake, -⟩ := chip.take_eq address value
  rw [htake]

@[simp] theorem sent_take (chip : Chip) (address : UInt16) (value : UInt8) :
    (chip.take address value).sent = chip.sent := by
  obtain ⟨_, _, _, _, _, htake, -⟩ := chip.take_eq address value
  rw [htake]

theorem output_take (hother : address = 0x64 → value ≠ 0x20) :
    (chip.take address value).output = chip.output := by
  obtain ⟨_, _, _, _, _, htake, houtput⟩ := chip.take_eq address value
  rw [htake]
  exact houtput hother

/-- The controller neither catches up nor writes. -/
theorem kept_run (hrun : Relation.ReflTransGen Works chip after) :
    after.overdue = chip.overdue ∧ after.sent = chip.sent := by
  induction hrun with
  | refl => exact ⟨rfl, rfl⟩
  | tail _ hworks ih =>
    rw [← ih.1, ← ih.2]
    cases hworks with
    | take _ _ => exact ⟨overdue_take _ _ _, sent_take _ _ _⟩
    | deliver _ _ _ => exact ⟨rfl, rfl⟩
    | press _ _ => exact ⟨rfl, rfl⟩
    | move _ _ _ => exact ⟨rfl, rfl⟩

structure Grows (chip after : Chip) : Prop where
  keys : chip.keys <+: after.keys
  starts : (∀ packet ∈ chip.moves, StartsPacket packet.1) → ∀ packet ∈ after.moves, StartsPacket packet.1

theorem Grows.trans {final : Chip} (h : chip.Grows after) (h' : after.Grows final) :
    chip.Grows final :=
  ⟨h.keys.trans h'.keys, fun hstarts => h'.starts (h.starts hstarts)⟩

theorem Works.grows (hworks : Works chip after) : chip.Grows after := by
  cases hworks with
  | @take address value _ _ =>
    obtain ⟨_, _, _, _, _, htake, -⟩ := chip.take_eq address value
    rw [htake]
    exact ⟨List.prefix_refl _, id⟩
  | deliver _ _ _ => exact ⟨List.prefix_refl _, id⟩
  | press _ _ => exact ⟨List.prefix_append _ _, id⟩
  | move packet _ hpacket =>
    refine ⟨List.prefix_refl _, fun hstarts other hother => ?_⟩
    rcases List.mem_append.mp hother with hother | hother
    · exact hstarts other hother
    · exact List.mem_singleton.mp hother ▸ hpacket

theorem grows_run (hrun : Relation.ReflTransGen Works chip after) : chip.Grows after := by
  induction hrun with
  | refl => exact ⟨List.prefix_refl _, id⟩
  | tail _ hworks ih => exact ih.trans hworks.grows

theorem Steady.free (hP : Steady P) : Stable fun chip => P chip ∧ chip.input = none where
  deliver h hempty hbox := ⟨hP.deliver h.1 hempty hbox, h.2⟩
  press h hempty := ⟨hP.press h.1 hempty, h.2⟩
  move h hreports hstarts := ⟨hP.move h.1 hreports hstarts, h.2⟩
  wait h := ⟨hP.wait h.1, h.2⟩
  lost h := hP.lost h.1
  take h hinput _ := by
    rw [h.2] at hinput
    exact absurd hinput nofun

/-- A byte is still to be taken, or has been. -/
def Pending (address : UInt16) (value : UInt8) (before after : Chip → Prop) (chip : Chip) : Prop :=
  (before chip ∧ chip.input = some (address, value)) ∨ (after chip ∧ chip.input = none)

theorem Steady.pending {before after : Chip → Prop} (hbefore : Steady before) (hafter : Steady after)
    (htake : ∀ chip, before chip → (address = 0x64 → value = 0x20 → chip.output = none) →
      after (chip.take address value)) : Stable (Pending address value before after) where
  deliver h hempty hbox := h.imp (fun h => ⟨hbefore.deliver h.1 hempty hbox, h.2⟩)
    fun h => ⟨hafter.deliver h.1 hempty hbox, h.2⟩
  press h hempty := h.imp (fun h => ⟨hbefore.press h.1 hempty, h.2⟩)
    fun h => ⟨hafter.press h.1 hempty, h.2⟩
  move h hreports hstarts := h.imp (fun h => ⟨hbefore.move h.1 hreports hstarts, h.2⟩)
    fun h => ⟨hafter.move h.1 hreports hstarts, h.2⟩
  wait h := h.imp (fun h => ⟨hbefore.wait h.1, h.2⟩) fun h => ⟨hafter.wait h.1, h.2⟩
  lost h := h.elim (fun h => hbefore.lost h.1) fun h => hafter.lost h.1
  take h hinput hallowed := by
    refine .inr ⟨?_, input_take _ _ _⟩
    rcases h with ⟨h, hpending⟩ | ⟨_, hfree⟩
    · obtain ⟨rfl, rfl⟩ := Prod.mk.inj (Option.some.inj (hpending.symm.trans hinput))
      exact htake _ h hallowed
    · rw [hfree] at hinput
      exact absurd hinput nofun

theorem Pending.free {before after' : Chip → Prop} (h : Pending address value before after' chip)
    (hfree : chip.input = none) : after' chip := by
  rcases h with ⟨_, hpending⟩ | ⟨h, _⟩
  · rw [hfree] at hpending
    exact absurd hpending nofun
  · exact h

theorem Stable.full (hP : Stable P) (output : UInt8 × Bool) :
    Stable fun chip => P chip ∧ chip.output = some output where
  deliver h hempty _ := absurd (hempty.symm.trans h.2) nofun
  press h hempty := absurd (hempty.symm.trans h.2) nofun
  move h hreports hstarts := ⟨hP.move h.1 hreports hstarts, h.2⟩
  wait h := ⟨hP.wait h.1, h.2⟩
  lost h := hP.lost h.1
  take {chip address value} h hinput hallowed := by
    refine ⟨hP.take h.1 hinput hallowed, ?_⟩
    rw [output_take fun haddress hvalue => nomatch (hallowed haddress hvalue).symm.trans h.2]
    exact h.2

end

-- ---------------------------------------------------------------------------
-- Accesses
-- ---------------------------------------------------------------------------

section
variable {P : Chip → Prop} {chip : Chip} {goal : α → Chip → Prop}

def plainStatus (chip : Chip) : UInt8 :=
  (match chip.output with
    | none => 0x00
    | some (_, false) => 0x01
    | some (_, true) => 0x21) ||| if chip.input = none then 0x00 else 0x02

theorem statusIs_plainStatus (chip : Chip) : chip.StatusIs chip.plainStatus := by
  rcases houtput : chip.output with _ | ⟨byte, _ | _⟩ <;> cases hinput : chip.input <;>
    refine ⟨?_, ?_, ?_⟩ <;> simp [plainStatus, houtput, hinput] <;> decide

theorem exists_answers (chip : Chip) (act : PortAction) :
    ∃ reply after, chip.Answers act reply after := by
  cases act with
  | inByte address =>
    obtain ⟨byte, hbyte⟩ : ∃ value, ∀ byte fromMouse, chip.output = some (byte, fromMouse) →
        value = byte := by
      cases houtput : chip.output with
      | none => exact ⟨0, nofun⟩
      | some output => exact ⟨output.1, fun _ _ h => congrArg Prod.fst (Option.some.inj h)⟩
    by_cases hstatus : address = 0x64
    · exact ⟨chip.plainStatus, _, chip, .refl,
        (if_pos hstatus).mpr ⟨statusIs_plainStatus chip, rfl⟩⟩
    by_cases hdata : address = 0x60
    · exact ⟨byte, _, chip, .refl, (if_neg hstatus).mpr ((if_pos hdata).mpr ⟨hbyte, rfl⟩)⟩
    · exact ⟨byte, _, chip, .refl, (if_neg hstatus).mpr ((if_neg hdata).mpr rfl)⟩
  | outByte address value => exact ⟨(), _, chip, .refl, rfl⟩

theorem grows_replies {act : PortAction} {reply : act.Reply} {after : Chip}
    (h : chip.Replies act reply after) : chip.Grows after := by
  cases act with
  | inByte address =>
    rw [Replies] at h
    split_ifs at h
    · exact h.2 ▸ ⟨List.prefix_refl _, id⟩
    · exact h.2 ▸ ⟨List.prefix_refl _, id⟩
    · exact h ▸ ⟨List.prefix_refl _, id⟩
  | outByte address value =>
    exact (show after = chip.written address value from h) ▸ ⟨List.prefix_refl _, id⟩

theorem answers_anything {act : PortAction} {reply : act.Reply} {after : Chip}
    (h : chip.Answers act reply after) : Ports.anything chip.sent act reply after.sent := by
  obtain ⟨ready, hrun, hreplies⟩ := h
  rw [← (kept_run hrun).2]
  cases act with
  | inByte address =>
    rw [Replies] at hreplies
    split_ifs at hreplies
    · exact hreplies.2 ▸ rfl
    · exact hreplies.2 ▸ rfl
    · exact hreplies ▸ rfl
  | outByte address value => exact (show after = ready.written address value from hreplies) ▸ rfl

/-- What a driver does here, the model does on some readings. -/
theorem ends_mirrors {driver : Driver α} {model : Ps2 α} (h : Ports.Mirrors driver model) (chip : Chip) :
    driver.Ends Answers (fun value after => ∃ readings, ∀ port,
      model ⟨readings ++ port, chip.sent⟩ = (value, ⟨port, after.sent⟩)) chip :=
  (h chip.sent).restrict exists_answers fun _ _ _ _ => answers_anything

theorem ends_grows (driver : Driver α) (chip : Chip) :
    driver.Ends Answers (fun _ after => chip.Grows after) chip := by
  induction driver generalizing chip with
  | done value => exact ⟨List.prefix_refl _, id⟩
  | ask act next ih =>
    refine ⟨exists_answers chip act, fun reply after ⟨ready, hrun, hreplies⟩ => ?_⟩
    have hgrown := (grows_run hrun).trans (grows_replies hreplies)
    exact (ih reply after).mono fun _ _ h => hgrown.trans h

theorem ends_status {next : UInt8 → Driver α} (hP : Stable P) (h : P chip)
    (hnext : ∀ status ready, P ready → ready.overdue = chip.overdue → ready.StatusIs status →
      (next status).Ends Answers goal ready.polled) :
    (Ports.inByte 0x64 >>= next).Ends Answers goal chip := by
  refine ends_request_bind (exists_answers _ _) ?_
  rintro status after ⟨ready, hrun, hreplies⟩
  obtain ⟨hstatus, rfl⟩ : ready.StatusIs status ∧ after = ready.polled := hreplies
  exact hnext status ready (hP.run h hrun) (kept_run hrun).1 hstatus

theorem ends_data {next : UInt8 → Driver α} (hP : Stable P) (h : P chip)
    (hnext : ∀ value ready, P ready → ready.overdue = chip.overdue →
      (∀ byte fromMouse, ready.output = some (byte, fromMouse) → value = byte) →
      (next value).Ends Answers goal ready.emptied) :
    (Ports.inByte 0x60 >>= next).Ends Answers goal chip := by
  refine ends_request_bind (exists_answers _ _) ?_
  rintro value after ⟨ready, hrun, hreplies⟩
  obtain ⟨hvalue, rfl⟩ : (∀ byte fromMouse, ready.output = some (byte, fromMouse) → value = byte) ∧
    after = ready.emptied := hreplies
  exact hnext value ready (hP.run h hrun) (kept_run hrun).1 hvalue

theorem ends_write {next : Unit → Driver α} {address : UInt16} {value : UInt8} (hP : Stable P)
    (h : P chip) (hnext : ∀ ready, P ready → (next ()).Ends Answers goal (ready.written address value)) :
    (Ports.outByte address value >>= next).Ends Answers goal chip := by
  refine ends_request_bind (exists_answers _ _) ?_
  rintro _ after ⟨ready, hrun, rfl⟩
  exact hnext ready (hP.run h hrun)

theorem overdue_polled (howes : chip.Owes) : chip.polled.overdue = chip.overdue + 1 := if_pos howes

/-- The controller has had something to do for too long. Nothing has been lost. -/
structure Stalled (chip : Chip) : Prop where
  overdue : 100000 ≤ chip.overdue
  lost : chip.lost = []

def OrStalled (done : Chip → Prop) (ok : Bool) (after : Chip) : Prop :=
  (ok = true ∧ done after) ∨ (ok = false ∧ after.Stalled)

theorem ends_waitForInputClear (hP : Stable P) (h : P chip) :
    Ports.ps2WaitForInputClear.Ends Answers (OrStalled fun after => P after ∧ after.input = none)
      chip := by
  refine (ends_attempts (fun passed after => P after ∧ passed ≤ after.overdue) 100000 0 ?_ ?_
    ⟨h, Nat.zero_le _⟩).bind fun _ _ h => h
  · rintro passed chip - ⟨h, hpassed⟩
    refine ends_status hP h fun status ready hready hoverdue hstatus => ends_pure ?_
    by_cases hclear : status &&& 0x02 = 0
    · rw [if_pos hclear]
      refine .inr ⟨(), rfl, .inl ⟨rfl, hP.wait hready, ?_⟩⟩
      exact not_not.mp fun hinput => hstatus.input.mpr hinput hclear
    · rw [if_neg hclear]
      refine .inl ⟨rfl, hP.wait hready, ?_⟩
      rw [overdue_polled (.inl (hstatus.input.mp hclear)), hoverdue]
      omega
  · rintro chip ⟨h, hpassed⟩
    exact .inr ⟨rfl, by omega, hP.lost h⟩

theorem ends_guarded {step next : Driver Bool} {done done' : Chip → Prop}
    (h : step.Ends Answers (OrStalled done) chip)
    (hnext : ∀ after, done after → next.Ends Answers (OrStalled done') after) :
    (step >>= fun ok => if ok = true then next else pure false).Ends Answers (OrStalled done') chip := by
  refine h.bind fun ok after hafter => ?_
  rcases hafter with ⟨rfl, hafter⟩ | ⟨rfl, hstalled⟩
  · rw [if_pos rfl]
    exact hnext after hafter
  · rw [if_neg nofun]
    exact ends_pure (.inr ⟨rfl, hstalled⟩)

/-- The driver writes when the last byte has been taken. -/
theorem ends_waitAndWrite {address : UInt16} {value : UInt8} {done : Chip → Prop}
    (hP : Stable P) (h : P chip)
    (hdone : ∀ ready, P ready → ready.input = none → done (ready.written address value)) :
    (do
      if ← Ports.ps2WaitForInputClear then
        Ports.outByte address value
        pure true
      else pure false : Driver Bool).Ends Answers
        (OrStalled fun after => done after ∧ after.input = some (address, value)) chip :=
  ends_guarded (ends_waitForInputClear hP h) fun _ hafter =>
    ends_write hP.toSteady.free hafter fun ready hready =>
      ends_pure (.inl ⟨rfl, hdone ready hready.1 hready.2, rfl⟩)

/-- A wait for a byte, while the controller owes one. -/
theorem ends_waitForOutputByte {requireMouseData : Bool} {goal : Option UInt8 → Chip → Prop}
    (hP : Stable P) (h : P chip)
    (hskip : ∀ chip byte, requireMouseData = true → P chip → chip.output = some (byte, false) →
      P chip.emptied)
    (howes : ∀ chip, P chip →
      (∀ byte fromMouse, chip.output = some (byte, fromMouse) →
        requireMouseData = true ∧ fromMouse = false) → chip.Owes)
    (hgoal : ∀ ready byte fromMouse, P ready → ready.output = some (byte, fromMouse) →
      (requireMouseData = true → fromMouse = true) → goal (some byte) ready.emptied)
    (hstalled : ∀ after : Chip, after.Stalled → goal none after) :
    (Ports.ps2WaitForOutputByte requireMouseData).Ends Answers goal chip := by
  refine ends_attempts (fun passed after => P after ∧ passed ≤ after.overdue) 100000 0 ?_
    (fun after hafter => hstalled after ⟨by omega, hP.lost hafter.1⟩) ⟨h, Nat.zero_le _⟩
  rintro passed chip - ⟨h, hpassed⟩
  refine ends_status hP h fun status ready hready hoverdue hstatus => ?_
  by_cases hempty : status &&& 0x01 = 0
  · rw [if_neg (not_not.mpr hempty)]
    refine ends_pure (.inl ⟨rfl, hP.wait hready, ?_⟩)
    have houtput : ready.output = none := not_not.mp fun hfull => hstatus.output.mpr hfull hempty
    rw [overdue_polled (howes ready hready fun byte fromMouse hfull => ?_)]
    · omega
    · exact absurd (houtput.symm.trans hfull) nofun
  · rw [if_pos hempty]
    obtain ⟨⟨byte, fromMouse⟩, houtput⟩ := Option.ne_none_iff_exists'.mp (hstatus.output.mp hempty)
    have hmouse := hstatus.mouse byte fromMouse houtput
    by_cases hwanted : requireMouseData = false ∨ status &&& 0x20 ≠ 0
    · refine ends_data (hP.full (byte, fromMouse)) ⟨hP.wait hready, houtput⟩
        fun value after hafter _ hvalue => ends_pure (.inr ⟨value, by rw [if_pos hwanted], ?_⟩)
      rw [hvalue byte fromMouse hafter.2]
      refine hgoal after byte fromMouse hafter.1 hafter.2 fun hrequired => ?_
      exact hmouse.mp (hwanted.resolve_left (by rw [hrequired]; nofun))
    · have hrequired : requireMouseData = true := by
        cases requireMouseData
        · exact absurd (.inl rfl) hwanted
        · rfl
      obtain rfl : fromMouse = false := by
        cases fromMouse
        · rfl
        · exact absurd (.inr (hmouse.mpr rfl)) hwanted
      refine ends_data (hP.full (byte, false)) ⟨hP.wait hready, houtput⟩
        fun value after hafter hkept _ => ends_pure (.inl ⟨by rw [if_neg hwanted], ?_, ?_⟩)
      · exact hskip after byte hrequired hafter.1 hafter.2
      · have hpolled := overdue_polled (howes ready hready fun other fromMouse hother => by
          rw [houtput] at hother
          obtain ⟨rfl, rfl⟩ := Prod.mk.inj (Option.some.inj hother)
          exact ⟨hrequired, rfl⟩)
        show passed + 1 ≤ after.overdue
        omega

/-- Emptying the output. The bytes behind the first one may be known to be of another kind. -/
theorem ends_flushOutputBuffer {Q : Chip → Prop} (hP : Stable P) (hQ : Stable Q) (h : P chip)
    (hempty : ∀ chip, P chip → chip.output = none → Q chip)
    (hfirst : ∀ chip, P chip → Q chip.emptied) (hnext : ∀ chip, Q chip → Q chip.emptied) :
    Ports.ps2FlushOutputBuffer.Ends Answers (fun _ after => Q after) chip := by
  have hround (R : Chip → Prop) (hR : Stable R) (hRempty : ∀ chip, R chip → chip.output = none → Q chip)
      (hRnext : ∀ chip, R chip → Q chip.emptied) (chip : Chip) (h : R chip) :
      Ends Answers (fun value after => (value = none ∧ Q after) ∨ ∃ found, value = some found ∧ Q after)
        (do
          let status ← Ports.inByte 0x64
          if status &&& 0x01 = 0 then pure (some ())
          else
            let _ ← Ports.inByte 0x60
            pure none) chip := by
    refine ends_status hR h fun status ready hready _ hstatus => ?_
    by_cases hfull : status &&& 0x01 = 0
    · rw [if_pos hfull]
      have houtput : ready.output = none := not_not.mp fun h => hstatus.output.mpr h hfull
      exact ends_pure (.inr ⟨(), rfl, hQ.wait (hRempty ready hready houtput)⟩)
    · rw [if_neg hfull]
      exact ends_data hR (hR.wait hready) fun _ after hafter _ _ =>
        ends_pure (.inl ⟨rfl, hRnext after hafter⟩)
  refine (ends_attempts (fun passed after => (passed = 0 ∧ P after) ∨ (0 < passed ∧ Q after)) 64 0 ?_
    ?_ (.inl ⟨rfl, h⟩)).bind fun _ after hafter => hafter
  · rintro passed chip - (⟨rfl, h⟩ | ⟨-, h⟩)
    · exact (hround P hP hempty hfirst chip h).mono fun value after hafter =>
        hafter.imp (fun h => ⟨h.1, .inr ⟨Nat.one_pos, h.2⟩⟩) fun ⟨found, hfound, h⟩ =>
          ⟨found, hfound, h⟩
    · exact (hround Q hQ (fun _ h _ => h) hnext chip h).mono fun value after hafter =>
        hafter.imp (fun h => ⟨h.1, .inr ⟨Nat.succ_pos _, h.2⟩⟩) fun ⟨found, hfound, h⟩ =>
          ⟨found, hfound, h⟩
  · rintro after (⟨h, -⟩ | ⟨-, h⟩)
    · exact absurd h (by decide)
    · exact h

end

end Chip

end DragonOS.Boot
