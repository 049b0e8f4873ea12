import DragonOS.Boot.ExitBoot
import DragonOS.Boot.Pci

/-!
# Pool memory on the way out

`efiMain` follows the loader's entry point through its firmware calls. What it
draws is left out: drawing asks the firmware for nothing. The calls are made in
a fixed order, so the answers are data; those of `exitBootServicesForKernel` may
depend on its own calls.

The only buffer the loader gives back is the list of PCI handles. A run that
returns to the firmware has released what it obtained exactly when it obtained
nothing else (`efiMain_held_iff`).
-/

namespace DragonOS.Boot

-- ---------------------------------------------------------------------------
-- Pool memory
-- ---------------------------------------------------------------------------

inductive PoolEvent
  | obtained (buffer : UInt64)
  | freed (buffer : UInt64)
  deriving DecidableEq, Repr

/-- The buffers still held after the events, oldest event first. -/
def held (events : List PoolEvent) : List UInt64 :=
  events.foldl (fun buffers event =>
    match event with
    | .obtained buffer => buffer :: buffers
    | .freed buffer => buffers.erase buffer) []

def PoolReply.Obtained (reply : PoolReply) : Prop :=
  reply.status = efiSuccess ∧ reply.buffer ≠ 0

instance PoolReply.decidableObtained (reply : PoolReply) : Decidable reply.Obtained := by
  unfold PoolReply.Obtained; infer_instance

def PoolReply.events (reply : PoolReply) : List PoolEvent :=
  if reply.Obtained then [.obtained reply.buffer] else []

def HandleBufferReply.events (reply : HandleBufferReply) : List PoolEvent :=
  if reply.Obtained then [.obtained reply.handles] else []

def BootCall.events : BootCall → List PoolEvent
  | .allocatePool _ reply => reply.events
  | .getMemoryMap .. | .exitBootServices .. => []

/-- The trace has its newest call first. -/
def Trace.events (trace : Trace) : List PoolEvent := trace.reverse.flatMap BootCall.events

-- ---------------------------------------------------------------------------
-- The entry point
-- ---------------------------------------------------------------------------

/-- Every answer of the firmware. `services` are the calls that leave boot
services behind. -/
structure Firmware where
  graphicsOutput : LocateReply
  shadow : PoolReply
  compose : PoolReply
  pciHandles : HandleBufferReply
  handleProtocol : Nat → HandleReply
  services : BootServices

/-- The kernel's mouse loop never returns. -/
inductive Ending
  | returned (status : EfiStatus) (events : List PoolEvent)
  | mouseLoop (bootInfo : KernelBootInfo) (inventory : PciInventory) (events : List PoolEvent)

/-- `none` when `fuel` rounds of the memory map loop did not suffice. The record
`framebufferInfo` and the table `pciDevices` are not initialised. -/
def efiMain (firmware : Firmware) (imageHandle : UInt64) (framebufferInfo : FramebufferInfo)
    (pciDevices : Nat → PciDeviceInfo) (fuel : Nat) : Option Ending :=
  let (status, _) := initializeFramebuffer firmware.graphicsOutput framebufferInfo
  if status ≠ efiSuccess then some (.returned status [])
  else
    let bootInfo : KernelBootInfo := ⟨0, 0, 0, 0, 0, 0⟩
    let (inventory, freed) := collectPciDevices firmware.pciHandles firmware.handleProtocol
      ⟨0, 0, 0, pciDevices⟩
    let events := firmware.shadow.events ++ firmware.compose.events ++
      firmware.pciHandles.events ++ freed.map .freed
    match exitBootServicesForKernel firmware.services imageHandle fuel bootInfo with
    | none => none
    | some outcome =>
      let events := events ++ outcome.trace.events
      if outcome.status ≠ efiSuccess then some (.returned outcome.status events)
      else some (.mouseLoop outcome.bootInfo inventory events)

-- ---------------------------------------------------------------------------
-- What is held
-- ---------------------------------------------------------------------------

section
variable {events : List PoolEvent} {firmware : Firmware} {services : BootServices}

theorem held_append_obtained (events : List PoolEvent) (p : Prop) [Decidable p]
    (buffer : UInt64) :
    held (events ++ if p then [.obtained buffer] else []) =
      (if p then [buffer] else []) ++ held events := by
  rw [held, List.foldl_append]
  split <;> rfl

theorem ite_singleton_eq_nil {p : Prop} [Decidable p] {item : α} :
    (if p then [item] else []) = [] ↔ ¬ p := by
  split <;> simp [*]

theorem freed_collectPciDevices (located : HandleBufferReply) (handleProtocol : Nat → HandleReply)
    (inventory : PciInventory) : (collectPciDevices located handleProtocol inventory).2 =
      if located.Obtained then [located.handles] else [] := by
  rw [collectPciDevices]
  split
  next hstop => exact (if_neg fun hobtained => hstop.elim (· hobtained.1) hobtained.2).symm
  next hgo =>
    rw [not_or, not_not] at hgo
    exact (if_pos hgo).symm

theorem held_append_pci (events : List PoolEvent) (located : HandleBufferReply)
    (handleProtocol : Nat → HandleReply) (pciDevices : Nat → PciDeviceInfo) :
    held (events ++ located.events ++
      (collectPciDevices located handleProtocol ⟨0, 0, 0, pciDevices⟩).2.map .freed) =
      held events := by
  rw [freed_collectPciDevices, held, List.foldl_append, List.foldl_append, HandleBufferReply.events]
  split
  next => exact List.erase_cons_head _ _
  next => rfl

theorem Trace.events_cons (call : BootCall) (trace : Trace) :
    Trace.events (call :: trace) = Trace.events trace ++ call.events := by
  simp [Trace.events]

@[simp] theorem Trace.events_getMemoryMap (trace : Trace) :
    Trace.events (.getMemoryMap size address reply :: trace) = trace.events :=
  (Trace.events_cons _ trace).trans (List.append_nil _)

@[simp] theorem Trace.events_exitBootServices (trace : Trace) :
    Trace.events (.exitBootServices handle key status :: trace) = trace.events :=
  (Trace.events_cons _ trace).trans (List.append_nil _)

theorem exitLoop_events
    (h : exitLoop services imageHandle memoryMap memoryMapSize fuel bootInfo trace =
      some outcome) : outcome.trace.events = trace.events := by
  induction fuel generalizing bootInfo trace with
  | zero => cases h
  | succ fuel ih =>
    simp only [exitLoop] at h
    split at h
    next =>
      cases h
      simp
    next =>
      split at h
      next =>
        cases h
        simp
      next =>
        split at h
        next =>
          cases h
          simp
        next => simpa using ih h

def BootServices.mapPool (services : BootServices) : PoolReply :=
  let reply := services.getMemoryMap [] 0 0
  services.allocatePool [.getMemoryMap 0 0 reply] (reply.memoryMapSize + reply.descriptorSize * 8)

def BootServices.MapObtained (services : BootServices) : Prop :=
  (services.getMemoryMap [] 0 0).status = efiBufferTooSmall ∧ services.mapPool.Obtained

instance (services : BootServices) : Decidable services.MapObtained := by
  unfold BootServices.MapObtained; infer_instance

theorem exitBootServicesForKernel_events
    (h : exitBootServicesForKernel services imageHandle fuel bootInfo = some outcome) :
    outcome.trace.events =
      if services.MapObtained then [.obtained services.mapPool.buffer] else [] := by
  have hmap : (if services.MapObtained then [PoolEvent.obtained services.mapPool.buffer] else []) =
      if (services.getMemoryMap [] 0 0).status = efiBufferTooSmall then services.mapPool.events
      else [] := by
    unfold BootServices.MapObtained PoolReply.events
    by_cases hsizing : (services.getMemoryMap [] 0 0).status = efiBufferTooSmall <;> simp [hsizing]
  rw [hmap]
  simp only [exitBootServicesForKernel] at h
  split at h
  next hsizing =>
    cases h
    rw [if_neg hsizing]
    rfl
  next hsizing =>
    rw [if_pos (not_not.mp hsizing)]
    split at h
    next =>
      cases h
      exact Trace.events_cons _ _
    next => exact (exitLoop_events h).trans (Trace.events_cons _ _)

-- ---------------------------------------------------------------------------
-- When nothing is held
-- ---------------------------------------------------------------------------

/-- The graphics mode is missing or turned down. -/
def Firmware.Refused (firmware : Firmware) : Prop :=
  ¬ (firmware.graphicsOutput.status = efiSuccess ∧
    ∃ mode, firmware.graphicsOutput.protocol = some mode ∧ ¬ mode.TurnedDown)

def Firmware.NoPool (firmware : Firmware) : Prop :=
  ¬ firmware.shadow.Obtained ∧ ¬ firmware.compose.Obtained ∧ ¬ firmware.services.MapObtained

/-- A run that returns to the firmware holds nothing exactly when the graphics
mode was refused or no pool memory was to be had. -/
theorem efiMain_held_iff (h : efiMain firmware imageHandle framebufferInfo pciDevices fuel =
    some (.returned status events)) : held events = [] ↔ firmware.Refused ∨ firmware.NoPool := by
  simp only [efiMain] at h
  split at h
  next hrefused =>
    cases h
    rw [ne_eq, initializeFramebuffer_success_iff] at hrefused
    exact iff_of_true rfl (.inl hrefused)
  next haccepted =>
    rw [ne_eq, initializeFramebuffer_success_iff, not_not] at haccepted
    have hkept : ¬ firmware.Refused := not_not.mpr haccepted
    split at h
    next => cases h
    next outcome hexit =>
      split at h
      next =>
        cases h
        have hshadow := held_append_obtained [] firmware.shadow.Obtained firmware.shadow.buffer
        rw [List.nil_append] at hshadow
        rw [exitBootServicesForKernel_events hexit, held_append_obtained, held_append_pci,
          PoolReply.events, PoolReply.events, held_append_obtained, hshadow]
        have hnil : held [] = [] := rfl
        simp only [List.append_eq_nil_iff, ite_singleton_eq_nil, hkept, Firmware.NoPool, false_or,
          hnil, and_true]
        tauto
      next => cases h

end

def plainMode : GopMode where
  horizontalResolution := 1024
  verticalResolution := 768
  pixelFormat := gopPixelBlueGreenRedReserved8Bit
  redMask := 0
  greenMask := 0
  blueMask := 0
  pixelsPerScanLine := 1024
  framebufferBase := 0x80000000
  framebufferSize := 0x300000

/-- Firmware that has memory for everybody and does not let go. -/
def clingingFirmware : Firmware where
  graphicsOutput := ⟨efiSuccess, some plainMode⟩
  shadow := ⟨efiSuccess, 0x1000000⟩
  compose := ⟨efiSuccess, 0x2000000⟩
  pciHandles := ⟨efiSuccess, 0, 0x3000000⟩
  handleProtocol _ := ⟨efiUnsupported, none⟩
  services :=
    { getMemoryMap _ size address :=
        ⟨if address = 0 then efiBufferTooSmall else efiSuccess, size + 48, 7, 48, 1⟩
      allocatePool _ _ := ⟨efiSuccess, 0x4000000⟩
      exitBootServices _ _ _ := efiUnsupported }

theorem efiMain_holds :
    ∃ events, efiMain clingingFirmware 1 default (fun _ => default) 1 =
        some (.returned efiUnsupported events) ∧
      held events = [0x4000000, 0x2000000, 0x1000000] :=
  ⟨_, rfl, by decide⟩

def poorFirmware : Firmware :=
  { clingingFirmware with
    shadow := ⟨efiUnsupported, 0⟩
    compose := ⟨efiUnsupported, 0⟩
    services := { clingingFirmware.services with allocatePool _ _ := ⟨efiUnsupported, 0⟩ } }

theorem efiMain_held_iff_poor :
    ∃ events, efiMain poorFirmware 1 default (fun _ => default) 1 =
        some (.returned efiUnsupported events) ∧
      (held events = [] ↔ poorFirmware.Refused ∨ poorFirmware.NoPool) := by
  have h : efiMain poorFirmware 1 default (fun _ => default) 1 =
      some (.returned efiUnsupported _) := rfl
  exact ⟨_, h, efiMain_held_iff h⟩

end DragonOS.Boot
