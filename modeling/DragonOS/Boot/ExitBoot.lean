import DragonOS.Boot.Framebuffer

/-!
# Leaving boot services

`exitBootServicesForKernel` fetches the memory map until the firmware accepts
its key. The firmware is arbitrary: each answer may depend on every earlier
call and answer. `trace` lists those calls, newest first.

When the function reports success, boot services have been left with the key
of the map it recorded, unless its very first call already succeeded: that
status is returned as it is. `exitBootServicesForKernel_handedOver_iff` states
both halves.
-/

namespace DragonOS.Boot

structure MemoryMapReply where
  status : EfiStatus
  memoryMapSize : UInt64
  mapKey : UInt64
  descriptorSize : UInt64
  descriptorVersion : UInt32
  deriving DecidableEq, Repr

structure PoolReply where
  status : EfiStatus
  buffer : UInt64
  deriving DecidableEq, Repr

inductive BootCall
  | getMemoryMap (memoryMapSize memoryMap : UInt64) (reply : MemoryMapReply)
  | allocatePool (size : UInt64) (reply : PoolReply)
  | exitBootServices (imageHandle mapKey : UInt64) (status : EfiStatus)
  deriving DecidableEq, Repr

abbrev Trace := List BootCall

/-- The boot services table; every answer may depend on the whole past. -/
structure BootServices where
  getMemoryMap : Trace → UInt64 → UInt64 → MemoryMapReply
  allocatePool : Trace → UInt64 → PoolReply
  exitBootServices : Trace → UInt64 → UInt64 → EfiStatus

/-- The part of `KERNEL_BOOT_INFO` the memory map fills. -/
structure KernelBootInfo where
  memoryMap : UInt64
  memoryMapSize : UInt64
  memoryMapKey : UInt64
  memoryDescriptorSize : UInt64
  memoryDescriptorVersion : UInt32
  memoryDescriptorCount : UInt64
  deriving DecidableEq, Inhabited, Repr

structure Outcome where
  status : EfiStatus
  bootInfo : KernelBootInfo
  trace : Trace
  deriving DecidableEq, Repr

def recordMemoryMap (memoryMap : UInt64) (reply : MemoryMapReply) : KernelBootInfo where
  memoryMap := memoryMap
  memoryMapSize := reply.memoryMapSize
  memoryMapKey := reply.mapKey
  memoryDescriptorSize := reply.descriptorSize
  memoryDescriptorVersion := reply.descriptorVersion
  memoryDescriptorCount :=
    if reply.descriptorSize = 0 then 0 else reply.memoryMapSize / reply.descriptorSize

variable (services : BootServices) (imageHandle : UInt64)

/-- The retry loop; `none` when `fuel` iterations did not suffice. -/
def exitLoop (memoryMap memoryMapSize : UInt64) :
    (fuel : Nat) → KernelBootInfo → Trace → Option Outcome
  | 0, _, _ => none
  | fuel + 1, bootInfo, trace =>
    let reply := services.getMemoryMap trace memoryMapSize memoryMap
    let trace := .getMemoryMap memoryMapSize memoryMap reply :: trace
    if reply.status ≠ efiSuccess then some ⟨reply.status, bootInfo, trace⟩
    else
      let bootInfo := recordMemoryMap memoryMap reply
      let status := services.exitBootServices trace imageHandle reply.mapKey
      let trace := .exitBootServices imageHandle reply.mapKey status :: trace
      if status = efiSuccess then some ⟨efiSuccess, bootInfo, trace⟩
      else if status ≠ efiInvalidParameter then some ⟨status, bootInfo, trace⟩
      else exitLoop memoryMap memoryMapSize fuel bootInfo trace

def exitBootServicesForKernel (fuel : Nat) (bootInfo : KernelBootInfo) : Option Outcome :=
  let reply := services.getMemoryMap [] 0 0
  let trace := [.getMemoryMap 0 0 reply]
  if reply.status ≠ efiBufferTooSmall then some ⟨reply.status, bootInfo, trace⟩
  else
    let memoryMapSize := reply.memoryMapSize + reply.descriptorSize * 8
    let pool := services.allocatePool trace memoryMapSize
    let trace := .allocatePool memoryMapSize pool :: trace
    if pool.status ≠ efiSuccess then some ⟨pool.status, bootInfo, trace⟩
    else exitLoop services imageHandle pool.buffer memoryMapSize fuel bootInfo trace

/-- The boot info describes the map of one `GetMemoryMap` call: its buffer and
the answered size, key, descriptor size and whole descriptors. -/
def KernelBootInfo.Describes (bootInfo : KernelBootInfo) (memoryMap : UInt64)
    (reply : MemoryMapReply) : Prop :=
  bootInfo.memoryMap = memoryMap ∧ bootInfo.memoryMapSize = reply.memoryMapSize ∧
  bootInfo.memoryMapKey = reply.mapKey ∧ bootInfo.memoryDescriptorSize = reply.descriptorSize ∧
  bootInfo.memoryDescriptorCount.toNat = reply.memoryMapSize.toNat / reply.descriptorSize.toNat

/-- The last call left boot services with the key of the memory map fetched
just before, and the boot info describes that map. -/
def Outcome.HandedOver (outcome : Outcome) : Prop :=
  ∃ memoryMapSize memoryMap reply earlier,
    outcome.trace = .exitBootServices imageHandle reply.mapKey efiSuccess ::
      .getMemoryMap memoryMapSize memoryMap reply :: earlier ∧
    outcome.bootInfo.Describes memoryMap reply

variable {services imageHandle}

theorem recordMemoryMap_describes (memoryMap : UInt64) (reply : MemoryMapReply) :
    (recordMemoryMap memoryMap reply).Describes memoryMap reply := by
  refine ⟨rfl, rfl, rfl, rfl, ?_⟩
  simp only [recordMemoryMap]
  split
  next hz => simp [hz]
  next => exact UInt64.toNat_div _ _

/-- One round either returns or records a map and asks again with a longer
trace, so success can only come from the branch that left boot services. -/
theorem exitLoop_handedOver
    (h : exitLoop services imageHandle memoryMap memoryMapSize fuel bootInfo trace = some outcome)
    (hs : outcome.status = efiSuccess) : outcome.HandedOver imageHandle := by
  induction fuel generalizing bootInfo trace with
  | zero => cases h
  | succ fuel ih =>
    simp only [exitLoop] at h
    split at h
    next hmap =>
      cases h
      exact absurd hs hmap
    next =>
      split at h
      next hexit =>
        cases h
        exact ⟨memoryMapSize, memoryMap, _, trace, by rw [hexit], recordMemoryMap_describes _ _⟩
      next hexit =>
        split at h
        next =>
          cases h
          exact absurd hs hexit
        next => exact ih h

theorem exitBootServicesForKernel_handedOver
    (hfirst : (services.getMemoryMap [] 0 0).status ≠ efiSuccess)
    (h : exitBootServicesForKernel services imageHandle fuel bootInfo = some outcome)
    (hs : outcome.status = efiSuccess) : outcome.HandedOver imageHandle := by
  simp only [exitBootServicesForKernel] at h
  split at h
  next =>
    cases h
    exact absurd hs hfirst
  next =>
    split at h
    next hpool =>
      cases h
      exact absurd hs hpool
    next => exact exitLoop_handedOver h hs

theorem exitBootServicesForKernel_early
    (hfirst : (services.getMemoryMap [] 0 0).status = efiSuccess) :
    exitBootServicesForKernel services imageHandle fuel bootInfo =
      some ⟨efiSuccess, bootInfo, [.getMemoryMap 0 0 (services.getMemoryMap [] 0 0)]⟩ := by
  have hstatus : efiSuccess ≠ efiBufferTooSmall := by decide
  simp only [exitBootServicesForKernel, hfirst, if_pos hstatus]

theorem not_handedOver_singleton (call : BootCall) :
    ¬ (Outcome.HandedOver imageHandle ⟨status, bootInfo, [call]⟩) := by
  rintro ⟨_, _, _, earlier, htrace, -⟩
  cases htrace

/-- Success hands the machine over on every run exactly when the first
`GetMemoryMap` does not report success. -/
theorem exitBootServicesForKernel_handedOver_iff (services : BootServices) (imageHandle : UInt64)
    (bootInfo : KernelBootInfo) :
    (∀ fuel outcome,
      exitBootServicesForKernel services imageHandle fuel bootInfo = some outcome →
      outcome.status = efiSuccess → outcome.HandedOver imageHandle) ↔
      (services.getMemoryMap [] 0 0).status ≠ efiSuccess := by
  constructor
  · intro h hfirst
    exact not_handedOver_singleton _ (h 0 _ (exitBootServicesForKernel_early hfirst) rfl)
  · intro hfirst fuel outcome h hs
    exact exitBootServicesForKernel_handedOver hfirst h hs

def satisfiedFirmware : BootServices where
  getMemoryMap _ size _ := ⟨efiSuccess, size, 7, 48, 1⟩
  allocatePool _ _ := ⟨efiSuccess, 0x1000⟩
  exitBootServices _ _ _ := efiSuccess

theorem satisfiedFirmware_not_handedOver :
    ∃ outcome, exitBootServicesForKernel satisfiedFirmware 1 0 default = some outcome ∧
      outcome.status = efiSuccess ∧ ¬ outcome.HandedOver 1 :=
  ⟨_, exitBootServicesForKernel_early rfl, rfl, not_handedOver_singleton _⟩

end DragonOS.Boot
