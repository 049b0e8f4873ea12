import DragonOS.Boot.Framebuffer
import Mathlib.Data.List.Induction

/-!
# The PCI inventory

`collectPciDevices` walks the handles that carry the PCI protocol and notes the
display and the multimedia controllers among them. The firmware's answers are
data: each handle is asked once, so an answer is a function of the handle's
index.

The table has room for 32 devices and the counts go on past it.
`PciInventory.Lists` says what an inventory of a list of handles is;
`collectPciDevices_lists` says that the function takes one.
-/

namespace DragonOS.Boot

-- ---------------------------------------------------------------------------
-- The firmware's answers
-- ---------------------------------------------------------------------------

/-- What a configuration read answers: its status, and what the caller's
variable holds afterwards. -/
structure RegisterReply where
  status : EfiStatus
  register : UInt32
  deriving DecidableEq, Repr

structure PciLocation where
  segment : UInt64
  bus : UInt64
  device : UInt64
  function : UInt64
  deriving DecidableEq, Repr

/-- The entries of the protocol the loader calls; a null entry is `none`.
`read` depends on the offset of the register. -/
structure PciIoProtocol where
  read : Option (UInt32 → RegisterReply)
  getLocation : Option PciLocation

structure HandleReply where
  status : EfiStatus
  pciIo : Option PciIoProtocol

/-- What `LocateHandleBuffer` answers; a zero address is the null pointer. -/
structure HandleBufferReply where
  status : EfiStatus
  handleCount : UInt64
  handles : UInt64
  deriving DecidableEq, Repr

def HandleBufferReply.Obtained (reply : HandleBufferReply) : Prop :=
  reply.status = efiSuccess ∧ reply.handles ≠ 0

instance HandleBufferReply.decidableObtained (reply : HandleBufferReply) :
    Decidable reply.Obtained := by
  unfold HandleBufferReply.Obtained; infer_instance

def HandleReply.registers (reply : HandleReply) : Option (UInt32 × UInt32) :=
  if reply.status ≠ efiSuccess then none
  else
    (reply.pciIo.bind (·.read)).bind fun read =>
      if (read 0).status ≠ efiSuccess ∨ (read 8).status ≠ efiSuccess then none
      else some ((read 0).register, (read 8).register)

/-- The loader clears the four variables before it asks for the location. -/
def HandleReply.location (reply : HandleReply) : PciLocation :=
  (reply.pciIo.bind (·.getLocation)).getD ⟨0, 0, 0, 0⟩

-- ---------------------------------------------------------------------------
-- The inventory
-- ---------------------------------------------------------------------------

def kernelPciKindGpu : UInt8 := 1
def kernelPciKindAudio : UInt8 := 2

structure PciDeviceInfo where
  vendorId : UInt16
  deviceId : UInt16
  classCode : UInt8
  subclass : UInt8
  progIf : UInt8
  kind : UInt8
  segment : UInt8
  bus : UInt8
  device : UInt8
  function : UInt8
  deriving DecidableEq, Inhabited, Repr

/-- The part of `KERNEL_BOOT_INFO` that describes PCI devices. `pciDevices` is
the memory from the start of the table on: the table is its first 32 entries. -/
structure PciInventory where
  gpuCount : UInt64
  audioCount : UInt64
  pciDeviceCount : UInt64
  pciDevices : Nat → PciDeviceInfo

def pciDeviceLimit : UInt64 := 32

def PciInventory.append (inventory : PciInventory) (entry : PciDeviceInfo) : PciInventory :=
  if inventory.pciDeviceCount < pciDeviceLimit then
    { inventory with
      pciDevices := Function.update inventory.pciDevices inventory.pciDeviceCount.toNat entry
      pciDeviceCount := inventory.pciDeviceCount + 1 }
  else inventory

def pciKind (classCode : UInt8) : UInt8 :=
  if classCode = 3 then kernelPciKindGpu
  else if classCode = 4 then kernelPciKindAudio
  else 0

/-- The body of the loop. -/
def collectPciDevice (inventory : PciInventory) (reply : HandleReply) : PciInventory :=
  match reply.registers with
  | none => inventory
  | some (idRegister, classRegister) =>
    let vendorId := (idRegister &&& 0xFFFF).toUInt16
    let deviceId := (idRegister >>> 16 &&& 0xFFFF).toUInt16
    if vendorId = 0xFFFF then inventory
    else
      let classCode := (classRegister >>> 24 &&& 0xFF).toUInt8
      let subclass := (classRegister >>> 16 &&& 0xFF).toUInt8
      let progIf := (classRegister >>> 8 &&& 0xFF).toUInt8
      let kind := pciKind classCode
      if kind = 0 then inventory
      else
        let inventory :=
          if kind = kernelPciKindGpu then
            { inventory with gpuCount := inventory.gpuCount + 1 }
          else { inventory with audioCount := inventory.audioCount + 1 }
        let location := reply.location
        inventory.append
          { vendorId, deviceId, classCode, subclass, progIf, kind
            segment := location.segment.toUInt8
            bus := location.bus.toUInt8
            device := location.device.toUInt8
            function := location.function.toUInt8 }

/-- The inventory, and the buffers given back to the firmware. -/
def collectPciDevices (reply : HandleBufferReply) (handleProtocol : Nat → HandleReply)
    (inventory : PciInventory) : PciInventory × List UInt64 :=
  if reply.status ≠ efiSuccess ∨ reply.handles = 0 then (inventory, [])
  else
    ((List.range reply.handleCount.toNat).foldl
      (fun inventory handleIndex => collectPciDevice inventory (handleProtocol handleIndex))
      inventory, [reply.handles])

-- ---------------------------------------------------------------------------
-- What an inventory lists
-- ---------------------------------------------------------------------------

def HandleReply.hasClass (classCode : Nat) (reply : HandleReply) : Bool :=
  match reply.registers with
  | none => false
  | some (idRegister, classRegister) =>
    decide (idRegister.toNat % 2 ^ 16 ≠ 0xFFFF ∧ classRegister.toNat / 2 ^ 24 = classCode)

/-- The devices worth an entry: display controllers and multimedia devices. -/
def HandleReply.listed (reply : HandleReply) : Bool := reply.hasClass 3 || reply.hasClass 4

structure PciDeviceInfo.Describes (entry : PciDeviceInfo) (reply : HandleReply)
    (idRegister classRegister : UInt32) : Prop where
  registers : reply.registers = some (idRegister, classRegister)
  vendorId : entry.vendorId.toNat = idRegister.toNat % 2 ^ 16
  deviceId : entry.deviceId.toNat = idRegister.toNat / 2 ^ 16
  classCode : entry.classCode.toNat = classRegister.toNat / 2 ^ 24
  subclass : entry.subclass.toNat = classRegister.toNat / 2 ^ 16 % 2 ^ 8
  progIf : entry.progIf.toNat = classRegister.toNat / 2 ^ 8 % 2 ^ 8
  kind : entry.kind =
    if classRegister.toNat / 2 ^ 24 = 3 then kernelPciKindGpu else kernelPciKindAudio
  segment : entry.segment = reply.location.segment.toUInt8
  bus : entry.bus = reply.location.bus.toUInt8
  device : entry.device = reply.location.device.toUInt8
  function : entry.function = reply.location.function.toUInt8

/-- The inventory of the handles that gave these answers, taken in memory that
held `before`. -/
structure PciInventory.Lists (inventory : PciInventory) (replies : List HandleReply)
    (before : Nat → PciDeviceInfo) : Prop where
  gpuCount : inventory.gpuCount.toNat = replies.countP (·.hasClass 3)
  audioCount : inventory.audioCount.toNat = replies.countP (·.hasClass 4)
  pciDeviceCount : inventory.pciDeviceCount.toNat =
    min 32 (inventory.gpuCount.toNat + inventory.audioCount.toNat)
  entries : ∀ i < inventory.pciDeviceCount.toNat, ∃ reply idRegister classRegister,
    (replies.filter (·.listed))[i]? = some reply ∧
      (inventory.pciDevices i).Describes reply idRegister classRegister
  untouched : ∀ i, inventory.pciDeviceCount.toNat ≤ i → inventory.pciDevices i = before i

-- ---------------------------------------------------------------------------
-- One handle
-- ---------------------------------------------------------------------------

section
variable {reply : HandleReply} {inventory : PciInventory}

theorem toNat_low16 (register : UInt32) :
    (register &&& 0xFFFF).toUInt16.toNat = register.toNat % 2 ^ 16 := by
  simp [Nat.and_two_pow_sub_one_eq_mod _ 16]

theorem toNat_high16 (register : UInt32) :
    (register >>> 16 &&& 0xFFFF).toUInt16.toNat = register.toNat / 2 ^ 16 := by
  have := register.toNat_lt
  simp [Nat.and_two_pow_sub_one_eq_mod _ 16, Nat.shiftRight_eq_div_pow]
  omega

theorem toNat_byte (register shift : UInt32) (hshift : shift.toNat < 32) :
    (register >>> shift &&& 0xFF).toUInt8.toNat =
      register.toNat / 2 ^ shift.toNat % 2 ^ 8 := by
  simp [Nat.and_two_pow_sub_one_eq_mod _ 8, Nat.shiftRight_eq_div_pow, Nat.mod_eq_of_lt hshift]

theorem toNat_topByte (register : UInt32) :
    (register >>> 24 &&& 0xFF).toUInt8.toNat = register.toNat / 2 ^ 24 := by
  have := register.toNat_lt
  rw [toNat_byte register 24 (by decide)]
  exact Nat.mod_eq_of_lt (show register.toNat / 2 ^ 24 < 2 ^ 8 by omega)

theorem HandleReply.hasClass_of_registers
    (h : reply.registers = some (idRegister, classRegister)) (classCode : Nat) :
    reply.hasClass classCode = decide (idRegister.toNat % 2 ^ 16 ≠ 0xFFFF ∧
      classRegister.toNat / 2 ^ 24 = classCode) := by
  simp only [hasClass, h]

theorem low16_eq_iff (register : UInt32) :
    (register &&& 0xFFFF).toUInt16 = 0xFFFF ↔ register.toNat % 2 ^ 16 = 0xFFFF := by
  rw [← UInt16.toNat_inj, toNat_low16]
  rfl

theorem topByte_eq_iff (register : UInt32) (classCode : UInt8) :
    (register >>> 24 &&& 0xFF).toUInt8 = classCode ↔
      register.toNat / 2 ^ 24 = classCode.toNat := by
  rw [← UInt8.toNat_inj, toNat_topByte]

theorem pciKind_topByte (register : UInt32) :
    pciKind (register >>> 24 &&& 0xFF).toUInt8 =
      if register.toNat / 2 ^ 24 = 3 then kernelPciKindGpu
      else if register.toNat / 2 ^ 24 = 4 then kernelPciKindAudio
      else 0 := by
  simp only [pciKind, topByte_eq_iff]
  rfl

theorem describes_registers (h : reply.registers = some (idRegister, classRegister))
    (hkind : kind =
      if classRegister.toNat / 2 ^ 24 = 3 then kernelPciKindGpu else kernelPciKindAudio) :
    PciDeviceInfo.Describes
      { vendorId := (idRegister &&& 0xFFFF).toUInt16
        deviceId := (idRegister >>> 16 &&& 0xFFFF).toUInt16
        classCode := (classRegister >>> 24 &&& 0xFF).toUInt8
        subclass := (classRegister >>> 16 &&& 0xFF).toUInt8
        progIf := (classRegister >>> 8 &&& 0xFF).toUInt8
        kind := kind
        segment := reply.location.segment.toUInt8
        bus := reply.location.bus.toUInt8
        device := reply.location.device.toUInt8
        function := reply.location.function.toUInt8 } reply idRegister classRegister where
  registers := h
  vendorId := toNat_low16 _
  deviceId := toNat_high16 _
  classCode := toNat_topByte _
  subclass := toNat_byte _ 16 (by decide)
  progIf := toNat_byte _ 8 (by decide)
  kind := hkind
  segment := rfl
  bus := rfl
  device := rfl
  function := rfl

/-- A handle that is not listed leaves the inventory alone; a listed one is
counted in its class and appended. -/
theorem collectPciDevice_cases (inventory : PciInventory) (reply : HandleReply) :
    (reply.listed = false ∧ collectPciDevice inventory reply = inventory) ∨
    ∃ entry idRegister classRegister, entry.Describes reply idRegister classRegister ∧
      ((reply.hasClass 3 ∧ ¬ reply.hasClass 4 ∧ collectPciDevice inventory reply =
          { inventory with gpuCount := inventory.gpuCount + 1 }.append entry) ∨
        (¬ reply.hasClass 3 ∧ reply.hasClass 4 ∧ collectPciDevice inventory reply =
          { inventory with audioCount := inventory.audioCount + 1 }.append entry)) := by
  cases hregisters : reply.registers with
  | none =>
    refine .inl ⟨?_, ?_⟩
    · simp only [HandleReply.listed, HandleReply.hasClass, hregisters, Bool.or_self]
    · simp only [collectPciDevice, hregisters]
  | some registers =>
    obtain ⟨idRegister, classRegister⟩ := registers
    have hclass := HandleReply.hasClass_of_registers hregisters
    simp only [collectPciDevice, hregisters, low16_eq_iff]
    by_cases hid : idRegister.toNat % 2 ^ 16 = 0xFFFF
    · refine .inl ⟨?_, if_pos hid⟩
      simp only [HandleReply.listed, hclass, hid, ne_eq, not_true_eq_false, false_and,
        decide_false, Bool.or_self]
    rw [if_neg hid]
    simp only [HandleReply.listed, hclass, pciKind_topByte, ne_eq, hid, not_false_eq_true, true_and]
    have hgpuKind : kernelPciKindGpu ≠ 0 := by decide
    have haudioKind : kernelPciKindAudio ≠ 0 := by decide
    have hkinds : kernelPciKindAudio ≠ kernelPciKindGpu := by decide
    by_cases hgpu : classRegister.toNat / 2 ^ 24 = 3
    · refine .inr ⟨_, _, _, describes_registers hregisters (if_pos hgpu).symm, .inl ?_⟩
      simp only [hgpu, Nat.reduceEqDiff, if_true, hgpuKind, if_false, decide_true, decide_false,
        Bool.false_eq_true, not_false_eq_true, true_and]
    by_cases haudio : classRegister.toNat / 2 ^ 24 = 4
    · refine .inr ⟨_, _, _, describes_registers hregisters (if_neg hgpu).symm, .inr ?_⟩
      simp only [haudio, Nat.reduceEqDiff, if_true, haudioKind, hkinds, if_false, decide_true,
        decide_false, Bool.false_eq_true, not_false_eq_true, true_and]
    · refine .inl ⟨?_, ?_⟩
      · simp only [hgpu, haudio, decide_false, Bool.or_self]
      · simp only [hgpu, haudio, if_false, if_true]

theorem HandleReply.hasClass_unique (h : reply.hasClass first) (h' : reply.hasClass second) :
    first = second := by
  cases hregisters : reply.registers with
  | none => simp only [hasClass, hregisters, Bool.false_eq_true] at h
  | some registers =>
    rw [hasClass_of_registers hregisters, decide_eq_true_eq] at h h'
    exact h.2.symm.trans h'.2

end

-- ---------------------------------------------------------------------------
-- Every handle
-- ---------------------------------------------------------------------------

/-- No device is counted twice, so the listed ones are as many as the two counts
say. -/
theorem length_filter_listed (replies : List HandleReply) :
    (replies.filter (·.listed)).length =
      replies.countP (·.hasClass 3) + replies.countP (·.hasClass 4) := by
  induction replies with
  | nil => rfl
  | cons reply replies ih =>
    have honce : ¬ (reply.hasClass 3 ∧ reply.hasClass 4) := fun h =>
      absurd (HandleReply.hasClass_unique h.1 h.2) (by decide)
    rw [← List.countP_eq_length_filter] at ih ⊢
    rw [List.countP_cons, List.countP_cons, List.countP_cons, ih]
    simp only [HandleReply.listed, Bool.or_eq_true]
    split <;> split <;> split <;> first | omega | tauto

theorem toNat_succ_of_lt (count : UInt64) (h : count.toNat + 1 < 2 ^ 64) :
    (count + 1).toNat = count.toNat + 1 := by
  rw [UInt64.toNat_add]
  exact Nat.mod_eq_of_lt h

namespace PciInventory

variable {inventory counted : PciInventory} {replies : List HandleReply}
  {reply : HandleReply} {before : Nat → PciDeviceInfo}

@[simp] theorem append_gpuCount : (inventory.append entry).gpuCount = inventory.gpuCount := by
  unfold append
  split <;> rfl

@[simp] theorem append_audioCount : (inventory.append entry).audioCount = inventory.audioCount := by
  unfold append
  split <;> rfl

theorem append_room (entry : PciDeviceInfo) (h : inventory.pciDeviceCount.toNat < 32) :
    (inventory.append entry).pciDeviceCount.toNat = inventory.pciDeviceCount.toNat + 1 ∧
    (inventory.append entry).pciDevices =
      Function.update inventory.pciDevices inventory.pciDeviceCount.toNat entry := by
  have hroom : inventory.pciDeviceCount < pciDeviceLimit := h
  rw [append, if_pos hroom]
  exact ⟨toNat_succ_of_lt _ (by omega), rfl⟩

theorem append_full (h : ¬ inventory.pciDeviceCount.toNat < 32) :
    inventory.append entry = inventory := by
  have hfull : ¬ inventory.pciDeviceCount < pciDeviceLimit := h
  rw [append, if_neg hfull]

theorem lists_nil (before : Nat → PciDeviceInfo) : Lists ⟨0, 0, 0, before⟩ [] before where
  gpuCount := rfl
  audioCount := rfl
  pciDeviceCount := rfl
  entries _ hi := absurd hi (Nat.not_lt_zero _)
  untouched _ _ := rfl

theorem Lists.skip (h : inventory.Lists replies before) (hlisted : reply.listed = false) :
    inventory.Lists (replies ++ [reply]) before := by
  obtain ⟨hgpu, haudio⟩ := Bool.or_eq_false_iff.mp hlisted
  have hfilter : (replies ++ [reply]).filter (·.listed) = replies.filter (·.listed) := by
    simp [hlisted]
  exact {
    gpuCount := by simp [h.gpuCount, hgpu]
    audioCount := by simp [h.audioCount, haudio]
    pciDeviceCount := h.pciDeviceCount
    entries := by rw [hfilter]; exact h.entries
    untouched := h.untouched }

theorem Lists.append (h : inventory.Lists replies before) (hlisted : reply.listed)
    (hentry : PciDeviceInfo.Describes entry reply idRegister classRegister)
    (hcounted : counted.pciDeviceCount = inventory.pciDeviceCount ∧
      counted.pciDevices = inventory.pciDevices)
    (hgpu : counted.gpuCount.toNat = (replies ++ [reply]).countP (·.hasClass 3))
    (haudio : counted.audioCount.toNat = (replies ++ [reply]).countP (·.hasClass 4)) :
    (counted.append entry).Lists (replies ++ [reply]) before := by
  have hfilter : (replies ++ [reply]).filter (·.listed) = replies.filter (·.listed) ++ [reply] := by
    simp [hlisted]
  have hbefore := length_filter_listed replies
  have hafter := length_filter_listed (replies ++ [reply])
  rw [hfilter, List.length_append, List.length_singleton, ← hgpu, ← haudio, hbefore,
    ← h.gpuCount, ← h.audioCount] at hafter
  have hcount := h.pciDeviceCount
  have hlength : (replies.filter (·.listed)).length =
      inventory.gpuCount.toNat + inventory.audioCount.toNat := by
    rw [hbefore, h.gpuCount, h.audioCount]
  -- The entries already there stay the first ones of the longer list.
  have hkept : ∀ i < inventory.pciDeviceCount.toNat, ∃ reply' idRegister classRegister,
      ((replies ++ [reply]).filter (·.listed))[i]? = some reply' ∧
        (inventory.pciDevices i).Describes reply' idRegister classRegister := by
    intro i hi
    obtain ⟨reply', idRegister, classRegister, hreply, hdescribes⟩ := h.entries i hi
    refine ⟨reply', idRegister, classRegister, ?_, hdescribes⟩
    rw [hfilter, List.getElem?_append_left (by omega), hreply]
  by_cases hroom : inventory.pciDeviceCount.toNat < 32
  · obtain ⟨hnext, hdevices⟩ := append_room entry (hcounted.1 ▸ hroom)
    rw [hcounted.1] at hnext hdevices
    exact {
      gpuCount := by rw [append_gpuCount, hgpu]
      audioCount := by rw [append_audioCount, haudio]
      pciDeviceCount := by rw [hnext, append_gpuCount, append_audioCount]; omega
      entries := by
        intro i hi
        rcases Nat.lt_or_ge i inventory.pciDeviceCount.toNat with hold | hnew
        · rw [hdevices, Function.update_of_ne (by omega), hcounted.2]
          exact hkept i hold
        · obtain rfl : i = inventory.pciDeviceCount.toNat := by omega
          have hlast : inventory.pciDeviceCount.toNat = (replies.filter (·.listed)).length := by
            omega
          rw [hdevices, Function.update_self]
          refine ⟨reply, _, _, ?_, hentry⟩
          rw [hfilter, hlast, List.getElem?_concat_length]
      untouched := by
        intro i hi
        rw [hdevices, Function.update_of_ne (by omega), hcounted.2]
        exact h.untouched i (by omega) }
  · rw [append_full (hcounted.1 ▸ hroom)]
    exact {
      gpuCount := hgpu
      audioCount := haudio
      pciDeviceCount := by rw [hcounted.1]; omega
      entries := by rw [hcounted.1, hcounted.2]; exact hkept
      untouched := by rw [hcounted.1, hcounted.2]; exact h.untouched }

/-- One pass of the loop. The counts cannot wrap around, as no list of handles is
that long. -/
theorem Lists.collect (h : inventory.Lists replies before)
    (hlength : (replies ++ [reply]).length < 2 ^ 64) :
    (collectPciDevice inventory reply).Lists (replies ++ [reply]) before := by
  rw [List.length_append, List.length_singleton] at hlength
  have hgpu : inventory.gpuCount.toNat + 1 < 2 ^ 64 :=
    Nat.lt_of_le_of_lt (Nat.succ_le_succ (h.gpuCount ▸ List.countP_le_length)) hlength
  have haudio : inventory.audioCount.toNat + 1 < 2 ^ 64 :=
    Nat.lt_of_le_of_lt (Nat.succ_le_succ (h.audioCount ▸ List.countP_le_length)) hlength
  rcases collectPciDevice_cases inventory reply with
    ⟨hskip, heq⟩ | ⟨entry, _, _, hentry, ⟨hyes, hno, heq⟩ | ⟨hno, hyes, heq⟩⟩
  · rw [heq]
    exact h.skip hskip
  · rw [heq]
    refine h.append (by simp [HandleReply.listed, hyes]) hentry ⟨rfl, rfl⟩ ?_ ?_
    · simp [toNat_succ_of_lt _ hgpu, h.gpuCount, hyes]
    · simp [h.audioCount, hno]
  · rw [heq]
    refine h.append (by simp [HandleReply.listed, hyes]) hentry ⟨rfl, rfl⟩ ?_ ?_
    · simp [h.gpuCount, hno]
    · simp [toNat_succ_of_lt _ haudio, h.audioCount, hyes]

theorem lists_foldl (before : Nat → PciDeviceInfo) (replies : List HandleReply)
    (hlength : replies.length < 2 ^ 64) :
    (replies.foldl collectPciDevice ⟨0, 0, 0, before⟩).Lists replies before := by
  induction replies using List.reverseRecOn with
  | nil => exact lists_nil before
  | append_singleton replies reply ih =>
    rw [List.foldl_append]
    refine (ih ?_).collect hlength
    rw [List.length_append, List.length_singleton] at hlength
    omega

end PciInventory

def HandleBufferReply.answers (located : HandleBufferReply) (handleProtocol : Nat → HandleReply) :
    List HandleReply :=
  if located.Obtained then (List.range located.handleCount.toNat).map handleProtocol else []

/-- The inventory taken from zero counts lists the devices found, and the handle
buffer is freed once if there is one. -/
theorem collectPciDevices_lists (located : HandleBufferReply) (handleProtocol : Nat → HandleReply)
    (before : Nat → PciDeviceInfo) :
    (collectPciDevices located handleProtocol ⟨0, 0, 0, before⟩).1.Lists
      (located.answers handleProtocol) before ∧
    (collectPciDevices located handleProtocol ⟨0, 0, 0, before⟩).2 =
      if located.Obtained then [located.handles] else [] := by
  by_cases hobtained : located.Obtained
  · have hgo : ¬ (located.status ≠ efiSuccess ∨ located.handles = 0) := fun h =>
      h.elim (· hobtained.1) hobtained.2
    rw [collectPciDevices, if_neg hgo, HandleBufferReply.answers, if_pos hobtained,
      if_pos hobtained]
    refine ⟨?_, rfl⟩
    have hloop := PciInventory.lists_foldl before
      ((List.range located.handleCount.toNat).map handleProtocol)
      (by rw [List.length_map, List.length_range]; exact located.handleCount.toNat_lt)
    rwa [List.foldl_map] at hloop
  · have hstop : located.status ≠ efiSuccess ∨ located.handles = 0 := by
      by_contra h
      rw [not_or, not_not] at h
      exact hobtained h
    rw [collectPciDevices, if_pos hstop, HandleBufferReply.answers, if_neg hobtained,
      if_neg hobtained]
    exact ⟨PciInventory.lists_nil before, rfl⟩

end DragonOS.Boot
