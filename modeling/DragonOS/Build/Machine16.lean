import DragonOS.Build.Decoder16
import DragonOS.Lib.Runs

/-!
# The machine that boots

A processor in real mode with its memory, the colour registers of a VGA and the two BIOS
services that the boot code calls. The firmware is outside of the code: a read may fail at
any time, a service leaves in some registers what it likes, and between two instructions
an interrupt may write where the firmware keeps its data.
-/

namespace DragonOS.Build

-- ---------------------------------------------------------------------------
-- The processor
-- ---------------------------------------------------------------------------

def lowHalf (word : UInt16) : UInt8 := word.toUInt8

def highHalf (word : UInt16) : UInt8 := (word >>> 8).toUInt8

/-- The registers, and the flags that an instruction of the decoder looks at. -/
structure Cpu where
  ax : UInt16
  cx : UInt16
  dx : UInt16
  bx : UInt16
  sp : UInt16
  bp : UInt16
  si : UInt16
  di : UInt16
  es : UInt16
  cs : UInt16
  ss : UInt16
  ds : UInt16
  ip : UInt16
  carry : Bool
  zero : Bool
  backward : Bool
  interrupts : Bool
  deriving DecidableEq, Repr

def Cpu.reg16 (cpu : Cpu) : Reg16 → UInt16
  | .ax => cpu.ax | .cx => cpu.cx | .dx => cpu.dx | .bx => cpu.bx
  | .sp => cpu.sp | .bp => cpu.bp | .si => cpu.si | .di => cpu.di

def Cpu.setReg16 (cpu : Cpu) (reg : Reg16) (value : UInt16) : Cpu :=
  match reg with
  | .ax => { cpu with ax := value }
  | .cx => { cpu with cx := value }
  | .dx => { cpu with dx := value }
  | .bx => { cpu with bx := value }
  | .sp => { cpu with sp := value }
  | .bp => { cpu with bp := value }
  | .si => { cpu with si := value }
  | .di => { cpu with di := value }

def Cpu.reg8 (cpu : Cpu) : Reg8 → UInt8
  | .al => lowHalf cpu.ax | .cl => lowHalf cpu.cx | .dl => lowHalf cpu.dx | .bl => lowHalf cpu.bx
  | .ah => highHalf cpu.ax | .ch => highHalf cpu.cx | .dh => highHalf cpu.dx | .bh => highHalf cpu.bx

def Cpu.setReg8 (cpu : Cpu) (reg : Reg8) (value : UInt8) : Cpu :=
  match reg with
  | .al => { cpu with ax := joinBytes value (highHalf cpu.ax) }
  | .cl => { cpu with cx := joinBytes value (highHalf cpu.cx) }
  | .dl => { cpu with dx := joinBytes value (highHalf cpu.dx) }
  | .bl => { cpu with bx := joinBytes value (highHalf cpu.bx) }
  | .ah => { cpu with ax := joinBytes (lowHalf cpu.ax) value }
  | .ch => { cpu with cx := joinBytes (lowHalf cpu.cx) value }
  | .dh => { cpu with dx := joinBytes (lowHalf cpu.dx) value }
  | .bh => { cpu with bx := joinBytes (lowHalf cpu.bx) value }

def Cpu.setSegment (cpu : Cpu) (segment : SegmentReg) (value : UInt16) : Cpu :=
  match segment with
  | .es => { cpu with es := value }
  | .cs => { cpu with cs := value }
  | .ss => { cpu with ss := value }
  | .ds => { cpu with ds := value }

/-- The segment and the offset of an operand; what `bp` points at is on the stack. -/
def Cpu.address (cpu : Cpu) : MemoryOperand → UInt16 × UInt16
  | .direct address => (cpu.ds, address)
  | .based .bxSi displacement => (cpu.ds, cpu.bx + cpu.si + displacement)
  | .based .bxDi displacement => (cpu.ds, cpu.bx + cpu.di + displacement)
  | .based .bpSi displacement => (cpu.ss, cpu.bp + cpu.si + displacement)
  | .based .bpDi displacement => (cpu.ss, cpu.bp + cpu.di + displacement)
  | .based .si displacement => (cpu.ds, cpu.si + displacement)
  | .based .di displacement => (cpu.ds, cpu.di + displacement)
  | .based .bp displacement => (cpu.ss, cpu.bp + displacement)
  | .based .bx displacement => (cpu.ds, cpu.bx + displacement)

def Arithmetic.run (operation : Arithmetic) (carry : Bool) (left right : UInt16) : UInt16 × Bool :=
  let carryIn : UInt16 := if carry then 1 else 0
  match operation with
  | .add => (left + right, decide (2 ^ 16 ≤ left.toNat + right.toNat))
  | .or => (left ||| right, false)
  | .adc => (left + right + carryIn, decide (2 ^ 16 ≤ left.toNat + right.toNat + carryIn.toNat))
  | .sbb => (left - right - carryIn, decide (left.toNat < right.toNat + carryIn.toNat))
  | .and => (left &&& right, false)
  | .sub | .cmp => (left - right, decide (left < right))
  | .xor => (left ^^^ right, false)

/-- The instructions that do not go to memory; `ip` is behind the instruction already. -/
def Cpu.execute (cpu : Cpu) : Instruction16 → Option Cpu
  | .cli => some { cpu with interrupts := false }
  | .sti => some { cpu with interrupts := true }
  | .cld => some { cpu with backward := false }
  -- Without interrupts the processor never wakes up.
  | .hlt => some (if cpu.interrupts then cpu else { cpu with ip := cpu.ip - 1 })
  | .inc reg =>
    let value := cpu.reg16 reg + 1
    some { cpu.setReg16 reg value with zero := value == 0 }
  | .movImm16 reg value => some (cpu.setReg16 reg value)
  | .movImm8 reg value => some (cpu.setReg8 reg value)
  | .movToSegment segment (.reg source) => some (cpu.setSegment segment (cpu.reg16 source))
  | .movFromReg8 (.reg destination) reg => some (cpu.setReg8 destination (cpu.reg8 reg))
  | .movToReg8 reg (.reg source) => some (cpu.setReg8 reg (cpu.reg8 source))
  | .xor16 (.reg destination) reg =>
    let value := cpu.reg16 destination ^^^ cpu.reg16 reg
    some { cpu.setReg16 destination value with carry := false, zero := value == 0 }
  | .test8 (.reg destination) reg =>
    some { cpu with carry := false, zero := (cpu.reg8 destination &&& cpu.reg8 reg) == 0 }
  | .arithmetic operation (.reg destination) value =>
    let (result, carry) := operation.run cpu.carry (cpu.reg16 destination) value
    let after := if operation = .cmp then cpu else cpu.setReg16 destination result
    some { after with carry, zero := result == 0 }
  | .jmpFar segment offset => some { cpu with cs := segment, ip := offset }
  | .short .jmp address => some { cpu with ip := address }
  | .short .jz address => some (if cpu.zero then { cpu with ip := address } else cpu)
  | .short .jc address => some (if cpu.carry then { cpu with ip := address } else cpu)
  | .short .loop address =>
    let counted := { cpu with cx := cpu.cx - 1 }
    some (if counted.cx == 0 then counted else { counted with ip := address })
  | _ => none

-- ---------------------------------------------------------------------------
-- Memory and devices
-- ---------------------------------------------------------------------------

abbrev Ram := Nat → UInt8

/-- Twenty address lines. -/
def linear (segment offset : UInt16) : Nat := (segment.toNat * 16 + offset.toNat) % 2 ^ 20

def Ram.word (memory : Ram) (segment offset : UInt16) : UInt16 :=
  joinBytes (memory (linear segment offset)) (memory (linear segment (offset + 1)))

def Ram.setByte (memory : Ram) (segment offset : UInt16) (value : UInt8) : Ram :=
  Function.update memory (linear segment offset) value

def Ram.setWord (memory : Ram) (segment offset : UInt16) (value : UInt16) : Ram :=
  (memory.setByte segment offset (lowHalf value)).setByte segment (offset + 1) (highHalf value)

/-- The colour registers: 256 colours of three components each. -/
structure Vga where
  mode : UInt8
  position : Nat
  colours : Nat → UInt8

/-- A colour register has six bits, and each write goes to the one behind the last. -/
def Vga.writePort (vga : Vga) (port : UInt16) (value : UInt8) : Vga :=
  if port = 0x03C8 then { vga with position := 3 * value.toNat }
  else if port = 0x03C9 then
    { vga with
      position := (vga.position + 1) % 768
      colours := Function.update vga.colours vga.position (value &&& 0x3F) }
  else vga

/-- What the code does outside of the machine. -/
inductive Event
  | read (lba count : Nat) (succeeds : Bool)
  | teletype (char : UInt8)
  | port (port : UInt16) (value : UInt8)
  deriving DecidableEq, Repr

structure Machine where
  cpu : Cpu
  memory : Ram
  vga : Vga
  events : List Event

namespace Machine

variable (machine : Machine)

def readOperand8 : Operand Reg8 → UInt8
  | .reg reg => machine.cpu.reg8 reg
  | .memory operand =>
    machine.memory (linear (machine.cpu.address operand).1 (machine.cpu.address operand).2)

def readOperand16 : Operand Reg16 → UInt16
  | .reg reg => machine.cpu.reg16 reg
  | .memory operand =>
    machine.memory.word (machine.cpu.address operand).1 (machine.cpu.address operand).2

def writeOperand8 (destination : Operand Reg8) (value : UInt8) : Machine :=
  match destination with
  | .reg reg => { machine with cpu := machine.cpu.setReg8 reg value }
  | .memory operand =>
    { machine with
      memory := machine.memory.setByte (machine.cpu.address operand).1
        (machine.cpu.address operand).2 value }

def writeOperand16 (destination : Operand Reg16) (value : UInt16) : Machine :=
  match destination with
  | .reg reg => { machine with cpu := machine.cpu.setReg16 reg value }
  | .memory operand =>
    { machine with
      memory := machine.memory.setWord (machine.cpu.address operand).1
        (machine.cpu.address operand).2 value }

def setFlags (carry zero : Bool) : Machine := { machine with cpu := { machine.cpu with carry, zero } }

def pushWord (value : UInt16) : Machine :=
  { machine with
    cpu := { machine.cpu with sp := machine.cpu.sp - 2 }
    memory := machine.memory.setWord machine.cpu.ss (machine.cpu.sp - 2) value }

def topWord : UInt16 := machine.memory.word machine.cpu.ss machine.cpu.sp

def dropWord : Machine := { machine with cpu := { machine.cpu with sp := machine.cpu.sp + 2 } }

/-- How far a string instruction goes on. -/
def stride (width : UInt16) : UInt16 := if machine.cpu.backward then 0 - width else width

def moveWord : Machine :=
  { machine with
    cpu := { machine.cpu with
      si := machine.cpu.si + machine.stride 2
      di := machine.cpu.di + machine.stride 2 }
    memory := machine.memory.setWord machine.cpu.es machine.cpu.di
      (machine.memory.word machine.cpu.ds machine.cpu.si) }

def writePort (port : UInt16) (value : UInt8) : Machine :=
  if port = 0x03C8 ∨ port = 0x03C9 then { machine with vga := machine.vga.writePort port value }
  else { machine with events := machine.events ++ [.port port value] }

def executeMemory : Instruction16 → Machine
  | .ret => { machine.dropWord with cpu := { machine.dropWord.cpu with ip := machine.topWord } }
  | .lodsb =>
    let value := machine.memory (linear machine.cpu.ds machine.cpu.si)
    { machine with
      cpu := { machine.cpu.setReg8 .al value with si := machine.cpu.si + machine.stride 1 } }
  | .repMovsw =>
    let moved := moveWord^[machine.cpu.cx.toNat] machine
    { moved with cpu := { moved.cpu with cx := 0 } }
  | .outDxAl => machine.writePort machine.cpu.dx (machine.cpu.reg8 .al)
  | .push reg => machine.pushWord (machine.cpu.reg16 reg)
  | .pop reg =>
    { machine.dropWord with cpu := machine.dropWord.cpu.setReg16 reg machine.topWord }
  | .movToSegment segment source =>
    { machine with cpu := machine.cpu.setSegment segment (machine.readOperand16 source) }
  | .movFromReg8 destination reg => machine.writeOperand8 destination (machine.cpu.reg8 reg)
  | .movToReg8 reg source => machine.writeOperand8 (.reg reg) (machine.readOperand8 source)
  | .xor16 destination reg =>
    let value := machine.readOperand16 destination ^^^ machine.cpu.reg16 reg
    (machine.writeOperand16 destination value).setFlags false (value == 0)
  | .test8 destination reg =>
    machine.setFlags false ((machine.readOperand8 destination &&& machine.cpu.reg8 reg) == 0)
  | .arithmetic operation destination value =>
    let (result, carry) :=
      operation.run machine.cpu.carry (machine.readOperand16 destination) value
    (if operation = .cmp then machine else machine.writeOperand16 destination result).setFlags
      carry (result == 0)
  | .callNear address =>
    { machine.pushWord machine.cpu.ip with
      cpu := { (machine.pushWord machine.cpu.ip).cpu with ip := address } }
  | _ => machine

def execute (instruction : Instruction16) : Machine :=
  match machine.cpu.execute instruction with
  | some cpu => { machine with cpu }
  | none => machine.executeMemory instruction

/-- The bytes that an instruction may take up. -/
def window : Bytes :=
  (List.range 6).map fun i => machine.memory (linear machine.cpu.cs (machine.cpu.ip + UInt16.ofNat i))

/-- The instruction at CS:IP, and the machine with IP behind it. -/
def fetch : Option (Instruction16 × Machine) :=
  (decode16 machine.cpu.ip 0 machine.window).map fun (instruction, rest) =>
    (instruction, { machine with
      cpu := { machine.cpu with ip := machine.cpu.ip + UInt16.ofNat (6 - rest.length) } })

end Machine

-- ---------------------------------------------------------------------------
-- The firmware
-- ---------------------------------------------------------------------------

/-- How much of the stack the firmware may use below SS:SP. -/
def stackReach : Nat := 0x7000

/-- Where the firmware writes whenever it runs: interrupt vectors and BIOS data, the end
of conventional memory, the adapters and ROMs, and the stack of the code. -/
def Cpu.FirmwareOwns (cpu : Cpu) (address : Nat) : Prop :=
  address < 0x500 ∨ (0x80000 ≤ address ∧ address < 0xA0000) ∨ 0xC0000 ≤ address ∨
    ∃ below < stackReach, address = linear cpu.ss (cpu.sp - 1 - UInt16.ofNat below)

structure DiskRequest where
  drive : UInt8
  cylinder : Nat
  head : Nat
  sector : Nat
  count : Nat
  buffer : Nat

def Cpu.diskRequest (cpu : Cpu) : DiskRequest where
  drive := cpu.reg8 .dl
  cylinder := (cpu.reg8 .ch).toNat + 256 * ((cpu.reg8 .cl).toNat / 64)
  head := (cpu.reg8 .dh).toNat
  sector := (cpu.reg8 .cl).toNat % 64
  count := (cpu.reg8 .al).toNat
  buffer := linear cpu.es cpu.bx

/-- The first sector of the request on a floppy of 80 cylinders with two heads. -/
def DiskRequest.lba (request : DiskRequest) : Nat :=
  (request.cylinder * 2 + request.head) * 18 + (request.sector - 1)

/-- The BIOS promises nothing for a request that leaves its track, or whose buffer is not
in one 64 KiB page. -/
structure DiskRequest.Valid (request : DiskRequest) (drive : UInt8) : Prop where
  drive_eq : request.drive = drive
  cylinder_lt : request.cylinder < 80
  head_lt : request.head < 2
  one_le_sector : 1 ≤ request.sector
  one_le_count : 1 ≤ request.count
  track : request.sector + request.count ≤ 19
  page : request.buffer % 0x10000 + 512 * request.count ≤ 0x10000

def DiskRequest.InBuffer (request : DiskRequest) (address : Nat) : Prop :=
  request.buffer ≤ address ∧ address < request.buffer + 512 * request.count

def Ram.ChangesIn (writable : Nat → Prop) (before after : Ram) : Prop :=
  ∀ address, after address ≠ before address → writable address

def videoMemory (address : Nat) : Prop := 0xA0000 ≤ address ∧ address < 0xC0000

/-- What a BIOS with `disk` in `drive` may do when it is called. -/
inductive Bios (disk : Bytes) (drive : UInt8) : UInt8 → Machine → Machine → Prop
  | read {machine : Machine} (ax : UInt16) (zero succeeds : Bool) (memory : Ram)
      (hfunction : machine.cpu.reg8 .ah = 0x02)
      (hkept : machine.cpu.diskRequest.Valid drive →
        machine.memory.ChangesIn (fun address => machine.cpu.FirmwareOwns address ∨
          machine.cpu.diskRequest.InBuffer address) memory)
      (hread : machine.cpu.diskRequest.Valid drive → succeeds = true →
        ∀ i < 512 * machine.cpu.diskRequest.count, memory (machine.cpu.diskRequest.buffer + i) =
          disk.getD (512 * machine.cpu.diskRequest.lba + i) 0) :
      Bios disk drive 0x13 machine { machine with
        cpu := { machine.cpu with ax, zero, carry := !succeeds }
        memory
        events := machine.events ++
          [.read machine.cpu.diskRequest.lba machine.cpu.diskRequest.count succeeds] }
  | setMode {machine : Machine} (ax : UInt16) (memory : Ram) (position : Nat)
      (colours : Nat → UInt8) (hfunction : machine.cpu.reg8 .ah = 0x00)
      (hkept : machine.memory.ChangesIn (fun address => machine.cpu.FirmwareOwns address ∨
        videoMemory address) memory) :
      Bios disk drive 0x10 machine { machine with
        cpu := { machine.cpu with ax }
        memory
        vga := ⟨machine.cpu.reg8 .al, position, colours⟩ }
  | teletype {machine : Machine} (ax bp : UInt16) (memory : Ram)
      (hfunction : machine.cpu.reg8 .ah = 0x0E)
      (hkept : machine.memory.ChangesIn (fun address => machine.cpu.FirmwareOwns address ∨
        videoMemory address) memory) :
      Bios disk drive 0x10 machine { machine with
        cpu := { machine.cpu with ax, bp }
        memory
        events := machine.events ++ [.teletype (machine.cpu.reg8 .al)] }

/-- An instruction after another; `int` is done when the service returns. -/
inductive Executes (disk : Bytes) (drive : UInt8) : Instruction16 → Machine → Machine → Prop
  | service {interrupt : UInt8} {machine after : Machine} (h : Bios disk drive interrupt machine after) :
      Executes disk drive (.int interrupt) machine after
  | plain {instruction : Instruction16} {machine : Machine}
      (h : ∀ interrupt, instruction ≠ .int interrupt) :
      Executes disk drive instruction machine (machine.execute instruction)

/-- One instruction, after the interrupts that are waiting. -/
def Step (disk : Bytes) (drive : UInt8) (machine after : Machine) : Prop :=
  ∃ memory : Ram,
    machine.memory.ChangesIn (fun address => machine.cpu.interrupts = true ∧
      machine.cpu.FirmwareOwns address) memory ∧
    ∃ instruction ready, { machine with memory }.fetch = some (instruction, ready) ∧
      Executes disk drive instruction ready after

/-- A machine whose firmware has loaded a sector of a drive and jumps to it. -/
def Machine.atBootSector (drive : UInt8) (sector : Bytes) : Machine where
  cpu :=
    { ax := 0, cx := 0, dx := joinBytes drive 0, bx := 0, sp := 0x7C00, bp := 0, si := 0, di := 0
      es := 0, cs := 0, ss := 0, ds := 0, ip := 0x7C00
      carry := false, zero := false, backward := false, interrupts := true }
  memory := fun a => sector.getD (a - 0x7C00) 0
  vga := ⟨0x03, 0, fun _ => 0⟩
  events := []

end DragonOS.Build
