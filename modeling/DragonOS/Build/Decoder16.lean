import DragonOS.Build.Assembler16
import DragonOS.Lib.Pieces
import DragonOS.Lib.Words

/-!
# Reading 16-bit code

The part of the 8086 opcode map that the assembler uses, as the processor reads it: a
ModRM byte has all its forms, and a displacement of one byte is extended with its sign.
Offsets wrap at the end of a segment.
-/

namespace DragonOS.Build

open Lib

-- ---------------------------------------------------------------------------
-- Instructions
-- ---------------------------------------------------------------------------

/-- The registers an effective address adds up. -/
inductive AddressBase
  | bxSi | bxDi | bpSi | bpDi | si | di | bp | bx
  deriving DecidableEq, Repr

inductive MemoryOperand
  | direct (address : UInt16)
  | based (base : AddressBase) (displacement : UInt16)
  deriving DecidableEq, Repr

/-- An operand of a ModRM byte; `R` is `Reg8` or `Reg16`. -/
inductive Operand (R : Type)
  | reg (reg : R)
  | memory (operand : MemoryOperand)
  deriving DecidableEq, Repr

/-- The operations that share opcode 0x81. -/
inductive Arithmetic
  | add | or | adc | sbb | and | sub | xor | cmp
  deriving DecidableEq, Repr

/-- The short jumps, which differ in their condition. -/
inductive Short
  | jmp | jz | jc | loop
  deriving DecidableEq, Repr

/-- Instructions; a jump carries the address it jumps to. -/
inductive Instruction16
  | cli | sti | cld | hlt | ret | lodsb | repMovsw | outDxAl
  | int (interrupt : UInt8)
  | push (reg : Reg16)
  | pop (reg : Reg16)
  | inc (reg : Reg16)
  | movImm16 (reg : Reg16) (value : UInt16)
  | movImm8 (reg : Reg8) (value : UInt8)
  | movToSegment (segment : SegmentReg) (source : Operand Reg16)
  | movFromReg8 (destination : Operand Reg8) (reg : Reg8)
  | movToReg8 (reg : Reg8) (source : Operand Reg8)
  | xor16 (destination : Operand Reg16) (reg : Reg16)
  | test8 (destination : Operand Reg8) (reg : Reg8)
  | arithmetic (operation : Arithmetic) (destination : Operand Reg16) (value : UInt16)
  | jmpFar (segment offset : UInt16)
  | callNear (address : UInt16)
  | short (condition : Short) (address : UInt16)
  deriving DecidableEq, Repr

-- ---------------------------------------------------------------------------
-- Fields
-- ---------------------------------------------------------------------------

def Reg16.ofCode (code : UInt8) : Reg16 :=
  match code.toNat % 8 with
  | 0 => .ax | 1 => .cx | 2 => .dx | 3 => .bx | 4 => .sp | 5 => .bp | 6 => .si | _ => .di

def Reg8.ofCode (code : UInt8) : Reg8 :=
  match code.toNat % 8 with
  | 0 => .al | 1 => .cl | 2 => .dl | 3 => .bl | 4 => .ah | 5 => .ch | 6 => .dh | _ => .bh

/-- The 8086 looks at two bits of the field. -/
def SegmentReg.ofCode (code : UInt8) : SegmentReg :=
  match code.toNat % 4 with
  | 0 => .es | 1 => .cs | 2 => .ss | _ => .ds

def AddressBase.ofCode (code : UInt8) : AddressBase :=
  match code.toNat % 8 with
  | 0 => .bxSi | 1 => .bxDi | 2 => .bpSi | 3 => .bpDi | 4 => .si | 5 => .di | 6 => .bp | _ => .bx

def Arithmetic.ofCode (code : UInt8) : Arithmetic :=
  match code.toNat % 8 with
  | 0 => .add | 1 => .or | 2 => .adc | 3 => .sbb | 4 => .and | 5 => .sub | 6 => .xor | _ => .cmp

def modField (modRm : UInt8) : UInt8 := modRm >>> 6
def regField (modRm : UInt8) : UInt8 := (modRm >>> 3) &&& 7
def rmField (modRm : UInt8) : UInt8 := modRm &&& 7

def takeByte : Bytes → Option (UInt8 × Bytes)
  | [] => none
  | byte :: code => some (byte, code)

def joinBytes (low high : UInt8) : UInt16 := low.toUInt16 ||| (high.toUInt16 <<< 8)

def takeWord : Bytes → Option (UInt16 × Bytes)
  | low :: high :: code => some (joinBytes low high, code)
  | _ => none

def signExtend (byte : UInt8) : UInt16 := UInt16.ofInt byte.toInt8.toInt

def memoryOperand (modRm : UInt8) (code : Bytes) : Option (MemoryOperand × Bytes) :=
  let base := AddressBase.ofCode (rmField modRm)
  match modField modRm with
  | 0 =>
    if rmField modRm = 6 then (takeWord code).map fun (address, code) => (.direct address, code)
    else some (.based base 0, code)
  | 1 => (takeByte code).map fun (byte, code) => (.based base (signExtend byte), code)
  | _ => (takeWord code).map fun (word, code) => (.based base word, code)

def operand {R : Type} (ofCode : UInt8 → R) (modRm : UInt8) (code : Bytes) :
    Option (Operand R × Bytes) :=
  if modField modRm = 3 then some (.reg (ofCode (rmField modRm)), code)
  else (memoryOperand modRm code).map fun (operand, code) => (.memory operand, code)

-- ---------------------------------------------------------------------------
-- The decoder
-- ---------------------------------------------------------------------------

def plain (opcode : UInt8) : Option Instruction16 :=
  match opcode with
  | 0xFA => some .cli
  | 0xFB => some .sti
  | 0xFC => some .cld
  | 0xF4 => some .hlt
  | 0xC3 => some .ret
  | 0xAC => some .lodsb
  | 0xEE => some .outDxAl
  | _ => none

def withRegister (opcode : UInt8) (code : Bytes) : Option (Instruction16 × Bytes) :=
  let reg16 := Reg16.ofCode (opcode &&& 7)
  match opcode &&& 0xF8 with
  | 0x40 => some (.inc reg16, code)
  | 0x50 => some (.push reg16, code)
  | 0x58 => some (.pop reg16, code)
  | 0xB0 => (takeByte code).map fun (value, code) => (.movImm8 (Reg8.ofCode (opcode &&& 7)) value, code)
  | 0xB8 => (takeWord code).map fun (value, code) => (.movImm16 reg16 value, code)
  | _ => none

def withModRm (opcode : UInt8) (code : Bytes) : Option (Instruction16 × Bytes) := do
  let (modRm, code) ← takeByte code
  let reg8 := Reg8.ofCode (regField modRm)
  match opcode with
  | 0x31 =>
    let (destination, code) ← operand Reg16.ofCode modRm code
    some (.xor16 destination (Reg16.ofCode (regField modRm)), code)
  | 0x81 =>
    let (destination, code) ← operand Reg16.ofCode modRm code
    let (value, code) ← takeWord code
    some (.arithmetic (Arithmetic.ofCode (regField modRm)) destination value, code)
  | 0x84 =>
    let (destination, code) ← operand Reg8.ofCode modRm code
    some (.test8 destination reg8, code)
  | 0x88 =>
    let (destination, code) ← operand Reg8.ofCode modRm code
    some (.movFromReg8 destination reg8, code)
  | 0x8A =>
    let (source, code) ← operand Reg8.ofCode modRm code
    some (.movToReg8 reg8 source, code)
  | 0x8E =>
    let (source, code) ← operand Reg16.ofCode modRm code
    some (.movToSegment (SegmentReg.ofCode (regField modRm)) source, code)
  | _ => none

/-- The jumps; a displacement counts from the end of the instruction at `address`. -/
def jump (opcode : UInt8) (address : UInt16) (code : Bytes) : Option (Instruction16 × Bytes) :=
  let short (condition : Short) := (takeByte code).map fun (byte, code) =>
    (Instruction16.short condition (address + 2 + signExtend byte), code)
  match opcode with
  | 0x72 => short .jc
  | 0x74 => short .jz
  | 0xE2 => short .loop
  | 0xEB => short .jmp
  | 0xE8 => (takeWord code).map fun (displacement, code) => (.callNear (address + 3 + displacement), code)
  | 0xEA => do
    let (offset, code) ← takeWord code
    let (segment, code) ← takeWord code
    some (.jmpFar segment offset, code)
  | _ => none

def decode16 (origin : UInt16) : Decoder UInt8 Instruction16 := fun position code =>
  match code with
  | [] => none
  | 0xF3 :: 0xA5 :: code => some (.repMovsw, code)
  | 0xCD :: interrupt :: code => some (.int interrupt, code)
  | opcode :: code =>
    (plain opcode).map (·, code) <|> withRegister opcode code <|> withModRm opcode code <|>
      jump opcode (origin + UInt16.ofNat position) code

-- ---------------------------------------------------------------------------
-- Words and displacements
-- ---------------------------------------------------------------------------

theorem toNat_ofInt16 (value : Int) : (UInt16.ofInt value).toNat = (value % 2 ^ 16).toNat := by
  rw [UInt16.ofInt]
  exact UInt16.toNat_ofNat_of_lt' (by rw [UInt16.size]; omega)

theorem toNat_joinBytes (low high : UInt8) : (joinBytes low high).toNat = low.toNat + 256 * high.toNat := by
  have hlow := low.toNat_lt
  have hhigh := high.toNat_lt
  have hshift : (high.toUInt16 <<< 8).toNat = high.toNat <<< 8 := by
    rw [UInt16.toNat_shiftLeft, UInt8.toNat_toUInt16]
    show high.toNat <<< 8 % 2 ^ 16 = _
    rw [Nat.shiftLeft_eq]
    omega
  rw [joinBytes, UInt16.toNat_or, hshift, UInt8.toNat_toUInt16, Nat.or_comm,
    ← Nat.shiftLeft_add_eq_or_of_lt hlow, Nat.shiftLeft_eq]
  omega

theorem toNat_lowByte (value : Int) : (lowByte value).toNat = (value % 256).toNat :=
  UInt8.toNat_ofNat_of_lt' (by rw [UInt8.size]; omega)

theorem joinBytes_lowByte (value : Int) :
    joinBytes (lowByte value) (lowByte (value / 256)) = UInt16.ofInt value := by
  refine UInt16.toNat_inj.mp ?_
  rw [toNat_joinBytes, toNat_lowByte, toNat_lowByte, toNat_ofInt16]
  omega

theorem joinBytes_value (value : UInt16) : joinBytes (value &&& 0xFF).toUInt8 (value >>> 8).toUInt8 = value := by
  refine UInt16.toNat_inj.mp ?_
  have := value.toNat_lt
  rw [toNat_joinBytes, UInt16.toNat_toUInt8, UInt16.toNat_toUInt8, UInt16.toNat_and, UInt16.toNat_shiftRight]
  show (value.toNat &&& 2 ^ 8 - 1) % 2 ^ 8 + 256 * ((value.toNat >>> 8) % 2 ^ 8) = _
  rw [Nat.and_two_pow_sub_one_eq_mod, Nat.shiftRight_eq_div_pow]
  omega

theorem signExtend_lowByte (hlow : -128 ≤ value) (hhigh : value ≤ 127) :
    signExtend (lowByte value) = UInt16.ofInt value := by
  rw [signExtend, toInt_toInt8, toNat_lowByte]
  congr 1
  split <;> omega

theorem signExtend_eq_iff (byte : UInt8) : signExtend byte = byte.toUInt16 ↔ byte < 0x80 := by
  have := byte.toNat_lt
  rw [← UInt16.toNat_inj, signExtend, toNat_ofInt16, toInt_toInt8, UInt8.toNat_toUInt16, UInt8.lt_iff_toNat_lt]
  show _ ↔ byte.toNat < 128
  split <;> omega

end DragonOS.Build
