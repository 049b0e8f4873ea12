import DragonOS.Build.DotNet

/-!
# The 64-bit assembler

`X64Assembler` emits a REX prefix where an instruction needs one, addresses memory by a
register and a displacement of one byte or four, and fills in the displacements to labels
when all code is there.
-/

namespace DragonOS.Build

open Lib

inductive Reg64
  | rax | rcx | rdx | rbx | rsp | rbp | rsi | rdi
  | r8 | r9 | r10 | r11 | r12 | r13 | r14 | r15
  deriving DecidableEq, Repr

def Reg64.code (reg : Reg64) : Nat := reg.ctorIdx

namespace X64Assembler

inductive FixupKind
  | relative32
  | ripRelative32
  deriving DecidableEq, Repr

structure Fixup where
  position : Nat
  label : String
  kind : FixupKind
  deriving DecidableEq, Repr

end X64Assembler

structure X64Assembler where
  bytes : Bytes
  labels : String → Option Nat
  fixups : List X64Assembler.Fixup

namespace X64Assembler

def start : X64Assembler where
  bytes := []
  labels := fun _ => none
  fixups := []

variable (asm : X64Assembler)

-- ---------------------------------------------------------------------------
-- Emitting
-- ---------------------------------------------------------------------------

def markLabel (name : String) : X64Assembler :=
  { asm with labels := Function.update asm.labels name (some asm.bytes.length) }

def emits (values : Bytes) : X64Assembler := { asm with bytes := asm.bytes ++ values }

def emit (value : UInt8) : X64Assembler := asm.emits [value]

def addFixup (kind : FixupKind) (label : String) : X64Assembler :=
  { asm with
    fixups := asm.fixups ++ [⟨asm.bytes.length, label, kind⟩]
    bytes := asm.bytes ++ List.replicate 4 0x00 }

def rex (w : Bool) (r x b : Nat) : UInt8 :=
  let rex : UInt8 := 0x40
  let rex := if w then rex ||| 0x08 else rex
  let rex := if r &&& 8 ≠ 0 then rex ||| 0x04 else rex
  let rex := if x &&& 8 ≠ 0 then rex ||| 0x02 else rex
  if b &&& 8 ≠ 0 then rex ||| 0x01 else rex

def emitRex (w : Bool) (r x b : Nat) : X64Assembler :=
  if rex w r x b ≠ 0x40 then asm.emit (rex w r x b) else asm

def modRm (mod reg rm : Nat) : UInt8 :=
  UInt8.ofNat (((mod &&& 0x3) <<< 6) ||| ((reg &&& 0x7) <<< 3) ||| (rm &&& 0x7))

def int32Bytes (value : Int32) : Bytes := littleEndian32 value.toUInt32

def emitMemoryOperand (regField baseRegister : Nat) (displacement : Int32) : X64Assembler :=
  if displacement.toInt ≥ -128 ∧ displacement.toInt ≤ 127 then
    let asm := asm.emit (modRm 0b01 regField baseRegister)
    let asm := if baseRegister &&& 7 = 4 then asm.emit 0x24 else asm
    asm.emit (lowByte displacement.toInt)
  else
    let asm := asm.emit (modRm 0b10 regField baseRegister)
    let asm := if baseRegister &&& 7 = 4 then asm.emit 0x24 else asm
    asm.emits (int32Bytes displacement)

def emitWithOptionalRex (baseOpcode : UInt8) (reg : Reg64) (w : Bool) : X64Assembler :=
  let asm := if reg.code ≥ 8 then asm.emitRex w 0 0 reg.code else asm
  asm.emit (baseOpcode + UInt8.ofNat (reg.code &&& 7))

def emitMovFromMemory (destination baseRegister : Reg64) (displacement : Int32)
    (is64Bit : Bool) : X64Assembler :=
  ((asm.emitRex is64Bit destination.code 0 baseRegister.code).emit 0x8B).emitMemoryOperand
    destination.code baseRegister.code displacement

-- ---------------------------------------------------------------------------
-- Instructions
-- ---------------------------------------------------------------------------

def push (reg : Reg64) : X64Assembler := asm.emitWithOptionalRex 0x50 reg false
def pop (reg : Reg64) : X64Assembler := asm.emitWithOptionalRex 0x58 reg false
def ret : X64Assembler := asm.emit 0xC3
def repMovsq : X64Assembler := asm.emits [0xF3, 0x48, 0xA5]

def subRsp (immediate : Int32) : Except Exception X64Assembler := do
  let byte ← checkedByte immediate.toInt
  pure ((((asm.emit 0x48).emit 0x83).emit 0xEC).emit byte)

def addRsp (immediate : Int32) : Except Exception X64Assembler := do
  let byte ← checkedByte immediate.toInt
  pure ((((asm.emit 0x48).emit 0x83).emit 0xC4).emit byte)

def movR64FromMem (destination baseRegister : Reg64) (displacement : Int32) : X64Assembler :=
  asm.emitMovFromMemory destination baseRegister displacement true

def movR32FromMem (destination baseRegister : Reg64) (displacement : Int32) : X64Assembler :=
  asm.emitMovFromMemory destination baseRegister displacement false

def movR64FromReg (destination source : Reg64) : X64Assembler :=
  ((asm.emitRex true source.code 0 destination.code).emit 0x89).emit
    (modRm 0b11 source.code destination.code)

def movR32Imm32 (destination : Reg64) (value : Int32) : X64Assembler :=
  ((asm.emitRex false 0 0 destination.code).emit
    (0xB8 + UInt8.ofNat (destination.code &&& 7))).emits (int32Bytes value)

def leaRipRelative (destination : Reg64) (label : String) : X64Assembler :=
  (((asm.emitRex true destination.code 0 0).emit 0x8D).emit
    (modRm 0b00 destination.code 0b101)).addFixup .ripRelative32 label

def leaRegFromMem (destination baseRegister : Reg64) (displacement : Int32) : X64Assembler :=
  ((asm.emitRex true destination.code 0 baseRegister.code).emit 0x8D).emitMemoryOperand
    destination.code baseRegister.code displacement

def callReg (reg : Reg64) : X64Assembler :=
  ((asm.emitRex true 0 0 reg.code).emit 0xFF).emit (modRm 0b11 0b010 reg.code)

def testR64 (reg : Reg64) : X64Assembler :=
  ((asm.emitRex true reg.code 0 reg.code).emit 0x85).emit (modRm 0b11 reg.code reg.code)

def testR32 (reg : Reg64) : X64Assembler :=
  ((asm.emitRex false reg.code 0 reg.code).emit 0x85).emit (modRm 0b11 reg.code reg.code)

def xorR32 (reg : Reg64) : X64Assembler :=
  ((asm.emitRex false reg.code 0 reg.code).emit 0x31).emit (modRm 0b11 reg.code reg.code)

def cmpR32Imm32 (reg : Reg64) (value : Int32) : X64Assembler :=
  (((asm.emitRex false 0 0 reg.code).emit 0x81).emit (modRm 0b11 0b111 reg.code)).emits
    (int32Bytes value)

def shlR64 (reg : Reg64) (count : UInt8) : X64Assembler :=
  (((asm.emitRex true 0 0 reg.code).emit 0xC1).emit (modRm 0b11 0b100 reg.code)).emit count

def subR64Imm32 (reg : Reg64) (value : Int32) : X64Assembler :=
  (((asm.emitRex true 0 0 reg.code).emit 0x81).emit (modRm 0b11 0b101 reg.code)).emits
    (int32Bytes value)

def addR64Reg (destination source : Reg64) : X64Assembler :=
  ((asm.emitRex true source.code 0 destination.code).emit 0x01).emit
    (modRm 0b11 source.code destination.code)

def decR64 (reg : Reg64) : X64Assembler :=
  ((asm.emitRex true 0 0 reg.code).emit 0xFF).emit (modRm 0b11 0b001 reg.code)

def jnz (label : String) : X64Assembler := (asm.emits [0x0F, 0x85]).addFixup .relative32 label
def je (label : String) : X64Assembler := (asm.emits [0x0F, 0x84]).addFixup .relative32 label
def jb (label : String) : X64Assembler := (asm.emits [0x0F, 0x82]).addFixup .relative32 label
def jmp (label : String) : X64Assembler := (asm.emit 0xE9).addFixup .relative32 label

-- ---------------------------------------------------------------------------
-- Fixups
-- ---------------------------------------------------------------------------

/-- The displacement to a label; the two kinds of fixup do not differ. -/
def displacementTo (position target : Nat) : Int := int32 (target - int32 (position + 4))

def applyFixup (output : Bytes) (fixup : Fixup) : Except Exception Bytes :=
  match asm.labels fixup.label with
  | none => .error (.invalidOperation ("Unknown x64 label: " ++ fixup.label))
  | some target =>
    writeAt output fixup.position
      (int32Bytes (Int32.ofInt (displacementTo fixup.position target)))

def toArray : Except Exception Bytes := do
  -- The list of the runtime does not grow to 2^31 bytes; its length is an `int`.
  throwIf (2 ^ 31 ≤ asm.bytes.length) .outOfRange
  asm.fixups.foldlM asm.applyFixup asm.bytes

end X64Assembler

end DragonOS.Build
