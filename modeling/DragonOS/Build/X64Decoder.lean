import DragonOS.Build.Decoder16
import DragonOS.Build.X64Assembler

/-!
# Reading 64-bit code

The part of the x86-64 opcode map that the assembler uses, as the processor reads it:
prefixes, the REX bits in front of register fields, ModRM and SIB bytes in all their
forms, sign-extended displacements and immediates. A position counts from the first byte
of the code.
-/

namespace DragonOS.Build

open Lib

-- ---------------------------------------------------------------------------
-- Instructions
-- ---------------------------------------------------------------------------

inductive OperandSize
  | dword | qword
  deriving DecidableEq, Repr

/-- The index register is scaled by a power of two. -/
structure Address64 where
  base : Option Reg64
  index : Option (Reg64 × Nat)
  displacement : Int
  deriving DecidableEq, Repr

/-- A RIP-relative operand carries the position it refers to. -/
inductive Operand64
  | reg (reg : Reg64)
  | memory (address : Address64)
  | ripRelative (position : Int)
  deriving DecidableEq, Repr

/-- The operations that share opcode 0xC1. -/
inductive Shift64
  | rol | ror | rcl | rcr | shl | shr | sal | sar
  deriving DecidableEq, Repr

/-- The operations that share opcode 0xFF. -/
inductive Unary64
  | inc | dec | call | callFar | jmp | jmpFar | push
  deriving DecidableEq, Repr

inductive Condition
  | o | no | b | ae | e | ne | be | a | s | ns | p | np | l | ge | le | g
  deriving DecidableEq, Repr

/-- Instructions; a jump carries the position it jumps to, an immediate its value. -/
inductive Instruction64
  | push (reg : Reg64)
  | pop (reg : Reg64)
  | ret
  | movs (repeated : Bool) (size : OperandSize)
  | arithmetic (operation : Arithmetic) (size : OperandSize) (destination : Operand64)
      (immediate : Int)
  | movLoad (size : OperandSize) (destination : Reg64) (source : Operand64)
  | movStore (size : OperandSize) (destination : Operand64) (source : Reg64)
  | movImm32 (destination : Reg64) (value : UInt32)
  | lea (size : OperandSize) (destination : Reg64) (source : Operand64)
  | add (size : OperandSize) (destination : Operand64) (source : Reg64)
  | xor (size : OperandSize) (destination : Operand64) (source : Reg64)
  | test (size : OperandSize) (destination : Operand64) (source : Reg64)
  | shift (operation : Shift64) (size : OperandSize) (destination : Operand64) (count : UInt8)
  | unary (operation : Unary64) (size : OperandSize) (operand : Operand64)
  | jump (condition : Option Condition) (position : Int)
  deriving DecidableEq, Repr

-- ---------------------------------------------------------------------------
-- Fields
-- ---------------------------------------------------------------------------

def Reg64.ofCode (code : Nat) : Reg64 :=
  match code with
  | 0 => .rax | 1 => .rcx | 2 => .rdx | 3 => .rbx | 4 => .rsp | 5 => .rbp | 6 => .rsi | 7 => .rdi
  | 8 => .r8 | 9 => .r9 | 10 => .r10 | 11 => .r11 | 12 => .r12 | 13 => .r13 | 14 => .r14 | _ => .r15

def Reg64.ofFields (high : Bool) (low : UInt8) : Reg64 :=
  Reg64.ofCode ((if high then 8 else 0) + low.toNat % 8)

def Shift64.ofCode (code : UInt8) : Shift64 :=
  match code.toNat % 8 with
  | 0 => .rol | 1 => .ror | 2 => .rcl | 3 => .rcr | 4 => .shl | 5 => .shr | 6 => .sal | _ => .sar

def Unary64.ofCode (code : UInt8) : Option Unary64 :=
  match code.toNat % 8 with
  | 0 => some .inc | 1 => some .dec | 2 => some .call | 3 => some .callFar | 4 => some .jmp
  | 5 => some .jmpFar | 6 => some .push | _ => none

def Condition.ofCode (code : UInt8) : Condition :=
  match code.toNat % 16 with
  | 0 => .o | 1 => .no | 2 => .b | 3 => .ae | 4 => .e | 5 => .ne | 6 => .be | 7 => .a
  | 8 => .s | 9 => .ns | 10 => .p | 11 => .np | 12 => .l | 13 => .ge | 14 => .le | _ => .g

/-- The bits of a REX prefix; without one all are clear. -/
structure Rex where
  w : Bool
  r : Bool
  x : Bool
  b : Bool
  deriving DecidableEq, Repr

def Rex.size (rex : Rex) : OperandSize := if rex.w then .qword else .dword

def Rex.ofByte (byte : UInt8) : Rex where
  w := byte &&& 8 ≠ 0
  r := byte &&& 4 ≠ 0
  x := byte &&& 2 ≠ 0
  b := byte &&& 1 ≠ 0

-- ---------------------------------------------------------------------------
-- Operands
-- ---------------------------------------------------------------------------

/-- Where the decoder is, and what is left of the code from there. -/
abbrev Cursor := Nat × Bytes

namespace Cursor

def byte : Cursor → Option (UInt8 × Cursor)
  | (_, []) => none
  | (position, byte :: code) => some (byte, position + 1, code)

def joinDword (b0 b1 b2 b3 : UInt8) : UInt32 :=
  b0.toUInt32 ||| (b1.toUInt32 <<< 8) ||| (b2.toUInt32 <<< 16) ||| (b3.toUInt32 <<< 24)

def dword : Cursor → Option (UInt32 × Cursor)
  | (position, b0 :: b1 :: b2 :: b3 :: code) => some (joinDword b0 b1 b2 b3, position + 4, code)
  | _ => none

def signedByte (cursor : Cursor) : Option (Int × Cursor) :=
  cursor.byte.map fun (byte, cursor) => (byte.toInt8.toInt, cursor)

def signedDword (cursor : Cursor) : Option (Int × Cursor) :=
  cursor.dword.map fun (value, cursor) => (value.toInt32.toInt, cursor)

/-- The displacement for a mode; in mode 0 a base of five stands for a displacement
alone. -/
def displacement (mod : UInt8) (alone : Bool) (cursor : Cursor) : Option (Int × Cursor) :=
  match mod with
  | 0 => if alone then cursor.signedDword else some (0, cursor)
  | 1 => cursor.signedByte
  | _ => cursor.signedDword

def scaled (rex : Rex) (mod : UInt8) (cursor : Cursor) : Option (Operand64 × Cursor) := do
  let (sib, cursor) ← cursor.byte
  let alone := mod = 0 ∧ rmField sib = 5
  let index := Reg64.ofFields rex.x (regField sib)
  let (displacement, cursor) ← cursor.displacement mod alone
  some
    (.memory
      { base := if alone then none else some (Reg64.ofFields rex.b (rmField sib))
        index := if index = .rsp then none else some (index, 2 ^ (modField sib).toNat)
        displacement },
      cursor)

/-- The operand of a ModRM byte. RIP points behind the instruction, which goes on for
`trailing` bytes after the operand. -/
def operand (rex : Rex) (modRm : UInt8) (trailing : Nat) (cursor : Cursor) :
    Option (Operand64 × Cursor) :=
  if modField modRm = 3 then some (.reg (Reg64.ofFields rex.b (rmField modRm)), cursor)
  else if rmField modRm = 4 then cursor.scaled rex (modField modRm)
  else if modField modRm = 0 ∧ rmField modRm = 5 then
    cursor.signedDword.map fun (displacement, cursor) =>
      (.ripRelative (cursor.1 + trailing + displacement), cursor)
  else
    (cursor.displacement (modField modRm) false).map fun (displacement, cursor) =>
      (.memory
        { base := some (Reg64.ofFields rex.b (rmField modRm)), index := none, displacement },
        cursor)

-- ---------------------------------------------------------------------------
-- Opcodes
-- ---------------------------------------------------------------------------

def withModRm (rex : Rex) (opcode : UInt8) (cursor : Cursor) :
    Option (Instruction64 × Cursor) := do
  let (modRm, cursor) ← cursor.byte
  let reg := Reg64.ofFields rex.r (regField modRm)
  match opcode with
  | 0x01 =>
    let (operand, cursor) ← cursor.operand rex modRm 0
    some (.add rex.size operand reg, cursor)
  | 0x31 =>
    let (operand, cursor) ← cursor.operand rex modRm 0
    some (.xor rex.size operand reg, cursor)
  | 0x81 =>
    let (operand, cursor) ← cursor.operand rex modRm 4
    let (immediate, cursor) ← cursor.signedDword
    some (.arithmetic (Arithmetic.ofCode (regField modRm)) rex.size operand immediate, cursor)
  | 0x83 =>
    let (operand, cursor) ← cursor.operand rex modRm 1
    let (immediate, cursor) ← cursor.signedByte
    some (.arithmetic (Arithmetic.ofCode (regField modRm)) rex.size operand immediate, cursor)
  | 0x85 =>
    let (operand, cursor) ← cursor.operand rex modRm 0
    some (.test rex.size operand reg, cursor)
  | 0x89 =>
    let (operand, cursor) ← cursor.operand rex modRm 0
    some (.movStore rex.size operand reg, cursor)
  | 0x8B =>
    let (operand, cursor) ← cursor.operand rex modRm 0
    some (.movLoad rex.size reg operand, cursor)
  | 0x8D =>
    -- There is no address of a register.
    if modField modRm = 3 then none
    else
      let (operand, cursor) ← cursor.operand rex modRm 0
      some (.lea rex.size reg operand, cursor)
  | 0xC1 =>
    let (operand, cursor) ← cursor.operand rex modRm 1
    let (count, cursor) ← cursor.byte
    some (.shift (Shift64.ofCode (regField modRm)) rex.size operand count, cursor)
  | 0xFF =>
    let operation ← Unary64.ofCode (regField modRm)
    let (operand, cursor) ← cursor.operand rex modRm 0
    some (.unary operation rex.size operand, cursor)
  | _ => none

def withRegister (rex : Rex) (opcode : UInt8) (cursor : Cursor) :
    Option (Instruction64 × Cursor) :=
  let reg := Reg64.ofFields rex.b (opcode &&& 7)
  match opcode &&& 0xF8 with
  | 0x50 => some (.push reg, cursor)
  | 0x58 => some (.pop reg, cursor)
  | 0xB8 =>
    -- With REX.W the immediate has eight bytes.
    if rex.w then none else cursor.dword.map fun (value, cursor) => (.movImm32 reg value, cursor)
  | _ => none

def jump (condition : Option Condition) (cursor : Cursor) : Option (Instruction64 × Cursor) :=
  cursor.signedDword.map fun (displacement, cursor) =>
    (.jump condition (cursor.1 + displacement), cursor)

def opcode (repeated : Bool) (rex : Rex) (cursor : Cursor) : Option (Instruction64 × Cursor) := do
  let (opcode, cursor) ← cursor.byte
  match opcode with
  | 0xA5 => some (.movs repeated rex.size, cursor)
  | 0xC3 => some (.ret, cursor)
  | 0xE9 => cursor.jump none
  | 0x0F =>
    let (second, cursor) ← cursor.byte
    if second &&& 0xF0 = 0x80 then cursor.jump (some (Condition.ofCode second)) else none
  | opcode => cursor.withRegister rex opcode <|> cursor.withModRm rex opcode

/-- A REX prefix is the last prefix. -/
def rexPrefix : Cursor → Rex × Cursor
  | (position, byte :: code) =>
    if byte &&& 0xF0 = 0x40 then (Rex.ofByte byte, position + 1, code)
    else (Rex.ofByte 0, position, byte :: code)
  | cursor => (Rex.ofByte 0, cursor)

def repPrefix : Cursor → Bool × Cursor
  | (position, 0xF3 :: code) => (true, position + 1, code)
  | cursor => (false, cursor)

def instruction (cursor : Cursor) : Option (Instruction64 × Cursor) :=
  let (repeated, cursor) := cursor.repPrefix
  let (rex, cursor) := cursor.rexPrefix
  cursor.opcode repeated rex

end Cursor

def decodeX64 : Decoder UInt8 Instruction64 := fun position code =>
  (Cursor.instruction (position, code)).map fun (instruction, cursor) => (instruction, cursor.2)

end DragonOS.Build
