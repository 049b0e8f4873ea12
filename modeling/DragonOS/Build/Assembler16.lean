import DragonOS.Build.DotNet

/-!
# The 16-bit assembler

`Assembler16` collects bytes, labels and fixups; `toArray` then fills in the
addresses. A fixup only fills in bytes that are there already, so the length of
the code does not depend on where its labels are.
-/

namespace DragonOS.Build

open Lib

inductive Reg16
  | ax | cx | dx | bx | sp | bp | si | di
  deriving DecidableEq, Repr

inductive Reg8
  | al | cl | dl | bl | ah | ch | dh | bh
  deriving DecidableEq, Repr

inductive SegmentReg
  | es | cs | ss | ds
  deriving DecidableEq, Repr

def Reg16.code (reg : Reg16) : UInt8 := UInt8.ofNat reg.ctorIdx

def Reg8.code (reg : Reg8) : UInt8 := UInt8.ofNat reg.ctorIdx

def SegmentReg.code (segment : SegmentReg) : UInt8 := UInt8.ofNat segment.ctorIdx

inductive FixupKind
  | absolute16
  | relative8
  | relative16
  deriving DecidableEq, Repr

structure Fixup where
  position : Nat
  label : String
  kind : FixupKind
  deriving DecidableEq, Repr

structure Assembler16 where
  origin : UInt16
  bytes : Bytes
  labels : String → Option Int
  fixups : List Fixup

namespace Assembler16

def start (origin : UInt16) : Assembler16 where
  origin
  bytes := []
  labels := fun _ => none
  fixups := []

variable (asm : Assembler16)

-- ---------------------------------------------------------------------------
-- Emitting
-- ---------------------------------------------------------------------------

def currentAddress : Int := asm.origin.toNat + asm.bytes.length

def markLabel (name : String) : Assembler16 :=
  { asm with labels := Function.update asm.labels name (some asm.currentAddress) }

def dbs (values : Bytes) : Assembler16 := { asm with bytes := asm.bytes ++ values }

def db (value : UInt8) : Assembler16 := asm.dbs [value]

def dw (value : UInt16) : Assembler16 := (asm.db (value &&& 0xFF).toUInt8).db (value >>> 8).toUInt8

def asciiZ (text : String) : Assembler16 := (asm.dbs (asciiBytes text)).db 0x00

def padToSize (size : Nat) : Assembler16 :=
  asm.dbs (List.replicate (size - asm.bytes.length) 0x00)

def addFixup (kind : FixupKind) (label : String) (width : Nat) : Assembler16 :=
  { asm with
    fixups := asm.fixups ++ [⟨asm.bytes.length, label, kind⟩]
    bytes := asm.bytes ++ List.replicate width 0x00 }

def cli : Assembler16 := asm.db 0xFA
def sti : Assembler16 := asm.db 0xFB
def cld : Assembler16 := asm.db 0xFC
def hlt : Assembler16 := asm.db 0xF4
def ret : Assembler16 := asm.db 0xC3
def lodsb : Assembler16 := asm.db 0xAC
def repMovsw : Assembler16 := asm.dbs [0xF3, 0xA5]
def outDxAl : Assembler16 := asm.db 0xEE
def int (interrupt : UInt8) : Assembler16 := asm.dbs [0xCD, interrupt]

def pushReg (reg : Reg16) : Assembler16 := asm.db (0x50 + reg.code)
def popReg (reg : Reg16) : Assembler16 := asm.db (0x58 + reg.code)
def incReg (reg : Reg16) : Assembler16 := asm.db (0x40 + reg.code)

def movRegImm16 (reg : Reg16) (value : UInt16) : Assembler16 := (asm.db (0xB8 + reg.code)).dw value

def movRegImm16Label (reg : Reg16) (label : String) : Assembler16 :=
  (asm.db (0xB8 + reg.code)).addFixup .absolute16 label 2

def movRegImm8 (reg : Reg8) (value : UInt8) : Assembler16 := (asm.db (0xB0 + reg.code)).db value

def movSegmentFromReg (segment : SegmentReg) (reg : Reg16) : Assembler16 :=
  (asm.db 0x8E).db ((0xC0 : UInt8) ||| (segment.code <<< 3) ||| reg.code)

def movMem8AbsoluteFromReg8 (label : String) (reg : Reg8) : Assembler16 :=
  ((asm.db 0x88).db ((reg.code <<< 3) ||| 0x06)).addFixup .absolute16 label 2

def movReg8FromMem8Absolute (reg : Reg8) (label : String) : Assembler16 :=
  ((asm.db 0x8A).db ((reg.code <<< 3) ||| 0x06)).addFixup .absolute16 label 2

def movReg8FromSiOffset (reg : Reg8) (offset : UInt8) : Assembler16 :=
  if offset = 0 then (asm.db 0x8A).db ((reg.code <<< 3) ||| 0x04)
  else ((asm.db 0x8A).db ((0x40 : UInt8) ||| (reg.code <<< 3) ||| 0x04)).db offset

def xorRegWithSelf (reg : Reg16) : Assembler16 :=
  (asm.db 0x31).db ((0xC0 : UInt8) ||| (reg.code <<< 3) ||| reg.code)

def testReg8WithSelf (reg : Reg8) : Assembler16 :=
  (asm.db 0x84).db ((0xC0 : UInt8) ||| (reg.code <<< 3) ||| reg.code)

def addRegImm16 (reg : Reg16) (value : UInt16) : Assembler16 :=
  ((asm.db 0x81).db ((0xC0 : UInt8) ||| reg.code)).dw value

def jmpFar (segment offset : UInt16) : Assembler16 := ((asm.db 0xEA).dw offset).dw segment

def callNear (label : String) : Assembler16 := (asm.db 0xE8).addFixup .relative16 label 2

/-- `JmpShort`, `JzShort`, `JcShort` and `LoopShort` differ in their opcode. -/
def jumpShort (opcode : UInt8) (label : String) : Assembler16 :=
  (asm.db opcode).addFixup .relative8 label 1

def jmpShort (label : String) : Assembler16 := asm.jumpShort 0xEB label
def jzShort (label : String) : Assembler16 := asm.jumpShort 0x74 label
def jcShort (label : String) : Assembler16 := asm.jumpShort 0x72 label
def loopShort (label : String) : Assembler16 := asm.jumpShort 0xE2 label

-- ---------------------------------------------------------------------------
-- Fixups
-- ---------------------------------------------------------------------------

/-- The bytes a fixup fills in for the address of its label. -/
def patch (fixup : Fixup) (target : Int) : Except Exception Bytes :=
  match fixup.kind with
  | .absolute16 => .ok [lowByte target, lowByte (target / 256)]
  | .relative8 =>
    let displacement := target - (fixup.position + 1 + asm.origin.toNat)
    if displacement < -128 ∨ displacement > 127 then
      .error (.invalidOperation ("Short jump out of range for label " ++ fixup.label ++ "."))
    else .ok [lowByte displacement]
  | .relative16 =>
    let displacement := target - (fixup.position + 2 + asm.origin.toNat)
    if displacement < -32768 ∨ displacement > 32767 then
      .error (.invalidOperation ("Near call out of range for label " ++ fixup.label ++ "."))
    else .ok [lowByte displacement, lowByte (displacement / 256)]

def applyFixup (bytes : Bytes) (fixup : Fixup) : Except Exception Bytes :=
  match asm.labels fixup.label with
  | none => .error (.invalidOperation ("Unknown label: " ++ fixup.label))
  | some target => do
    let values ← asm.patch fixup target
    writeAt bytes fixup.position values

def toArray (expectedLength : Option Nat) : Except Exception Bytes := do
  let bytes ← asm.fixups.foldlM asm.applyFixup asm.bytes
  match expectedLength with
  | none => pure bytes
  | some length =>
    if bytes.length ≠ length then
      throw (.invalidOperation
        ("Expected " ++ toString length ++ " bytes, got " ++ toString bytes.length ++ "."))
    else pure bytes

end Assembler16

variable {asm : Assembler16} {bytes after : Bytes}

@[simp]
theorem Assembler16.bytes_markLabel : (asm.markLabel name).bytes = asm.bytes := rfl

@[simp]
theorem Assembler16.length_dbs : (asm.dbs values).bytes.length = asm.bytes.length + values.length :=
  List.length_append

@[simp]
theorem Assembler16.length_addFixup :
    (asm.addFixup kind label width).bytes.length = asm.bytes.length + width := by
  simp [addFixup]

theorem Assembler16.applyFixup_length {fixup : Fixup} (h : asm.applyFixup bytes fixup = .ok after) :
    after.length = bytes.length := by
  unfold applyFixup at h
  cases hlabel : asm.labels fixup.label with
  | none =>
    rw [hlabel] at h
    cases h
  | some target =>
    simp only [hlabel, bind_ok] at h
    obtain ⟨values, -, hwrite⟩ := h
    exact length_of_writeAt hwrite

theorem Assembler16.fixups_length {fixups : List Fixup}
    (h : fixups.foldlM asm.applyFixup bytes = .ok after) : after.length = bytes.length := by
  induction fixups generalizing bytes with
  | nil =>
    rw [List.foldlM_nil, pure_ok] at h
    rw [h]
  | cons fixup fixups ih =>
    rw [List.foldlM_cons, bind_ok] at h
    obtain ⟨middle, hfirst, hrest⟩ := h
    exact (ih hrest).trans (applyFixup_length hfirst)

theorem Assembler16.toArray_length {expectedLength : Option Nat}
    (h : asm.toArray expectedLength = .ok after) : after.length = asm.bytes.length := by
  simp only [toArray, bind_ok] at h
  obtain ⟨bytes, hfixups, h⟩ := h
  cases expectedLength with
  | none =>
    obtain rfl := pure_ok.mp h
    exact fixups_length hfixups
  | some length =>
    simp only at h
    split at h
    · exact absurd h throw_ok
    · obtain rfl := pure_ok.mp h
      exact fixups_length hfixups

theorem Assembler16.toArray_expectedLength (h : asm.toArray (some length) = .ok after) :
    after.length = length := by
  simp only [toArray, bind_ok] at h
  obtain ⟨bytes, -, h⟩ := h
  split at h
  · exact absurd h throw_ok
  · obtain rfl := pure_ok.mp h
    simpa using ‹¬ bytes.length ≠ length›

end DragonOS.Build
