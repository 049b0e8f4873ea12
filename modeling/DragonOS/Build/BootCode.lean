import DragonOS.Build.Assembler16

/-!
# The boot code of the floppy

`buildStage1` and `buildStage2` emit the two programs that a BIOS runs. The sector
table is the last thing in stage 2, behind all of its code.
-/

namespace DragonOS.Build

open Lib Assembler16

def stage2LoadOffset : UInt16 := 0x8000

def imageBufferSegment : UInt16 := 0x2000

def buildStage1 (stage2SectorCount : Int) : Except Exception Bytes := do
  let sectors ← checkedByte stage2SectorCount
  let asm := Assembler16.start 0x7C00
    |>.markLabel "start"
    |>.cli
    |>.xorRegWithSelf .ax
    |>.movSegmentFromReg .ds .ax
    |>.movSegmentFromReg .es .ax
    |>.movSegmentFromReg .ss .ax
    |>.movRegImm16 .sp 0x7C00
    |>.cld
    |>.sti
    |>.movMem8AbsoluteFromReg8 "boot_drive" .dl
    |>.movRegImm8 .ah 0x02
    |>.movRegImm8 .al sectors
    |>.movRegImm16 .bx stage2LoadOffset
    |>.movRegImm8 .ch 0x00
    |>.movRegImm8 .cl 0x02
    |>.movRegImm8 .dh 0x00
    |>.movReg8FromMem8Absolute .dl "boot_drive"
    |>.int 0x13
    |>.jcShort "disk_error"
    |>.jmpFar 0x0000 stage2LoadOffset
    |>.markLabel "disk_error"
    |>.movRegImm16Label .si "disk_error_msg"
    |>.callNear "print_string"
    |>.jmpShort "hang"
    |>.markLabel "print_string"
    |>.lodsb
    |>.testReg8WithSelf .al
    |>.jzShort "print_done"
    |>.movRegImm8 .ah 0x0E
    |>.movRegImm16 .bx 0x0007
    |>.int 0x10
    |>.jmpShort "print_string"
    |>.markLabel "print_done"
    |>.ret
    |>.markLabel "hang"
    |>.hlt
    |>.jmpShort "hang"
    |>.markLabel "boot_drive"
    |>.db 0x00
    |>.markLabel "disk_error_msg"
    |>.asciiZ "Stage 2 load failed"
    |>.padToSize 510
    |>.dw 0xAA55
  asm.toArray (some 512)

/-- Stage 2 up to its sector table. -/
def stage2Code (sectors : UInt16) : Assembler16 :=
  Assembler16.start stage2LoadOffset
    |>.markLabel "start"
    |>.cli
    |>.xorRegWithSelf .ax
    |>.movSegmentFromReg .ds .ax
    |>.movSegmentFromReg .es .ax
    |>.movSegmentFromReg .ss .ax
    |>.movRegImm16 .sp 0x7A00
    |>.cld
    |>.sti
    |>.movMem8AbsoluteFromReg8 "boot_drive" .dl
    |>.movRegImm16 .ax imageBufferSegment
    |>.movSegmentFromReg .es .ax
    |>.xorRegWithSelf .bx
    |>.movRegImm16Label .si "sector_table"
    |>.movRegImm16 .cx sectors
    |>.markLabel "read_loop"
    |>.pushReg .cx
    |>.movRegImm8 .ah 0x02
    |>.movRegImm8 .al 0x01
    |>.movReg8FromSiOffset .ch 0
    |>.movReg8FromSiOffset .dh 1
    |>.movReg8FromSiOffset .cl 2
    |>.movReg8FromMem8Absolute .dl "boot_drive"
    |>.int 0x13
    |>.jcShort "disk_error"
    |>.addRegImm16 .si 3
    |>.addRegImm16 .bx 512
    |>.popReg .cx
    |>.loopShort "read_loop"
    |>.movRegImm16 .ax 0x0013
    |>.int 0x10
    |>.movRegImm16 .ax imageBufferSegment
    |>.movSegmentFromReg .ds .ax
    |>.xorRegWithSelf .si
    |>.movRegImm16 .dx 0x03C8
    |>.movRegImm8 .al 0x00
    |>.outDxAl
    |>.incReg .dx
    |>.movRegImm16 .cx 768
    |>.markLabel "palette_loop"
    |>.lodsb
    |>.outDxAl
    |>.loopShort "palette_loop"
    |>.movRegImm16 .si 0x0300
    |>.movRegImm16 .ax 0xA000
    |>.movSegmentFromReg .es .ax
    |>.xorRegWithSelf .di
    |>.movRegImm16 .cx 32000
    |>.repMovsw
    |>.markLabel "halt"
    |>.hlt
    |>.jmpShort "halt"
    |>.markLabel "disk_error"
    |>.xorRegWithSelf .ax
    |>.movSegmentFromReg .ds .ax
    |>.movRegImm16Label .si "disk_error_msg"
    |>.callNear "print_string"
    |>.jmpShort "halt"
    |>.markLabel "print_string"
    |>.lodsb
    |>.testReg8WithSelf .al
    |>.jzShort "print_done"
    |>.movRegImm8 .ah 0x0E
    |>.movRegImm16 .bx 0x0007
    |>.int 0x10
    |>.jmpShort "print_string"
    |>.markLabel "print_done"
    |>.ret
    |>.markLabel "boot_drive"
    |>.db 0x00
    |>.markLabel "disk_error_msg"
    |>.asciiZ "Image load failed"

def buildStage2 (imageSectorCount : Int) (imageSectorTable : Bytes) : Except Exception Bytes := do
  let sectors ← checkedUShort imageSectorCount
  let asm := stage2Code sectors
    |>.markLabel "sector_table"
    |>.dbs imageSectorTable
  asm.toArray none

-- ---------------------------------------------------------------------------
-- Stage 2 does not grow with what its table says
-- ---------------------------------------------------------------------------

theorem buildStage1_length (h : buildStage1 stage2SectorCount = .ok stage1) :
    stage1.length = 512 := by
  simp only [buildStage1, bind_ok] at h
  obtain ⟨sectors, -, h⟩ := h
  exact toArray_expectedLength h

theorem stage2Code_length : (stage2Code sectors).bytes.length = 153 := by
  simp [stage2Code, start, cli, sti, cld, hlt, ret, lodsb, repMovsw, outDxAl, Assembler16.int,
    pushReg, popReg, incReg, movRegImm16, movRegImm16Label, movRegImm8, movSegmentFromReg,
    movMem8AbsoluteFromReg8, movReg8FromMem8Absolute, movReg8FromSiOffset, xorRegWithSelf,
    testReg8WithSelf, addRegImm16, callNear, jmpShort, jzShort, jcShort, loopShort, jumpShort, db,
    dw, asciiZ, asciiBytes, asciiChar]

theorem buildStage2_length (h : buildStage2 imageSectorCount table = .ok stage2) :
    stage2.length = 153 + table.length := by
  simp only [buildStage2, bind_ok] at h
  obtain ⟨sectors, -, h⟩ := h
  rw [toArray_length h, length_dbs, bytes_markLabel, stage2Code_length]

theorem imageSectorCount_of_buildStage2 (h : buildStage2 imageSectorCount table = .ok stage2) :
    0 ≤ imageSectorCount ∧ imageSectorCount < 2 ^ 16 := by
  simp only [buildStage2, bind_ok] at h
  obtain ⟨sectors, hsectors, -⟩ := h
  obtain ⟨hlow, hhigh, -⟩ := checkedUShort_ok.mp hsectors
  exact ⟨hlow, hhigh⟩

end DragonOS.Build
