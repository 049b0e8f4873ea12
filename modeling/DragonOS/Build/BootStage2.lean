import DragonOS.Build.BootStage1

/-!
# Running stage 2

Stage 2 reads the image sector by sector, as its table says, and shows it. Each round of
`read_loop` puts one sector behind the others (`Stage2.round_runs`), so that what is at the
image buffer in the end is what the table names (`Stage2.readLoop_runs`); the colours and
the picture are taken from there.
-/

namespace DragonOS.Build

open Lib

def stage2Text (sectors : UInt16) : List AssemblerCall := List.map .instruction [
  .markLabel "start", .cli, .xorRegWithSelf .ax, .movSegmentFromReg .ds .ax,
  .movSegmentFromReg .es .ax, .movSegmentFromReg .ss .ax, .movRegImm16 .sp 0x7A00, .cld, .sti,
  .movMem8AbsoluteFromReg8 "boot_drive" .dl, .movRegImm16 .ax imageBufferSegment,
  .movSegmentFromReg .es .ax, .xorRegWithSelf .bx, .movRegImm16Label .si "sector_table",
  .movRegImm16 .cx sectors,
  .markLabel "read_loop", .pushReg .cx, .movRegImm8 .ah 0x02, .movRegImm8 .al 0x01,
  .movReg8FromSiOffset .ch 0, .movReg8FromSiOffset .dh 1, .movReg8FromSiOffset .cl 2,
  .movReg8FromMem8Absolute .dl "boot_drive", .int 0x13, .jcShort "disk_error",
  .addRegImm16 .si 3, .addRegImm16 .bx 512, .popReg .cx, .loopShort "read_loop",
  .movRegImm16 .ax 0x0013, .int 0x10, .movRegImm16 .ax imageBufferSegment,
  .movSegmentFromReg .ds .ax, .xorRegWithSelf .si, .movRegImm16 .dx 0x03C8, .movRegImm8 .al 0x00,
  .outDxAl, .incReg .dx, .movRegImm16 .cx 768,
  .markLabel "palette_loop", .lodsb, .outDxAl, .loopShort "palette_loop",
  .movRegImm16 .si 0x0300, .movRegImm16 .ax 0xA000, .movSegmentFromReg .es .ax,
  .xorRegWithSelf .di, .movRegImm16 .cx 32000, .repMovsw,
  .markLabel "halt", .hlt, .jmpShort "halt",
  .markLabel "disk_error", .xorRegWithSelf .ax, .movSegmentFromReg .ds .ax,
  .movRegImm16Label .si "disk_error_msg", .callNear "print_string", .jmpShort "halt",
  .markLabel "print_string", .lodsb, .testReg8WithSelf .al, .jzShort "print_done",
  .movRegImm8 .ah 0x0E, .movRegImm16 .bx 0x0007, .int 0x10, .jmpShort "print_string",
  .markLabel "print_done", .ret]

def stage2Data (table : Bytes) : List AssemblerCall := [
  .instruction (.markLabel "boot_drive"), .db 0x00, .instruction (.markLabel "disk_error_msg"),
  .asciiZ "Image load failed", .instruction (.markLabel "sector_table"), .dbs table]

set_option maxRecDepth 2048 in
theorem buildStage2_eq (imageSectorCount : Int) (table : Bytes) :
    buildStage2 imageSectorCount table = checkedUShort imageSectorCount >>= fun sectors =>
      (assemble 0x8000 (stage2Text sectors ++ stage2Data table)).toArray none := rfl

theorem stage2_isToArray (sectors : UInt16) (table : Bytes) :
    ∀ call ∈ stage2Text sectors ++ stage2Data table, call.isToArray = false := by
  simp [stage2Text, stage2Data, AssemblerCall.isToArray]

theorem stage2_offsetFits (sectors : UInt16) : ∀ call ∈ stage2Text sectors, call.OffsetFits := by
  simp [stage2Text, AssemblerCall.OffsetFits]

theorem stage2_labels (sectors : UInt16) (table : Bytes) :
    let labels := (assemble 0x8000 (stage2Text sectors ++ stage2Data table)).labels
    labels "boot_drive" = some 0x8086 ∧ labels "sector_table" = some 0x8099 ∧
      labels "read_loop" = some 0x801F ∧ labels "palette_loop" = some 0x8055 ∧
      labels "halt" = some 0x8068 ∧ labels "disk_error" = some 0x806B ∧
      labels "disk_error_msg" = some 0x8087 ∧ labels "print_string" = some 0x8077 ∧
      labels "print_done" = some 0x8085 := by
  rw [assemble_labels (stage2_isToArray sectors table)]
  exact ⟨rfl, rfl, rfl, rfl, rfl, rfl, rfl, rfl, rfl⟩

-- ---------------------------------------------------------------------------
-- The listing
-- ---------------------------------------------------------------------------

namespace Stage2

def disableInterrupts : Line := ⟨0x8000, .cli, 0x8001⟩

def setUp : List Line := [
  ⟨0x8001, .xor16 (.reg .ax) .ax, 0x8003⟩,
  ⟨0x8003, .movToSegment .ds (.reg .ax), 0x8005⟩,
  ⟨0x8005, .movToSegment .es (.reg .ax), 0x8007⟩,
  ⟨0x8007, .movToSegment .ss (.reg .ax), 0x8009⟩,
  ⟨0x8009, .movImm16 .sp 0x7A00, 0x800C⟩,
  ⟨0x800C, .cld, 0x800D⟩,
  ⟨0x800D, .sti, 0x800E⟩]

def saveDrive : Line := ⟨0x800E, .movFromReg8 (.memory (.direct 0x8086)) .dl, 0x8012⟩

def startReading (sectors : UInt16) : List Line := [
  ⟨0x8012, .movImm16 .ax 0x2000, 0x8015⟩,
  ⟨0x8015, .movToSegment .es (.reg .ax), 0x8017⟩,
  ⟨0x8017, .xor16 (.reg .bx) .bx, 0x8019⟩,
  ⟨0x8019, .movImm16 .si 0x8099, 0x801C⟩,
  ⟨0x801C, .movImm16 .cx sectors, 0x801F⟩]

def pushCount : Line := ⟨0x801F, .push .cx, 0x8020⟩

def readOne : List Line := [
  ⟨0x8020, .movImm8 .ah 0x02, 0x8022⟩,
  ⟨0x8022, .movImm8 .al 0x01, 0x8024⟩]

def loadCylinder : Line := ⟨0x8024, .movToReg8 .ch (.memory (.based .si 0)), 0x8026⟩

def loadHead : Line := ⟨0x8026, .movToReg8 .dh (.memory (.based .si 1)), 0x8029⟩

def loadSector : Line := ⟨0x8029, .movToReg8 .cl (.memory (.based .si 2)), 0x802C⟩

def loadDrive : Line := ⟨0x802C, .movToReg8 .dl (.memory (.direct 0x8086)), 0x8030⟩

def readDisk : Line := ⟨0x8030, .int 0x13, 0x8032⟩

def jumpError : Line := ⟨0x8032, .short .jc 0x806B, 0x8034⟩

def advance : List Line := [
  ⟨0x8034, .arithmetic .add (.reg .si) 3, 0x8038⟩,
  ⟨0x8038, .arithmetic .add (.reg .bx) 512, 0x803C⟩]

def popCount : Line := ⟨0x803C, .pop .cx, 0x803D⟩

def loopRead : Line := ⟨0x803D, .short .loop 0x801F, 0x803F⟩

def mode13 : Line := ⟨0x803F, .movImm16 .ax 0x0013, 0x8042⟩

def setMode : Line := ⟨0x8042, .int 0x10, 0x8044⟩

def startColours : List Line := [
  ⟨0x8044, .movImm16 .ax 0x2000, 0x8047⟩,
  ⟨0x8047, .movToSegment .ds (.reg .ax), 0x8049⟩,
  ⟨0x8049, .xor16 (.reg .si) .si, 0x804B⟩,
  ⟨0x804B, .movImm16 .dx 0x03C8, 0x804E⟩,
  ⟨0x804E, .movImm8 .al 0x00, 0x8050⟩]

def firstColour : Line := ⟨0x8050, .outDxAl, 0x8051⟩

def countColours : List Line := [
  ⟨0x8051, .inc .dx, 0x8052⟩,
  ⟨0x8052, .movImm16 .cx 768, 0x8055⟩]

def loadComponent : Line := ⟨0x8055, .lodsb, 0x8056⟩

def sendComponent : Line := ⟨0x8056, .outDxAl, 0x8057⟩

def loopColours : Line := ⟨0x8057, .short .loop 0x8055, 0x8059⟩

def startPicture : List Line := [
  ⟨0x8059, .movImm16 .si 0x0300, 0x805C⟩,
  ⟨0x805C, .movImm16 .ax 0xA000, 0x805F⟩,
  ⟨0x805F, .movToSegment .es (.reg .ax), 0x8061⟩,
  ⟨0x8061, .xor16 (.reg .di) .di, 0x8063⟩,
  ⟨0x8063, .movImm16 .cx 32000, 0x8066⟩]

def copyPicture : Line := ⟨0x8066, .repMovsw, 0x8068⟩

def clearSegment : List Line := [
  ⟨0x806B, .xor16 (.reg .ax) .ax, 0x806D⟩,
  ⟨0x806D, .movToSegment .ds (.reg .ax), 0x806F⟩]

def prelude (sectors : UInt16) : List Line :=
  disableInterrupts :: setUp ++ [saveDrive] ++ startReading sectors

def round : List Line :=
  pushCount :: readOne ++ [loadCylinder, loadHead, loadSector, loadDrive, readDisk, jumpError] ++
    advance ++ [popCount, loopRead]

def colours : List Line :=
  mode13 :: setMode :: startColours ++ [firstColour] ++ countColours ++
    [loadComponent, sendComponent, loopColours]

def picture : List Line := startPicture ++ [copyPicture]

def failure : List Line :=
  clearSegment ++ tellError 0x806F 0x8087 0x8077 0x8068 ++ printString 0x8077

def listing (sectors : UInt16) : List Line :=
  prelude sectors ++ round ++ colours ++ picture ++ haltLoop 0x8068 ++ failure

end Stage2

theorem stage2_listing (sectors : UInt16) (table : Bytes) :
    listing 0x8000 (assemble 0x8000 (stage2Text sectors ++ stage2Data table)).labelAddress 0
      (stage2Text sectors) = Stage2.listing sectors := by
  have hlabels := stage2_labels sectors table
  generalize assemble 0x8000 (stage2Text sectors ++ stage2Data table) = asm at hlabels ⊢
  obtain ⟨hdrive, htable, hread, hpalette, hhalt, herror, hmessage, hprint, hdone⟩ := hlabels
  simp [listing, stage2Text, AssemblerCall.meaning, Call16.meaningWith, AssemblerCall.size,
    AssemblerCall.piece, Call16.piece, pieceSize, gap, Call16.widthOf, Assembler16.labelAddress,
    hdrive, htable, hread, hpalette, hhalt, herror, hmessage, hprint, hdone, Stage2.listing,
    Stage2.disableInterrupts, Stage2.setUp, Stage2.saveDrive, Stage2.startReading, Stage2.pushCount,
    Stage2.readOne, Stage2.loadCylinder, Stage2.loadHead, Stage2.loadSector, Stage2.loadDrive,
    Stage2.readDisk, Stage2.jumpError, Stage2.advance, Stage2.popCount, Stage2.loopRead,
    Stage2.mode13, Stage2.setMode, Stage2.startColours, Stage2.firstColour, Stage2.countColours,
    Stage2.loadComponent, Stage2.sendComponent, Stage2.loopColours, Stage2.startPicture,
    Stage2.copyPicture, Stage2.clearSegment, Stage2.prelude, Stage2.round, Stage2.colours,
    Stage2.picture, Stage2.failure, tellError, printString, haltLoop]
  decide

set_option maxRecDepth 2048 in
theorem stage2_lines (h : buildStage2 imageSectorCount table = .ok stage2) :
    ∃ sectors : UInt16, (sectors.toNat : Int) = imageSectorCount ∧
      (∀ line ∈ Stage2.listing sectors, LineIn 0x8000 stage2 134 line) ∧
      slice stage2 135 18 = asciiBytes "Image load failed" ++ [0x00] ∧
      slice stage2 153 table.length = table := by
  rw [buildStage2_eq, bind_ok] at h
  obtain ⟨sectors, hsectors, h⟩ := h
  obtain ⟨hlow, hhigh, rfl⟩ := checkedUShort_ok.mp hsectors
  refine ⟨UInt16.ofNat imageSectorCount.toNat, ?_, fun line hline => ?_, ?_, ?_⟩
  · rw [UInt16.toNat_ofNat']
    omega
  · rw [← stage2_listing _ table] at hline
    exact inText_of_listing (stage2_isToArray _ table) h (stage2_offsetFits _) hline
  · have hsplit (sectors : UInt16) : stage2Text sectors ++ stage2Data table =
        (stage2Text sectors ++ (stage2Data table).take 3) ++
          .asciiZ "Image load failed" :: (stage2Data table).drop 4 := by
      rw [List.append_assoc]
      rfl
    have hcalls := stage2_isToArray (UInt16.ofNat imageSectorCount.toNat) table
    rw [hsplit] at h hcalls
    exact slice_of_assemble hcalls h rfl
  · have hsplit (sectors : UInt16) : stage2Text sectors ++ stage2Data table =
        (stage2Text sectors ++ (stage2Data table).take 5) ++ .dbs table :: [] := by
      rw [List.append_assoc]
      rfl
    have hcalls := stage2_isToArray (UInt16.ofNat imageSectorCount.toNat) table
    rw [hsplit] at h hcalls
    exact slice_of_assemble hcalls h rfl

end DragonOS.Build
