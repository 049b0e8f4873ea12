import DragonOS.Build.BootCode
import DragonOS.Build.BootRun
import DragonOS.Build.Floppy

/-!
# Running stage 1
-/

namespace DragonOS.Build

open Lib

def stage1Text (sectors : UInt8) : List AssemblerCall := List.map .instruction [
  .markLabel "start", .cli, .xorRegWithSelf .ax, .movSegmentFromReg .ds .ax,
  .movSegmentFromReg .es .ax, .movSegmentFromReg .ss .ax, .movRegImm16 .sp 0x7C00, .cld, .sti,
  .movMem8AbsoluteFromReg8 "boot_drive" .dl,
  .movRegImm8 .ah 0x02, .movRegImm8 .al sectors, .movRegImm16 .bx stage2LoadOffset,
  .movRegImm8 .ch 0x00, .movRegImm8 .cl 0x02, .movRegImm8 .dh 0x00,
  .movReg8FromMem8Absolute .dl "boot_drive", .int 0x13, .jcShort "disk_error",
  .jmpFar 0x0000 stage2LoadOffset,
  .markLabel "disk_error", .movRegImm16Label .si "disk_error_msg", .callNear "print_string",
  .jmpShort "hang",
  .markLabel "print_string", .lodsb, .testReg8WithSelf .al, .jzShort "print_done",
  .movRegImm8 .ah 0x0E, .movRegImm16 .bx 0x0007, .int 0x10, .jmpShort "print_string",
  .markLabel "print_done", .ret, .markLabel "hang", .hlt, .jmpShort "hang"]

def stage1Data : List AssemblerCall := [
  .instruction (.markLabel "boot_drive"), .db 0x00, .instruction (.markLabel "disk_error_msg"),
  .asciiZ "Stage 2 load failed", .padToSize 510, .dw 0xAA55]

theorem buildStage1_eq (stage2SectorCount : Int) :
    buildStage1 stage2SectorCount = checkedByte stage2SectorCount >>= fun sectors =>
      (assemble 0x7C00 (stage1Text sectors ++ stage1Data)).toArray (some 512) := rfl

theorem stage1_isToArray (sectors : UInt8) :
    ∀ call ∈ stage1Text sectors ++ stage1Data, call.isToArray = false := by
  simp [stage1Text, stage1Data, AssemblerCall.isToArray]

theorem stage1_offsetFits (sectors : UInt8) : ∀ call ∈ stage1Text sectors, call.OffsetFits := by
  simp [stage1Text, AssemblerCall.OffsetFits]

theorem stage1_labels (sectors : UInt8) :
    let labels := (assemble 0x7C00 (stage1Text sectors ++ stage1Data)).labels
    labels "boot_drive" = some 0x7C46 ∧ labels "disk_error" = some 0x7C2C ∧
      labels "disk_error_msg" = some 0x7C47 ∧ labels "print_string" = some 0x7C34 ∧
      labels "print_done" = some 0x7C42 ∧ labels "hang" = some 0x7C43 := by
  rw [assemble_labels (stage1_isToArray sectors)]
  refine ⟨rfl, rfl, rfl, rfl, rfl, rfl⟩

-- ---------------------------------------------------------------------------
-- The listing
-- ---------------------------------------------------------------------------

namespace Stage1

def setUp : List Line := [
  ⟨0x7C00, .cli, 0x7C01⟩,
  ⟨0x7C01, .xor16 (.reg .ax) .ax, 0x7C03⟩,
  ⟨0x7C03, .movToSegment .ds (.reg .ax), 0x7C05⟩,
  ⟨0x7C05, .movToSegment .es (.reg .ax), 0x7C07⟩,
  ⟨0x7C07, .movToSegment .ss (.reg .ax), 0x7C09⟩,
  ⟨0x7C09, .movImm16 .sp 0x7C00, 0x7C0C⟩,
  ⟨0x7C0C, .cld, 0x7C0D⟩,
  ⟨0x7C0D, .sti, 0x7C0E⟩]

def saveDrive : Line := ⟨0x7C0E, .movFromReg8 (.memory (.direct 0x7C46)) .dl, 0x7C12⟩

def request (sectors : UInt8) : List Line := [
  ⟨0x7C12, .movImm8 .ah 0x02, 0x7C14⟩,
  ⟨0x7C14, .movImm8 .al sectors, 0x7C16⟩,
  ⟨0x7C16, .movImm16 .bx 0x8000, 0x7C19⟩,
  ⟨0x7C19, .movImm8 .ch 0x00, 0x7C1B⟩,
  ⟨0x7C1B, .movImm8 .cl 0x02, 0x7C1D⟩,
  ⟨0x7C1D, .movImm8 .dh 0x00, 0x7C1F⟩]

def loadDrive : Line := ⟨0x7C1F, .movToReg8 .dl (.memory (.direct 0x7C46)), 0x7C23⟩

def readDisk : Line := ⟨0x7C23, .int 0x13, 0x7C25⟩

def branch : List Line := [
  ⟨0x7C25, .short .jc 0x7C2C, 0x7C27⟩,
  ⟨0x7C27, .jmpFar 0x0000 0x8000, 0x7C2C⟩]

def listing (sectors : UInt8) : List Line :=
  setUp ++ [saveDrive] ++ request sectors ++ [loadDrive, readDisk] ++ branch ++
    tellError 0x7C2C 0x7C47 0x7C34 0x7C43 ++ printString 0x7C34 ++ haltLoop 0x7C43

end Stage1

theorem stage1_listing (sectors : UInt8) :
    listing 0x7C00 (assemble 0x7C00 (stage1Text sectors ++ stage1Data)).labelAddress 0
      (stage1Text sectors) = Stage1.listing sectors := by
  have hlabels := stage1_labels sectors
  generalize assemble 0x7C00 (stage1Text sectors ++ stage1Data) = asm at hlabels ⊢
  obtain ⟨hdrive, herror, hmessage, hprint, hdone, hhang⟩ := hlabels
  simp [listing, stage1Text, AssemblerCall.meaning, Call16.meaningWith, AssemblerCall.size,
    AssemblerCall.piece, Call16.piece, pieceSize, gap, Call16.widthOf, Assembler16.labelAddress,
    hdrive, herror, hmessage, hprint, hdone, hhang, Stage1.listing, Stage1.setUp, Stage1.saveDrive,
    Stage1.request, Stage1.loadDrive, Stage1.readDisk, Stage1.branch, tellError,
    printString, haltLoop]
  decide

-- ---------------------------------------------------------------------------
-- The run
-- ---------------------------------------------------------------------------

/-- The machine as the firmware leaves it to a boot sector. -/
structure BootSectorEntry (drive : UInt8) (sector : Bytes) (machine : Machine) : Prop where
  cs : machine.cpu.cs = 0
  ip : machine.cpu.ip = 0x7C00
  dl : machine.cpu.reg8 .dl = drive
  sector : ∀ i < 512, machine.memory (0x7C00 + i) = sector.getD i 0
  stack : ∀ address, machine.cpu.FirmwareOwns address → ¬ (0x7C00 ≤ address ∧ address < 0x7E00)

theorem Machine.atBootSector_entry (drive : UInt8) (sector : Bytes) :
    BootSectorEntry drive sector (atBootSector drive sector) where
  cs := rfl
  ip := rfl
  dl := lowHalf_joinBytes drive 0
  sector i _ := by
    show sector.getD (0x7C00 + i - 0x7C00) 0 = _
    rw [Nat.add_sub_cancel_left]
  stack a howns := by
    rintro ⟨hlow, hhigh⟩
    have hstack : (atBootSector drive sector).cpu.stackBelow 0x7C00 := rfl
    rcases Cpu.owns_firmwareArea hstack (by decide) howns with hbelow | hhigher
    · omega
    · omega

/-- The machine as stage 1 leaves it to stage 2. -/
structure Stage2Entry (disk : Bytes) (drive : UInt8) (count : Nat) (machine : Machine) : Prop where
  cs : machine.cpu.cs = 0
  ip : machine.cpu.ip = 0x8000
  dl : machine.cpu.reg8 .dl = drive
  stack : machine.cpu.stackBelow 0x7C00
  program : ∀ i < 512 * count, machine.memory (0x8000 + i) = disk.getD (512 + i) 0

theorem stage1_lines (h : buildStage1 stage2SectorCount = .ok stage1) :
    ∃ sectors : UInt8, (sectors.toNat : Int) = stage2SectorCount ∧
      (∀ line ∈ Stage1.listing sectors, LineIn 0x7C00 stage1 70 line) ∧
      slice stage1 71 20 = asciiBytes "Stage 2 load failed" ++ [0x00] := by
  rw [buildStage1_eq, bind_ok] at h
  obtain ⟨sectors, hsectors, h⟩ := h
  obtain ⟨hlow, hhigh, rfl⟩ := checkedByte_ok.mp hsectors
  refine ⟨UInt8.ofNat stage2SectorCount.toNat, ?_, fun line hline => ?_, ?_⟩
  · rw [UInt8.toNat_ofNat']
    omega
  · rw [← stage1_listing] at hline
    exact inText_of_listing (stage1_isToArray _) h (stage1_offsetFits _) hline
  · have hsplit (sectors : UInt8) : stage1Text sectors ++ stage1Data =
        (stage1Text sectors ++ stage1Data.take 3) ++
          .asciiZ "Stage 2 load failed" :: stage1Data.drop 4 := by
      rw [List.append_assoc]
      rfl
    have hcalls := stage1_isToArray (UInt8.ofNat stage2SectorCount.toNat)
    rw [hsplit] at h hcalls
    exact slice_of_assemble hcalls h rfl

section
variable {disk : Bytes} {drive : UInt8} {goal : Machine → Prop} {machine : Machine}
  {cpu : Cpu} {memory : Ram} {vga : Vga} {events : List Event}

def Stage1.settled (cpu : Cpu) : Cpu :=
  { cpu with
    ax := 0, ds := 0, es := 0, ss := 0, cs := 0, sp := 0x7C00, ip := 0x7C0E
    carry := false, zero := true, backward := false, interrupts := true }

theorem Stage1.setUp_runs (hlines : ∀ line ∈ setUp, LineIn 0x7C00 stage1 70 line)
    (hentry : BootSectorEntry drive stage1 machine)
    (hrest : ∀ memory, (∀ i < 512, memory (0x7C00 + i) = stage1.getD i 0) →
      Runs disk drive (firmwareArea 0x7C00) goal
        ⟨settled machine.cpu, memory, machine.vga, machine.events⟩) :
    Eventually (Step disk drive) goal machine := by
  obtain ⟨hcli, hlines⟩ := List.forall_mem_cons.mp hlines
  generalize hoff : (fun a => ¬ (0x7C00 ≤ a ∧ a < 0x7E00)) = off
  have hclear {a : Nat} (ha : off a) : ¬ (0x7C00 ≤ a ∧ a < 0x7E00) := by rwa [← hoff] at ha
  have hloaded : CodeAt off 0x7C00 stage1 70 machine.memory := by
    refine ⟨by decide, fun i hi => hentry.sector i (by omega), fun i hi ha => hclear ha ?_⟩
    show 0x7C00 ≤ 0x7C00 + i ∧ 0x7C00 + i < 0x7E00
    omega
  have hquiet : machine.cpu.Quiet off := fun _ a howns => by
    rw [← hoff]
    exact hentry.stack a howns
  -- Without interrupts the firmware stays out, wherever its stack was.
  have hcalm : Runs disk drive off goal
      { machine with cpu := { machine.cpu with ip := 0x7C01, interrupts := false } } := by
    intro calm hmatches
    have hsector (i : Nat) (hi : i < 512) : calm.memory (0x7C00 + i) = stage1.getD i 0 :=
      (hmatches.memory.eq fun ha => hclear ha ⟨by omega, by omega⟩).trans (hentry.sector i hi)
    have hcode : CodeAt (firmwareArea 0x7C00) 0x7C00 stage1 70 calm.memory := by
      refine ⟨by decide, fun i hi => hsector i (by omega), fun i hi ha => ?_⟩
      have : (0x7C00 : UInt16).toNat = 0x7C00 := rfl
      simp only [firmwareArea, this] at ha
      omega
    have hblock : runLines 0x7C00 setUp.tail calm.cpu = some (settled machine.cpu) := by
      rw [hmatches.cpu]
      simp [setUp, runLines, Cpu.calm, Cpu.stackBelow, Cpu.execute, Cpu.setSegment, Cpu.reg16,
        Cpu.setReg16, settled, hentry.cs]
    have hready := hrest calm.memory hsector
    rw [← show calm.vga = machine.vga from hmatches.vga,
      ← show calm.events = machine.events from hmatches.events] at hready
    exact Runs.block (by decide) hlines hcode hblock hready calm (.refl _ _)
  refine Runs.plain hquiet hloaded hentry.cs hcli hentry.ip (fun _ => Instruction16.noConfusion)
    (fun ready hready => ?_) hcalm machine (.refl _ _)
  have hexecute : ready.execute .cli =
      { ready with cpu := { ready.cpu with interrupts := false } } := rfl
  rw [hexecute, hready.cpu]
  exact ⟨rfl, hready.memory, hready.vga, hready.events⟩

def Stage1.asking (cpu : Cpu) (sectors drive : UInt8) : Cpu :=
  { settled cpu with
    ip := 0x7C23, ax := joinBytes sectors 0x02, bx := 0x8000, cx := joinBytes 0x02 0x00
    dx := joinBytes drive 0x00 }

theorem Stage1.asking_request (cpu : Cpu) (sectors drive : UInt8) :
    (asking cpu sectors drive).diskRequest = ⟨drive, 0, 0, 2, sectors.toNat, 0x8000⟩ := by
  simp only [asking, settled, Cpu.diskRequest, Cpu.reg8, lowHalf_joinBytes, highHalf_joinBytes]
  rfl

theorem Stage1.request_runs (hlines : ∀ line ∈ listing sectors, LineIn 0x7C00 stage1 70 line)
    (hdl : cpu.reg8 .dl = drive)
    (hloaded : CodeAt (firmwareArea 0x7C00) 0x7C00 stage1 70 memory)
    (hrest : Runs disk drive (firmwareArea 0x7C00) goal
      ⟨asking cpu sectors drive, Function.update memory 0x7C46 drive, vga, events⟩) :
    Runs disk drive (firmwareArea 0x7C00) goal ⟨settled cpu, memory, vga, events⟩ := by
  simp only [listing, List.forall_mem_append, List.forall_mem_singleton, List.forall_mem_cons]
    at hlines
  obtain ⟨⟨⟨⟨⟨⟨⟨-, hsave⟩, hrequest⟩, hload, -⟩, -⟩, -⟩, -⟩, -⟩ := hlines
  have hloaded' : CodeAt (firmwareArea 0x7C00) 0x7C00 stage1 70
      (Function.update memory 0x7C46 drive) :=
    hloaded.of_eq fun i hi => Function.update_of_ne (by
      show 0x7C00 + i ≠ 0x7C46
      omega) _ _
  have hblock : runLines 0x7C00 (request sectors) { settled cpu with ip := 0x7C12 } =
      some { asking cpu sectors drive with
        ip := 0x7C1F, dx := joinBytes (lowHalf cpu.dx) 0x00 } := by
    simp [request, runLines, Cpu.calm, Cpu.stackBelow, Cpu.execute, Cpu.setReg8, Cpu.setReg16,
      settled, asking]
  have hdrive : (settled cpu).reg8 .dl = drive := hdl
  refine Runs.storeByte ⟨rfl, by decide, rfl, rfl, hsave, hloaded⟩ rfl ?_
  rw [hdrive]
  refine Runs.block (by decide) hrequest hloaded' hblock ?_
  refine Runs.loadByte ⟨rfl, by decide, rfl, rfl, hload, hloaded'⟩ rfl (by decide)
    (Function.update_self _ _ _) ?_
  have hdx : joinBytes drive (highHalf (joinBytes (lowHalf cpu.dx) 0x00)) = joinBytes drive 0x00 := by
    rw [highHalf_joinBytes]
  simp only [Cpu.setReg8, hdx]
  exact hrest

def stage2LoadFailed : List Event := (asciiBytes "Stage 2 load failed").map .teletype

theorem Stage1.read_runs (hlines : ∀ line ∈ listing sectors, LineIn 0x7C00 stage1 70 line)
    (hmessage : slice stage1 71 20 = asciiBytes "Stage 2 load failed" ++ [0x00])
    (hsectors : 1 ≤ sectors.toNat ∧ sectors.toNat ≤ 17)
    (hdisk : 512 + 512 * sectors.toNat ≤ disk.length)
    (hmemory : ∀ i < 512, i ≠ 70 → memory (0x7C00 + i) = stage1.getD i 0) :
    Runs disk drive (firmwareArea 0x7C00)
      (fun after => Stage2Entry disk drive sectors.toNat after ∧
          after.events = events ++ [.read 1 sectors.toNat true] ∨
        Gone disk drive (events ++ [.read 1 sectors.toNat false] ++ stage2LoadFailed) after)
      ⟨asking cpu sectors drive, memory, vga, events⟩ := by
  simp only [listing, branch, List.forall_mem_append, List.forall_mem_cons] at hlines
  obtain ⟨⟨⟨⟨⟨-, -, hread, -⟩, hjc, hjmpFar, -⟩, htell⟩, hprint⟩, hhalt⟩ := hlines
  have horigin : (0x7C00 : UInt16).toNat = 0x7C00 := rfl
  have hloaded : CodeAt (firmwareArea 0x7C00) 0x7C00 stage1 70 memory := by
    refine ⟨by decide, fun i hi => hmemory i (by omega) (by omega), fun i hi ha => ?_⟩
    simp only [firmwareArea, horigin] at ha
    omega
  have hvalid : DiskRequest.Valid ⟨drive, 0, 0, 2, sectors.toNat, 0x8000⟩ drive := by
    constructor <;> simp only <;> omega
  have hlba : DiskRequest.lba ⟨drive, 0, 0, 2, sectors.toNat, 0x8000⟩ = 1 := rfl
  refine Runs.read ⟨rfl, by decide, rfl, rfl, hread, hloaded⟩ (highHalf_joinBytes _ _)
    (asking_request cpu sectors drive) hvalid ?_ (fun ax zero => ?_) fun ax zero memory' hbuffer => ?_
  · rw [hlba]
    omega
  · rw [hlba]
    have hlength := length_slice hdisk
    have hkept (a : Nat) (ha : a < 0x8000) :
        memory.load 0x8000 (slice disk (512 * 1) (512 * sectors.toNat)) a = memory a :=
      if_neg (by omega)
    have hloaded' := hloaded.of_eq fun i hi => hkept _ (by omega)
    refine Runs.register ⟨rfl, by decide, rfl, rfl, hjc, hloaded'⟩ rfl ?_
    refine Runs.register ⟨rfl, by decide, rfl, rfl, hjmpFar, hloaded'⟩ rfl ?_
    refine Runs.of_goal fun machine hmatches => .inl ⟨?_, hmatches.events⟩
    refine ⟨by rw [hmatches.cpu], by rw [hmatches.cpu], ?_, by rw [hmatches.cpu]; rfl,
      fun i hi => ?_⟩
    · rw [hmatches.cpu]
      exact lowHalf_joinBytes _ _
    · have hclear : ¬ firmwareArea 0x7C00 (0x8000 + i) := by
        simp only [firmwareArea]
        omega
      refine (hmatches.memory.eq hclear).trans ?_
      simp only [Ram.load, hlength]
      rw [if_pos (by omega), Nat.add_sub_cancel_left, List.getD_eq_getElem?_getD, getElem?_slice,
        if_pos hi, List.getD_eq_getElem?_getD]
  · rw [hlba]
    have hkept (a : Nat) (ha : a < 0x8000) : memory' a = memory a :=
      hbuffer.eq fun hinside => absurd hinside.1 (by simp only; omega)
    have hloaded' := hloaded.of_eq fun i hi => hkept _ (by omega)
    have hmessage' : (asciiBytes "Stage 2 load failed").length = 19 := rfl
    have htext : TextAt (firmwareArea 0x7C00) 0x7C47 (asciiBytes "Stage 2 load failed") memory' := by
      refine TextAt.of_slice hmessage (by decide) (fun i hi => ?_) (fun i hi ha => ?_) (by decide)
      · rw [hkept _ (by omega), Nat.add_assoc 0x7C00 71 i]
        exact hmemory (71 + i) (by omega) (by omega)
      · simp only [firmwareArea] at ha
        omega
    refine Runs.register ⟨rfl, by decide, rfl, rfl, hjc, hloaded'⟩ rfl ?_
    exact Runs.imp (Runs.tell htell hprint hhalt hloaded' htext rfl rfl rfl rfl rfl rfl rfl
      (by decide) (by decide)) fun machine => .inr

/-- Stage 1 loads stage 2 and leaves the machine to it. When the read fails it says so. -/
theorem stage1_runs {count : Nat} (hstage1 : buildStage1 count = .ok stage1)
    (hcount : 1 ≤ count ∧ count ≤ 17) (hdisk : 512 + 512 * count ≤ disk.length)
    (hentry : BootSectorEntry drive stage1 machine) :
    Eventually (Step disk drive)
      (fun after => Stage2Entry disk drive count after ∧
          after.events = machine.events ++ [.read 1 count true] ∨
        Gone disk drive (machine.events ++ [.read 1 count false] ++ stage2LoadFailed) after)
      machine := by
  obtain ⟨sectors, hsectors, hlines, hmessage⟩ := stage1_lines hstage1
  obtain rfl : sectors.toNat = count := Int.ofNat.inj hsectors
  refine Stage1.setUp_runs (fun line hline => hlines line ?_) hentry fun memory hmemory => ?_
  · simp only [Stage1.listing, List.mem_append, hline, true_or]
  refine Stage1.request_runs hlines hentry.dl ?_ ?_
  · refine ⟨by decide, fun i hi => hmemory i (by omega), fun i hi ha => ?_⟩
    have horigin : (0x7C00 : UInt16).toNat = 0x7C00 := rfl
    simp only [firmwareArea, horigin] at ha
    omega
  · refine Stage1.read_runs hlines hmessage hcount hdisk fun i hi hne => ?_
    exact (Function.update_of_ne (show 0x7C00 + i ≠ 0x7C46 by omega) _ _).trans (hmemory i hi)

end

end DragonOS.Build
