import DragonOS.Build.BootStage2

/-!
# The sectors that stage 2 reads
-/

namespace DragonOS.Build

open Lib

def imageLoadFailed : List Event := (asciiBytes "Image load failed").map .teletype

def sectorsOf (disk : Bytes) (entries : List Chs) : Bytes :=
  entries.flatMap fun chs => diskSector disk chs.lba

def readEvents (entries : List Chs) : List Event := entries.map fun chs => .read chs.lba 1 true

theorem length_sectorsOf (hinside : ∀ chs ∈ entries, 512 * chs.lba + 512 ≤ disk.length) :
    (sectorsOf disk entries).length = 512 * entries.length := by
  induction entries with
  | nil => rfl
  | cons chs entries ih =>
    obtain ⟨hfirst, hrest⟩ := List.forall_mem_cons.mp hinside
    rw [sectorsOf, List.flatMap_cons, List.length_append, diskSector, length_slice hfirst,
      List.length_cons]
    rw [sectorsOf] at ih
    rw [ih hrest]
    omega

def ReadFails (disk : Bytes) (drive : UInt8) (entries : List Chs) (events : List Event)
    (machine : Machine) : Prop :=
  ∃ read chs rest, entries = read ++ chs :: rest ∧
    Gone disk drive (events ++ readEvents read ++ [.read chs.lba 1 false] ++ imageLoadFailed) machine

section
variable {disk : Bytes} {drive : UInt8} {goal : Machine → Prop} {machine : Machine}
  {cpu : Cpu} {memory memory' : Ram} {vga : Vga} {events : List Event} {top : Nat}

namespace Stage2

-- ---------------------------------------------------------------------------
-- Memory
-- ---------------------------------------------------------------------------

/-- Stage 2, the drive number in it and the part of the image that is there. -/
structure Holds (stage2 : Bytes) (drive : UInt8) (loaded : Bytes) (memory : Ram) : Prop where
  short : stage2.length ≤ 0x8000
  text : 153 ≤ stage2.length
  message : slice stage2 135 18 = asciiBytes "Image load failed" ++ [0x00]
  program : ∀ i < stage2.length, i ≠ 134 → memory (0x8000 + i) = stage2.getD i 0
  bootDrive : memory 0x8086 = drive
  loaded_le : loaded.length ≤ 0x10000
  image : ∀ i < loaded.length, memory (0x20000 + i) = loaded.getD i 0

theorem Holds.of_eq (h : Holds stage2 drive loaded memory)
    (heq : ∀ a, 0x8000 ≤ a ∧ a < 0x10000 ∨ 0x20000 ≤ a ∧ a < 0x20000 + loaded.length →
      memory' a = memory a) :
    Holds stage2 drive loaded memory' where
  short := h.short
  text := h.text
  message := h.message
  program i hi hne := by
    have := h.short
    rw [heq _ (.inl (by omega)), h.program i hi hne]
  bootDrive := by rw [heq _ (.inl (by decide)), h.bootDrive]
  loaded_le := h.loaded_le
  image i hi := by rw [heq _ (.inr (by omega)), h.image i hi]

theorem Holds.codeAt (h : Holds stage2 drive loaded memory) (htop : top ≤ 0x8000) :
    CodeAt (firmwareArea top) 0x8000 stage2 134 memory := by
  have horigin : (0x8000 : UInt16).toNat = 0x8000 := rfl
  have htext := h.text
  refine ⟨by decide, fun i hi => h.program i (by omega) (by omega), fun i hi ha => ?_⟩
  simp only [firmwareArea, horigin] at ha
  omega

theorem Holds.textAt (h : Holds stage2 drive loaded memory) (htop : top ≤ 0x8000) :
    TextAt (firmwareArea top) 0x8087 (asciiBytes "Image load failed") memory := by
  have htext := h.text
  have hlength : (asciiBytes "Image load failed").length = 17 := rfl
  refine TextAt.of_slice h.message (by decide) (fun i hi => ?_) (fun i hi ha => ?_) (by decide)
  · rw [← h.program (135 + i) (by omega) (by omega)]
    congr 1
    omega
  · simp only [firmwareArea] at ha
    omega

theorem Holds.load (h : Holds stage2 drive loaded memory) (hfits : loaded.length + sector.length ≤ 0x10000) :
    Holds stage2 drive (loaded ++ sector) (memory.load (0x20000 + loaded.length) sector) where
  short := h.short
  text := h.text
  message := h.message
  program i hi hne := by
    have := h.short
    rw [Ram.load, if_neg (by omega), h.program i hi hne]
  bootDrive := by rw [Ram.load, if_neg (by omega), h.bootDrive]
  loaded_le := by rwa [List.length_append]
  image i hi := by
    rw [List.length_append] at hi
    rw [Ram.load]
    by_cases hbefore : i < loaded.length
    · rw [if_neg (by omega), h.image i hbefore, List.getD_eq_getElem?_getD,
        List.getD_eq_getElem?_getD, List.getElem?_append_left hbefore]
    · rw [if_pos (by omega), List.getD_eq_getElem?_getD, List.getD_eq_getElem?_getD,
        List.getElem?_append_right (by omega)]
      congr 2
      omega

-- ---------------------------------------------------------------------------
-- Reading
-- ---------------------------------------------------------------------------

/-- The registers at `read_loop`, with `index` sectors read and `left` to read. -/
def reading (cpu : Cpu) (index left : Nat) (ax dx : UInt16) (carry zero : Bool) : Cpu :=
  { cpu with
    ax, dx, carry, zero, cs := 0, ds := 0, ss := 0, es := 0x2000, sp := 0x7A00, ip := 0x801F
    bx := UInt16.ofNat (512 * index), si := UInt16.ofNat (0x8099 + 3 * index)
    cx := UInt16.ofNat left, backward := false, interrupts := true }

def asking (cpu : Cpu) (index left : Nat) (chs : Chs) (drive : UInt8) (carry zero : Bool) : Cpu :=
  { reading cpu index left (joinBytes 0x01 0x02) (joinBytes drive chs.head) carry zero with
    ip := 0x8030, sp := 0x79FE, cx := joinBytes chs.sector chs.cylinder }

theorem asking_request (hvalid : chs.Valid) (hindex : index < 128) :
    (asking cpu index left chs drive carry zero).diskRequest =
      ⟨drive, chs.cylinder.toNat, chs.head.toNat, chs.sector.toNat, 1, 0x20000 + 512 * index⟩ := by
  have hsector := hvalid.sector_le
  have hbuffer : linear 0x2000 (UInt16.ofNat (512 * index)) = 0x20000 + 512 * index := by
    rw [linear, UInt16.toNat_ofNat', show (0x2000 : UInt16).toNat = 0x2000 from rfl]
    omega
  simp only [asking, reading, Cpu.diskRequest, Cpu.reg8, lowHalf_joinBytes, highHalf_joinBytes,
    hbuffer, DiskRequest.mk.injEq]
  refine ⟨trivial, ?_, trivial, ?_, rfl, trivial⟩
  · omega
  · omega

theorem toNat_entry (hindex : index < 128) (k : Nat) (hk : k < 3) :
    (UInt16.ofNat (0x8099 + 3 * index) + UInt16.ofNat k).toNat = 0x8000 + (153 + 3 * index + k) := by
  rw [UInt16.toNat_add, UInt16.toNat_ofNat', UInt16.toNat_ofNat']
  omega

theorem Holds.entry (h : Holds stage2 drive loaded memory)
    (hentry : slice stage2 (153 + 3 * index) 3 = bytes) (hk : k < bytes.length) (hlength : bytes.length = 3) :
    memory (0x8000 + (153 + 3 * index + k)) = bytes.getD k 0 := by
  have hbyte := getElem?_slice stage2 (153 + 3 * index) 3 k
  rw [hentry, if_pos (by omega), List.getElem?_eq_getElem hk] at hbyte
  have hinside : 153 + 3 * index + k < stage2.length := (List.getElem?_eq_some_iff.mp hbyte.symm).1
  rw [h.program _ hinside (by omega), List.getD_eq_getElem?_getD, ← hbyte,
    List.getD_eq_getElem?_getD, List.getElem?_eq_getElem hk]

theorem ask_runs (hlines : ∀ line ∈ round, LineIn 0x8000 stage2 134 line)
    (hholds : Holds stage2 drive loaded memory) 
    (hentry : slice stage2 (153 + 3 * index) 3 = Chs.bytes chs) (hindex : index < 128)
    (hrest : ∀ memory', Holds stage2 drive loaded memory' →
      memory'.word 0 0x79FE = UInt16.ofNat left →
        Runs disk drive (firmwareArea 0x79FE) goal
          ⟨asking cpu index left chs drive carry zero, memory', vga, events⟩) :
    Runs disk drive (firmwareArea 0x7A00) goal
      ⟨reading cpu index left ax dx carry zero, memory, vga, events⟩ := by
  simp only [round, List.forall_mem_append, List.forall_mem_cons] at hlines
  obtain ⟨⟨⟨⟨hpush, hreadOne⟩, hcylinder, hhead, hsector, hdrive, -⟩, -⟩, -⟩ := hlines
  have hsp : (reading cpu index left ax dx carry zero).sp = 0x7A00 := rfl
  refine Runs.push ⟨rfl, by decide, rfl, rfl, hpush, hholds.codeAt (by decide)⟩ hsp rfl ?_
  have hpushed : memory.ChangesIn (firmwareArea 0x7A00)
      (memory.setWord 0 0x79FE (UInt16.ofNat left)) := Ram.changesIn_setWord (by decide) memory _
  have hword : (memory.setWord 0 0x79FE (UInt16.ofNat left)).word 0 0x79FE = UInt16.ofNat left :=
    Ram.word_setWord memory 0x79FE _
  have hholds' : Holds stage2 drive loaded (memory.setWord 0 0x79FE (UInt16.ofNat left)) := by
    have hfits := hholds.loaded_le
    refine hholds.of_eq fun a ha => hpushed.eq ?_
    simp only [firmwareArea]
    omega
  show Runs disk drive (firmwareArea 0x79FE) goal
    ⟨{ reading cpu index left ax dx carry zero with ip := 0x8020, sp := 0x79FE },
      memory.setWord 0 0x79FE (UInt16.ofNat left), vga, events⟩
  generalize memory.setWord 0 0x79FE (UInt16.ofNat left) = stacked at hholds' hword ⊢
  have hcode := hholds'.codeAt (show 0x79FE ≤ 0x8000 by decide)
  have hblock : runLines 0x79FE readOne
      { reading cpu index left ax dx carry zero with ip := 0x8020, sp := 0x79FE } =
      some { reading cpu index left (joinBytes 0x01 0x02) dx carry zero with
        ip := 0x8024, sp := 0x79FE } := by
    simp [readOne, runLines, Cpu.calm, Cpu.stackBelow, Cpu.execute, Cpu.setReg8, reading]
  refine Runs.block (by decide) hreadOne hcode hblock ?_
  have hclear (k : Nat) (hk : k < 3) : ¬ firmwareArea 0x79FE
      (UInt16.ofNat (0x8099 + 3 * index) + UInt16.ofNat k).toNat := by
    rw [toNat_entry hindex k hk, firmwareArea]
    omega
  have hbyte (k : Nat) (hk : k < 3) : stacked
      (UInt16.ofNat (0x8099 + 3 * index) + UInt16.ofNat k).toNat = chs.bytes.getD k 0 := by
    rw [toNat_entry hindex k hk]
    exact hholds'.entry hentry hk rfl
  refine Runs.loadByte ⟨rfl, by decide, rfl, rfl, hcylinder, hcode⟩ rfl (hclear 0 (by decide))
    (hbyte 0 (by decide)) ?_
  refine Runs.loadByte ⟨rfl, by decide, rfl, rfl, hhead, hcode⟩ rfl (hclear 1 (by decide))
    (hbyte 1 (by decide)) ?_
  refine Runs.loadByte ⟨rfl, by decide, rfl, rfl, hsector, hcode⟩ rfl (hclear 2 (by decide))
    (hbyte 2 (by decide)) ?_
  refine Runs.loadByte ⟨rfl, by decide, rfl, rfl, hdrive, hcode⟩ rfl (by decide)
    hholds'.bootDrive ?_
  have hdone := hrest stacked hholds' hword
  simp only [Cpu.setReg8, highHalf_joinBytes]
  exact hdone

theorem failure_runs (hlines : ∀ line ∈ failure, LineIn 0x8000 stage2 134 line)
    (hhalt : ∀ line ∈ haltLoop 0x8068, LineIn 0x8000 stage2 134 line)
    (hholds : Holds stage2 drive loaded memory) (hip : cpu.ip = 0x806B) (hcs : cpu.cs = 0)
    (hss : cpu.ss = 0) (hsp : cpu.sp = 0x79FE) (hforward : cpu.backward = false)
    (hinterrupts : cpu.interrupts = true) :
    Runs disk drive (firmwareArea 0x79FE) (Gone disk drive (events ++ imageLoadFailed))
      ⟨cpu, memory, vga, events⟩ := by
  simp only [failure, List.forall_mem_append] at hlines
  obtain ⟨⟨hclear, htell⟩, hprint⟩ := hlines
  have hcode := hholds.codeAt (show 0x79FE ≤ 0x8000 by decide)
  have hblock : runLines 0x79FE clearSegment cpu =
      some { cpu with ip := 0x806F, ax := 0, ds := 0, carry := false, zero := true } := by
    simp [clearSegment, runLines, Cpu.calm, Cpu.stackBelow, Cpu.execute, Cpu.setSegment, Cpu.reg16,
      Cpu.setReg16, hip, hcs, hss, hsp]
  refine Runs.block (by decide) hclear hcode hblock ?_
  exact Runs.tell htell hprint hhalt hcode (hholds.textAt (by decide)) rfl hcs rfl hss hforward
    hinterrupts (by rw [hsp]; rfl) (by decide) (by decide)

/-- A round of `read_loop`: one more sector, or the end. -/
theorem round_runs (hlines : ∀ line ∈ round ++ failure ++ haltLoop 0x8068,
      LineIn 0x8000 stage2 134 line)
    (hholds : Holds stage2 drive loaded memory) (hloaded : loaded.length = 512 * index)
    (hentry : slice stage2 (153 + 3 * index) 3 = Chs.bytes chs) (hindex : index < 128)
    (hvalid : chs.Valid) (hcylinder : chs.cylinder.toNat < 80)
    (hinside : 512 * chs.lba + 512 ≤ disk.length) (hleft : left + 1 < 2 ^ 16)
    (hok : ∀ ax dx carry zero memory', Holds stage2 drive (loaded ++ diskSector disk chs.lba) memory' →
      Runs disk drive (firmwareArea 0x7A00) goal
        ⟨{ reading cpu (index + 1) left ax dx carry zero with
            ip := if left = 0 then 0x803F else 0x801F }, memory', vga,
          events ++ [.read chs.lba 1 true]⟩)
    (hfail : ∀ machine, Gone disk drive (events ++ [.read chs.lba 1 false] ++ imageLoadFailed) machine →
      goal machine) :
    Runs disk drive (firmwareArea 0x7A00) goal
      ⟨reading cpu index (left + 1) ax dx carry zero, memory, vga, events⟩ := by
  simp only [List.forall_mem_append] at hlines
  obtain ⟨⟨hround, hfailure⟩, hhalt⟩ := hlines
  refine ask_runs hround hholds hentry hindex fun stacked hstacked hword => ?_
  simp only [round, advance, List.forall_mem_append, List.forall_mem_cons] at hround
  obtain ⟨⟨⟨-, -, -, -, -, hread, hjc, -⟩, haddSi, haddBx, -⟩, hpop, hloop, -⟩ := hround
  have hcode := hstacked.codeAt (show 0x79FE ≤ 0x8000 by decide)
  have hrequest : DiskRequest.Valid ⟨drive, chs.cylinder.toNat, chs.head.toNat, chs.sector.toNat, 1,
      0x20000 + 512 * index⟩ drive := by
    have hhead := hvalid.head_le
    have hfirst := hvalid.one_le_sector
    have hlast := hvalid.sector_le
    constructor <;> simp only <;> omega
  have hlba : DiskRequest.lba ⟨drive, chs.cylinder.toNat, chs.head.toNat, chs.sector.toNat, 1,
      0x20000 + 512 * index⟩ = chs.lba := rfl
  refine Runs.read ⟨rfl, by decide, rfl, rfl, hread, hcode⟩ (highHalf_joinBytes _ _)
    (asking_request hvalid hindex) hrequest (by rw [hlba]; omega) (fun ax' zero' => ?_)
    fun ax' zero' memory' hbuffer => ?_
  · rw [hlba]
    have hsector : slice disk (512 * chs.lba) (512 * 1) = diskSector disk chs.lba := rfl
    have hlength : (diskSector disk chs.lba).length = 512 := length_slice hinside
    have hholds' : Holds stage2 drive (loaded ++ diskSector disk chs.lba)
        (stacked.load (0x20000 + 512 * index) (diskSector disk chs.lba)) := by
      rw [← hloaded]
      exact hstacked.load (by omega)
    have hword' : (stacked.load (0x20000 + 512 * index) (diskSector disk chs.lba)).word 0 0x79FE =
        UInt16.ofNat (left + 1) := by
      rw [← hword, Ram.word, Ram.word, Ram.load, Ram.load, if_neg, if_neg]
      · rw [linear_zero]
        have := ((0x79FE : UInt16) + 1).toNat_lt
        omega
      · rw [linear_zero]
        have := (0x79FE : UInt16).toNat_lt
        omega
    rw [hsector]
    have hcode' := hholds'.codeAt (show 0x79FE ≤ 0x8000 by decide)
    refine Runs.register ⟨rfl, by decide, rfl, rfl, hjc, hcode'⟩ rfl ?_
    refine Runs.register ⟨rfl, by decide, rfl, rfl, haddSi, hcode'⟩ rfl ?_
    refine Runs.register ⟨rfl, by decide, rfl, rfl, haddBx, hcode'⟩ rfl ?_
    refine Runs.pop ⟨rfl, by decide, rfl, rfl, hpop, hcode'⟩ (show _ = (0x79FE : UInt16) from rfl)
      rfl (by decide) hword' ?_
    have hcode'' := hholds'.codeAt (show 0x7A00 ≤ 0x8000 by decide)
    refine Runs.register ⟨rfl, by decide, rfl, rfl, hloop, hcode''⟩ rfl ?_
    have hsi : UInt16.ofNat (0x8099 + 3 * index) + 3 = UInt16.ofNat (0x8099 + 3 * (index + 1)) :=
      (UInt16.ofNat_add _ 3).symm
    have hbx : UInt16.ofNat (512 * index) + 512 = UInt16.ofNat (512 * (index + 1)) :=
      (UInt16.ofNat_add _ 512).symm
    have hcx : UInt16.ofNat (left + 1) - 1 = UInt16.ofNat left := by
      rw [UInt16.ofNat_add]
      exact UInt16.add_sub_cancel _ 1
    have hzero : (UInt16.ofNat left == 0) = decide (left = 0) := by
      rw [Bool.eq_iff_iff, beq_iff_eq, decide_eq_true_eq, ← UInt16.toNat_inj, UInt16.toNat_ofNat',
        Nat.mod_eq_of_lt (by omega)]
      rfl
    have hsp : (0x79FE : UInt16) + 2 = 0x7A00 := rfl
    simp only [Cpu.setReg16, Cpu.reg16, asking, reading, hsi, hbx, hcx, hsp, hzero, reduceCtorEq,
      if_false]
    generalize decide (2 ^ 16 ≤ (UInt16.ofNat (512 * index)).toNat + UInt16.toNat 512) = carry
    have hdone := hok ax' (joinBytes drive chs.head) carry (UInt16.ofNat (512 * (index + 1)) == 0) _
      hholds'
    by_cases hlast : left = 0
    · simp only [hlast, decide_true, if_true] at hdone ⊢
      exact hdone
    · simp only [hlast, decide_false, Bool.false_eq_true, if_false] at hdone ⊢
      exact hdone
  · have hholds' : Holds stage2 drive loaded memory' := by
      refine hstacked.of_eq fun a ha => hbuffer.eq fun hinBuffer => ?_
      simp only [DiskRequest.InBuffer] at hinBuffer
      omega
    have hcode' := hholds'.codeAt (show 0x79FE ≤ 0x8000 by decide)
    refine Runs.register ⟨rfl, by decide, rfl, rfl, hjc, hcode'⟩ rfl ?_
    rw [hlba]
    exact Runs.imp (failure_runs hfailure hhalt hholds' rfl rfl rfl rfl rfl rfl) hfail

-- ---------------------------------------------------------------------------
-- The start
-- ---------------------------------------------------------------------------

def settled (cpu : Cpu) : Cpu :=
  { cpu with
    ax := 0, ds := 0, es := 0, ss := 0, cs := 0, sp := 0x7A00, ip := 0x800E
    carry := false, zero := true, backward := false, interrupts := true }

theorem prelude_runs (hlines : ∀ line ∈ prelude sectors, LineIn 0x8000 stage2 134 line)
    (hmessage : slice stage2 135 18 = asciiBytes "Image load failed" ++ [0x00])
    (htext : 153 ≤ stage2.length) (hshort : stage2.length ≤ 0x8000)
    (hentry : Stage2Entry disk drive count machine)
    (hprogram : ∀ i < stage2.length, machine.memory (0x8000 + i) = stage2.getD i 0)
    (hrest : ∀ ax dx carry zero memory, Holds stage2 drive [] memory →
      Runs disk drive (firmwareArea 0x7A00) goal
        ⟨reading machine.cpu 0 sectors.toNat ax dx carry zero, memory, machine.vga, machine.events⟩) :
    Eventually (Step disk drive) goal machine := by
  simp only [prelude, List.forall_mem_append, List.forall_mem_cons] at hlines
  obtain ⟨⟨⟨hcli, hsetUp⟩, hsave, -⟩, hstart⟩ := hlines
  have horigin : (0x8000 : UInt16).toNat = 0x8000 := rfl
  have hcode (memory : Ram) (hmemory : ∀ i < 134, memory (0x8000 + i) = stage2.getD i 0) (top : Nat)
      (htop : top ≤ 0x8000) : CodeAt (firmwareArea top) 0x8000 stage2 134 memory := by
    refine ⟨by decide, hmemory, fun i hi ha => ?_⟩
    simp only [firmwareArea, horigin] at ha
    omega
  have hloaded := hcode machine.memory (fun i hi => hprogram i (by omega)) 0x7C00 (by decide)
  suffices Runs disk drive (firmwareArea 0x7C00) goal
      ⟨machine.cpu, machine.memory, machine.vga, machine.events⟩ from this machine (.refl _ _)
  refine Runs.register ⟨hentry.stack, by decide, hentry.cs, hentry.ip, hcli, hloaded⟩ rfl ?_
  have hblock : runLines 0x7C00 setUp
      { machine.cpu with ip := disableInterrupts.next, interrupts := false } =
      some (settled machine.cpu) := by
    simp [disableInterrupts, setUp, runLines, Cpu.calm, Cpu.stackBelow, Cpu.execute,
      Cpu.setSegment, Cpu.reg16, Cpu.setReg16, settled, hentry.cs]
  refine Runs.block (by decide) hsetUp hloaded hblock
    (Runs.afresh (firmwareArea 0x7A00) fun memory hkept => ?_)
  have hprogram' (i : Nat) (hi : i < stage2.length) : memory (0x8000 + i) = stage2.getD i 0 := by
    refine (hkept.eq fun ha => ?_).trans (hprogram i hi)
    simp only [firmwareArea] at ha
    omega
  refine Runs.storeByte ⟨rfl, by decide, rfl, rfl, hsave,
    hcode memory (fun i hi => hprogram' i (by omega)) 0x7A00 (by decide)⟩ rfl ?_
  have hdrive : (settled machine.cpu).reg8 .dl = drive := hentry.dl
  rw [hdrive]
  have hholds : Holds stage2 drive [] (Function.update memory 0x8086 drive) := by
    refine ⟨hshort, htext, hmessage, fun i hi hne => ?_, Function.update_self _ _ _, by decide,
      fun i hi => absurd hi (Nat.not_lt_zero i)⟩
    exact (Function.update_of_ne (show 0x8000 + i ≠ 0x8086 by omega) _ _).trans (hprogram' i hi)
  have hblock' : runLines 0x7A00 (startReading sectors) { settled machine.cpu with ip := saveDrive.next } =
      some (reading machine.cpu 0 sectors.toNat 0x2000 machine.cpu.dx false true) := by
    simp [saveDrive, startReading, runLines, Cpu.calm, Cpu.stackBelow, Cpu.execute, Cpu.setSegment,
      Cpu.reg16, Cpu.setReg16, settled, reading]
  exact Runs.block (by decide) hstart (hholds.codeAt (by decide)) hblock' (hrest _ _ _ _ _ hholds)

-- ---------------------------------------------------------------------------
-- The whole table
-- ---------------------------------------------------------------------------

/-- Stage 2 carries these entries, and each of them is a sector of the disk. -/
structure Table (disk stage2 : Bytes) (entries : List Chs) : Prop where
  entry : ∀ i chs, entries[i]? = some chs → slice stage2 (153 + 3 * i) 3 = chs.bytes
  valid : ∀ chs ∈ entries, chs.Valid
  cylinder_lt : ∀ chs ∈ entries, chs.cylinder.toNat < 80
  inside : ∀ chs ∈ entries, 512 * chs.lba + 512 ≤ disk.length
  length_le : entries.length ≤ 128

/-- `read_loop` reads what is pending, or stops at a sector that cannot be read. -/
theorem readLoop_runs (hlines : ∀ line ∈ round ++ failure ++ haltLoop 0x8068,
      LineIn 0x8000 stage2 134 line)
    (htable : Table disk stage2 (done ++ pending)) (hpending : pending ≠ [])
    (hholds : Holds stage2 drive (sectorsOf disk done) memory)
    (hok : ∀ ax dx carry zero memory',
      Holds stage2 drive (sectorsOf disk (done ++ pending)) memory' →
      Runs disk drive (firmwareArea 0x7A00) goal
        ⟨{ reading cpu (done ++ pending).length 0 ax dx carry zero with ip := 0x803F }, memory', vga,
          events ++ readEvents (done ++ pending)⟩)
    (hfail : ∀ machine, ReadFails disk drive (done ++ pending) events machine → goal machine) :
    Runs disk drive (firmwareArea 0x7A00) goal
      ⟨reading cpu done.length pending.length ax dx carry zero, memory, vga,
        events ++ readEvents done⟩ := by
  induction pending generalizing done memory ax dx carry zero with
  | nil => exact absurd rfl hpending
  | cons chs rest ih =>
    have hlength := htable.length_le
    have hmem : chs ∈ done ++ chs :: rest := List.mem_append_right _ List.mem_cons_self
    have hentry : (done ++ chs :: rest)[done.length]? = some chs := by
      rw [List.getElem?_append_right Nat.le.refl, Nat.sub_self]
      rfl
    rw [List.length_append, List.length_cons] at hlength
    have hloaded : (sectorsOf disk done).length = 512 * done.length :=
      length_sectorsOf fun chs hchs => htable.inside chs (List.mem_append_left _ hchs)
    have hsectors : sectorsOf disk done ++ diskSector disk chs.lba = sectorsOf disk (done ++ [chs]) := by
      rw [sectorsOf, sectorsOf, List.flatMap_append, List.flatMap_singleton]
    have hevents : events ++ readEvents done ++ [.read chs.lba 1 true] =
        events ++ readEvents (done ++ [chs]) := by
      rw [readEvents, readEvents, List.map_append, List.append_assoc]
      rfl
    refine round_runs hlines hholds hloaded (htable.entry _ chs hentry) (by omega)
      (htable.valid chs hmem) (htable.cylinder_lt chs hmem) (htable.inside chs hmem) (by omega)
      (fun ax' dx' carry' zero' memory' hholds' => ?_)
      fun machine hgone => hfail machine ⟨done, chs, rest, rfl, hgone⟩
    rw [hsectors] at hholds'
    rw [hevents]
    have hsplit : done ++ chs :: rest = (done ++ [chs]) ++ rest := by
      rw [List.append_assoc]
      rfl
    have hcount : done.length + 1 = (done ++ [chs]).length := by
      rw [List.length_append, List.length_singleton]
    rw [hcount]
    rw [hsplit] at htable hok hfail
    by_cases hlast : rest = []
    · subst hlast
      rw [List.append_nil] at hok
      exact hok ax' dx' carry' zero' memory' hholds'
    · have hmore : rest.length ≠ 0 := fun hzero => hlast (List.length_eq_zero_iff.mp hzero)
      rw [if_neg hmore]
      exact ih htable hlast hholds' hok hfail

end Stage2

end

end DragonOS.Build
