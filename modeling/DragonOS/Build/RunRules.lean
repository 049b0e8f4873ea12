import DragonOS.Build.MachineRules

/-!
# Rules for runs

There is a rule for each thing that the boot code does. Instructions that stay in the
registers are evaluated, one (`Runs.register`) or a block of them (`Runs.block`); what goes
to memory, to a port, to the stack or to a service has a rule of its own.
-/

namespace DragonOS.Build

open Lib

section
variable {disk : Bytes} {drive : UInt8} {goal : Machine → Prop} {line : Line} {top : Nat}
  {cpu cpu' : Cpu} {memory memory' : Ram} {vga : Vga} {events : List Event}
  {address next offset : UInt16} {place : MemoryOperand}

/-- The processor is about to execute a line of code that nothing has written over. -/
structure Poised (top : Nat) (origin : UInt16) (code : Bytes) (stop : Nat) (line : Line)
    (cpu : Cpu) (memory : Ram) : Prop where
  stack : cpu.stackBelow top
  top_ge : 0x500 ≤ top
  cs : cpu.cs = 0
  ip : cpu.ip = line.address
  listed : LineIn origin code stop line
  loaded : CodeAt (firmwareArea top) origin code stop memory

theorem Poised.quiet (h : Poised top origin code stop line cpu memory) :
    cpu.Quiet (firmwareArea top) :=
  fun _ _ howns => Cpu.owns_firmwareArea h.stack h.top_ge howns

theorem Poised.plain {top' : Nat} {after : Machine}
    (h : Poised top origin code stop line cpu memory)
    (hplain : ∀ interrupt, line.instruction ≠ .int interrupt)
    (heffect : ∀ ready,
      Matches (firmwareArea top) ⟨{ cpu with ip := line.next }, memory, vga, events⟩ ready →
        Matches (firmwareArea top') after (ready.execute line.instruction))
    (hrest : Runs disk drive (firmwareArea top') goal after) :
    Runs disk drive (firmwareArea top) goal ⟨cpu, memory, vga, events⟩ :=
  Runs.plain h.quiet h.loaded h.cs h.listed h.ip hplain heffect hrest

-- ---------------------------------------------------------------------------
-- Registers
-- ---------------------------------------------------------------------------

theorem Cpu.execute_int (cpu : Cpu) (interrupt : UInt8) : cpu.execute (.int interrupt) = none := rfl

theorem Machine.execute_of_cpu {machine : Machine} {instruction : Instruction16}
    (hcpu : machine.cpu = cpu) (hexecute : cpu.execute instruction = some cpu') :
    machine.execute instruction = { machine with cpu := cpu' } := by
  rw [execute, hcpu, hexecute]

theorem Runs.register (h : Poised top origin code stop line cpu memory)
    (hexecute : { cpu with ip := line.next }.execute line.instruction = some cpu')
    (hrest : Runs disk drive (firmwareArea top) goal ⟨cpu', memory, vga, events⟩) :
    Runs disk drive (firmwareArea top) goal ⟨cpu, memory, vga, events⟩ := by
  refine h.plain (fun interrupt hinterrupt => ?_) (fun ready hready => ?_) hrest
  · rw [hinterrupt, Cpu.execute_int] at hexecute
    cases hexecute
  · rw [Machine.execute_of_cpu hready.cpu hexecute]
    exact ⟨rfl, hready.memory, hready.vga, hready.events⟩

/-- Executes lines one after the other, as long as they stay in the registers. -/
def runLines (top : Nat) : List Line → Cpu → Option Cpu
  | [], cpu => some cpu
  | line :: lines, cpu =>
    if cpu.calm top && cpu.cs == 0 && cpu.ip == line.address then
      ({ cpu with ip := line.next }.execute line.instruction).bind (runLines top lines)
    else none

theorem Runs.block {lines : List Line} (htop : 0x500 ≤ top)
    (hlines : ∀ line ∈ lines, LineIn origin code stop line)
    (hcode : CodeAt (firmwareArea top) origin code stop memory)
    (hblock : runLines top lines cpu = some cpu')
    (hrest : Runs disk drive (firmwareArea top) goal ⟨cpu', memory, vga, events⟩) :
    Runs disk drive (firmwareArea top) goal ⟨cpu, memory, vga, events⟩ := by
  induction lines generalizing cpu with
  | nil =>
    obtain rfl := Option.some.inj hblock
    exact hrest
  | cons line lines ih =>
    obtain ⟨hline, hlines⟩ := List.forall_mem_cons.mp hlines
    rw [runLines] at hblock
    split at hblock
    case isFalse => cases hblock
    next hchecks =>
    simp only [Bool.and_eq_true, beq_iff_eq] at hchecks
    obtain ⟨executed, hexecute, hblock⟩ := Option.bind_eq_some_iff.mp hblock
    refine Runs.plain (Cpu.quiet_of_calm hchecks.1.1 htop) hcode hchecks.1.2 hline hchecks.2 ?_ ?_
      (ih hlines hblock)
    · intro interrupt hinterrupt
      rw [hinterrupt, Cpu.execute_int] at hexecute
      cases hexecute
    · intro ready hready
      rw [Machine.execute_of_cpu hready.cpu hexecute]
      exact ⟨rfl, hready.memory, hready.vga, hready.events⟩

-- ---------------------------------------------------------------------------
-- Memory and ports
-- ---------------------------------------------------------------------------

/-- Starting afresh from what the machine is now, with another idea of what is off. -/
theorem Runs.afresh {off : Nat → Prop} (off' : Nat → Prop)
    (h : ∀ memory', memory.ChangesIn off memory' →
      Runs disk drive off' goal ⟨cpu, memory', vga, events⟩) :
    Runs disk drive off goal ⟨cpu, memory, vga, events⟩ := by
  intro machine hmatches
  refine h machine.memory hmatches.memory machine ⟨hmatches.cpu, .refl, hmatches.vga, hmatches.events⟩

theorem Runs.imp {off : Nat → Prop} {ideal : Machine} {goal' : Machine → Prop}
    (h : Runs disk drive off goal ideal) (himp : ∀ machine, goal machine → goal' machine) :
    Runs disk drive off goal' ideal := fun machine hmatches => (h machine hmatches).mono himp

theorem Runs.storeByte
    (h : Poised top origin code stop ⟨address, .movFromReg8 (.memory place) reg, next⟩ cpu memory)
    (haddress : cpu.address place = (0, offset))
    (hrest : Runs disk drive (firmwareArea top) goal
      ⟨{ cpu with ip := next }, Function.update memory offset.toNat (cpu.reg8 reg), vga, events⟩) :
    Runs disk drive (firmwareArea top) goal ⟨cpu, memory, vga, events⟩ := by
  refine h.plain (fun _ => Instruction16.noConfusion) (fun ready hready => ?_) hrest
  have hexecute : ready.execute (.movFromReg8 (.memory place) reg) = { ready with
      memory := ready.memory.setByte (ready.cpu.address place).1 (ready.cpu.address place).2
        (ready.cpu.reg8 reg) } := rfl
  have haddress' : ready.cpu.address place = (0, offset) := by rw [hready.cpu, ← haddress]; rfl
  have hvalue : ready.cpu.reg8 reg = cpu.reg8 reg := by rw [hready.cpu]; rfl
  rw [hexecute, haddress', hvalue, ← linear_zero]
  exact ⟨hready.cpu, hready.memory.setByte 0 offset _, hready.vga, hready.events⟩

theorem Runs.loadByte
    (h : Poised top origin code stop ⟨address, .movToReg8 reg (.memory place), next⟩ cpu memory)
    (haddress : cpu.address place = (0, offset)) (hclear : ¬ firmwareArea top offset.toNat)
    (hbyte : memory offset.toNat = value)
    (hrest : Runs disk drive (firmwareArea top) goal
      ⟨{ cpu with ip := next }.setReg8 reg value, memory, vga, events⟩) :
    Runs disk drive (firmwareArea top) goal ⟨cpu, memory, vga, events⟩ := by
  refine h.plain (fun _ => Instruction16.noConfusion) (fun ready hready => ?_) hrest
  have hexecute : ready.execute (.movToReg8 reg (.memory place)) = { ready with
      cpu := ready.cpu.setReg8 reg (ready.memory
        (linear (ready.cpu.address place).1 (ready.cpu.address place).2)) } := rfl
  have haddress' : ready.cpu.address place = (0, offset) := by rw [hready.cpu, ← haddress]; rfl
  have hvalue : ready.memory (linear 0 offset) = value := by
    rw [linear_zero]
    exact (hready.memory.eq hclear).trans hbyte
  rw [hexecute, haddress', hvalue, hready.cpu]
  exact ⟨rfl, hready.memory, hready.vga, hready.events⟩

theorem Machine.stride_forward {machine : Machine} (h : machine.cpu.backward = false)
    (width : UInt16) : machine.stride width = width := by
  rw [stride, h, if_neg Bool.false_ne_true]

theorem Runs.lodsb (h : Poised top origin code stop ⟨address, .lodsb, next⟩ cpu memory)
    (hforward : cpu.backward = false) (hclear : ¬ firmwareArea top (linear cpu.ds cpu.si))
    (hbyte : memory (linear cpu.ds cpu.si) = value)
    (hrest : Runs disk drive (firmwareArea top) goal
      ⟨{ cpu with ip := next, si := cpu.si + 1, ax := joinBytes value (highHalf cpu.ax) }, memory,
        vga, events⟩) :
    Runs disk drive (firmwareArea top) goal ⟨cpu, memory, vga, events⟩ := by
  refine h.plain (fun _ => Instruction16.noConfusion) (fun ready hready => ?_) hrest
  have hexecute : ready.execute .lodsb = { ready with
      cpu := { ready.cpu.setReg8 .al (ready.memory (linear ready.cpu.ds ready.cpu.si)) with
        si := ready.cpu.si + ready.stride 1 } } := rfl
  have hstride : ready.stride 1 = 1 := Machine.stride_forward (by rw [hready.cpu]; exact hforward) 1
  have hvalue : ready.memory (linear ready.cpu.ds ready.cpu.si) = value := by
    rw [hready.cpu]
    exact (hready.memory.eq hclear).trans hbyte
  rw [hexecute, hvalue, hstride, hready.cpu]
  exact ⟨rfl, hready.memory, hready.vga, hready.events⟩

theorem Runs.out (h : Poised top origin code stop ⟨address, .outDxAl, next⟩ cpu memory)
    (hport : cpu.dx = 0x03C8 ∨ cpu.dx = 0x03C9)
    (hrest : Runs disk drive (firmwareArea top) goal
      ⟨{ cpu with ip := next }, memory, vga.writePort cpu.dx (cpu.reg8 .al), events⟩) :
    Runs disk drive (firmwareArea top) goal ⟨cpu, memory, vga, events⟩ := by
  refine h.plain (fun _ => Instruction16.noConfusion) (fun ready hready => ?_) hrest
  have hexecute : ready.execute .outDxAl =
      ready.writePort ready.cpu.dx (ready.cpu.reg8 .al) := rfl
  rw [hexecute, hready.cpu, Machine.writePort, if_pos hport]
  exact ⟨hready.cpu, hready.memory, by rw [hready.vga]; rfl, hready.events⟩

-- ---------------------------------------------------------------------------
-- Copying
-- ---------------------------------------------------------------------------

def Ram.copied (memory : Ram) (source target length : Nat) : Ram := fun a =>
  if target ≤ a ∧ a < target + length then memory (source + (a - target)) else memory a

structure InSegment (segment offset : UInt16) (start length : Nat) : Prop where
  start_eq : segment.toNat * 16 + offset.toNat = start
  offset_le : offset.toNat + length ≤ 2 ^ 16
  start_le : start + length ≤ 2 ^ 20

theorem InSegment.linear_add {segment offset : UInt16} (h : InSegment segment offset start length) (hi : i < length) :
    linear segment (offset + UInt16.ofNat i) = start + i := by
  obtain ⟨hstart, hoffset, hend⟩ := h
  rw [linear, UInt16.toNat_add, UInt16.toNat_ofNat']
  omega

theorem Ram.copied_zero (memory : Ram) (source target : Nat) :
    memory.copied source target 0 = memory := by
  funext a
  exact if_neg (by omega)

theorem Ram.copied_setWord (hsource : InSegment ds si source length)
    (htarget : InSegment es di target length)
    (hapart : source + length ≤ target ∨ target + length ≤ source) (hn : 2 * n + 2 ≤ length) :
    (memory.copied source target (2 * n)).setWord es (di + UInt16.ofNat (2 * n))
        ((memory.copied source target (2 * n)).word ds (si + UInt16.ofNat (2 * n))) =
      memory.copied source target (2 * (n + 1)) := by
  have hsucc (offset : UInt16) :
      offset + UInt16.ofNat (2 * n) + 1 = offset + UInt16.ofNat (2 * n + 1) := by
    rw [UInt16.ofNat_add, ← UInt16.add_assoc]
    rfl
  have hread (i : Nat) (hi : i < length) :
      memory.copied source target (2 * n) (source + i) = memory (source + i) := if_neg (by omega)
  funext a
  rw [Ram.setWord, Ram.setByte, Ram.setByte, Ram.word, hsucc, hsucc,
    htarget.linear_add (by omega), htarget.linear_add (by omega), hsource.linear_add (by omega),
    hsource.linear_add (by omega), lowHalf_joinBytes, highHalf_joinBytes, hread _ (by omega),
    hread _ (by omega), Function.update_apply, Function.update_apply, Ram.copied, Ram.copied]
  split
  next hlast =>
    rw [if_pos (by omega)]
    congr 1
    omega
  next hlast =>
    split
    next hfirst =>
      rw [if_pos (by omega)]
      congr 1
      omega
    next hfirst =>
      by_cases hinside : target ≤ a ∧ a < target + 2 * n
      · rw [if_pos hinside, if_pos (by omega)]
      · rw [if_neg hinside, if_neg (by omega)]

theorem Machine.moveWord_forward {machine : Machine} (h : machine.cpu.backward = false) :
    machine.moveWord = { machine with
      cpu := { machine.cpu with si := machine.cpu.si + 2, di := machine.cpu.di + 2 }
      memory := machine.memory.setWord machine.cpu.es machine.cpu.di
        (machine.memory.word machine.cpu.ds machine.cpu.si) } := by
  rw [moveWord, stride_forward h]

theorem Machine.moveWord_iterate {machine : Machine} (hforward : machine.cpu.backward = false)
    (hsource : InSegment machine.cpu.ds machine.cpu.si source length)
    (htarget : InSegment machine.cpu.es machine.cpu.di target length)
    (hapart : source + length ≤ target ∨ target + length ≤ source) (hn : 2 * n ≤ length) :
    moveWord^[n] machine = { machine with
      cpu := { machine.cpu with
        si := machine.cpu.si + UInt16.ofNat (2 * n)
        di := machine.cpu.di + UInt16.ofNat (2 * n) }
      memory := machine.memory.copied source target (2 * n) } := by
  have hzero (offset : UInt16) : offset + UInt16.ofNat (2 * 0) = offset := UInt16.add_zero _
  induction n with
  | zero => simp only [Function.iterate_zero, id_eq, hzero, Nat.mul_zero, Ram.copied_zero]
  | succ n ih =>
    have hadd (offset : UInt16) :
        offset + UInt16.ofNat (2 * n) + 2 = offset + UInt16.ofNat (2 * (n + 1)) := by
      rw [Nat.mul_succ, UInt16.ofNat_add, ← UInt16.add_assoc]
      rfl
    rw [Function.iterate_succ_apply', ih (by omega), moveWord_forward]
    · simp only [hadd, Ram.copied_setWord hsource htarget hapart hn]
    · exact hforward

theorem Runs.repMovsw (h : Poised top origin code stop ⟨address, .repMovsw, next⟩ cpu memory)
    (hforward : cpu.backward = false) (hcount : 2 * cpu.cx.toNat = length)
    (hsource : InSegment cpu.ds cpu.si source length)
    (htarget : InSegment cpu.es cpu.di target length)
    (hapart : source + length ≤ target ∨ target + length ≤ source)
    (hclear : ∀ i < length, ¬ firmwareArea top (source + i))
    (hrest : Runs disk drive (firmwareArea top) goal
      ⟨{ cpu with
          ip := next, cx := 0, si := cpu.si + UInt16.ofNat length
          di := cpu.di + UInt16.ofNat length }, memory.copied source target length, vga, events⟩) :
    Runs disk drive (firmwareArea top) goal ⟨cpu, memory, vga, events⟩ := by
  refine h.plain (fun _ => Instruction16.noConfusion) (fun ready hready => ?_) hrest
  have hexecute : ready.execute .repMovsw =
      { Machine.moveWord^[ready.cpu.cx.toNat] ready with
        cpu := { (Machine.moveWord^[ready.cpu.cx.toNat] ready).cpu with cx := 0 } } := rfl
  have hcpu : ready.cpu = { cpu with ip := next } := hready.cpu
  have hmoved : Machine.moveWord^[ready.cpu.cx.toNat] ready = _ :=
    Machine.moveWord_iterate (by rw [hcpu]; exact hforward) (by rw [hcpu]; exact hsource)
      (by rw [hcpu]; exact htarget) hapart (by rw [hcpu]; exact hcount.le)
  rw [hexecute, hmoved, hcpu, hcount]
  refine ⟨rfl, fun a ha => ?_, hready.vga, hready.events⟩
  simp only [Ram.copied] at ha
  split at ha
  next hinside => exact absurd (hready.memory.eq (hclear (a - target) (by omega))) ha
  next hinside => exact hready.memory a ha

-- ---------------------------------------------------------------------------
-- The stack
-- ---------------------------------------------------------------------------

theorem Cpu.stackBelow_iff {cpu : Cpu} : cpu.stackBelow top ↔
    cpu.ss = 0 ∧ 0x7000 ≤ cpu.sp.toNat ∧ cpu.sp.toNat ≤ top := by
  simp only [stackBelow, Bool.and_eq_true, beq_iff_eq, decide_eq_true_eq, and_assoc]

theorem firmwareArea_mono {top' : Nat} (hle : top ≤ top') (h : firmwareArea top a) :
    firmwareArea top' a := by
  rcases h with hbelow | hhigh
  · exact .inl (by omega)
  · exact .inr hhigh

theorem Matches.pushWord {ideal machine : Machine} (h : Matches (firmwareArea top) ideal machine)
    (hss : ideal.cpu.ss = 0) (hsp : ideal.cpu.sp.toNat = top) (htop : 2 ≤ top) (value : UInt16) :
    Matches (firmwareArea (top - 2)) (ideal.pushWord value) (machine.pushWord value) := by
  have hlt := ideal.cpu.sp.toNat_lt
  have htwo : (2 : UInt16).toNat = 2 := rfl
  have hone : (1 : UInt16).toNat = 1 := rfl
  have hlow : linear ideal.cpu.ss (ideal.cpu.sp - 2) = top - 2 := by
    rw [hss, linear_zero, UInt16.toNat_sub, htwo]
    omega
  have hhigh : linear ideal.cpu.ss (ideal.cpu.sp - 2 + 1) = top - 1 := by
    rw [hss, linear_zero, UInt16.toNat_add, UInt16.toNat_sub, htwo, hone]
    omega
  refine ⟨by rw [Machine.pushWord, Machine.pushWord, h.cpu], fun a ha => ?_, h.vga, h.events⟩
  simp only [Machine.pushWord, Ram.setWord, Ram.setByte, h.cpu, hlow, hhigh] at ha
  have hlast : a ≠ top - 1 := fun heq => by simp [heq] at ha
  have hfirst : a ≠ top - 2 := fun heq => by simp [heq, show top - 2 ≠ top - 1 by omega] at ha
  simp only [Function.update_of_ne hlast, Function.update_of_ne hfirst] at ha
  rcases h.memory a ha with hbelow | hhigh
  · exact .inl (by omega)
  · exact .inr hhigh

theorem Runs.push (h : Poised top origin code stop ⟨address, .push reg, next⟩ cpu memory)
    (hsp : cpu.sp = sp) (htop : sp.toNat = top)
    (hrest : Runs disk drive (firmwareArea (top - 2)) goal
      ⟨{ cpu with ip := next, sp := sp - 2 }, memory.setWord 0 (sp - 2) (cpu.reg16 reg), vga,
        events⟩) :
    Runs disk drive (firmwareArea top) goal ⟨cpu, memory, vga, events⟩ := by
  obtain ⟨hss, hlow, -⟩ := Cpu.stackBelow_iff.mp h.stack
  subst hsp
  refine h.plain (fun _ => Instruction16.noConfusion) (fun ready hready => ?_) hrest
  have hexecute : ready.execute (.push reg) = ready.pushWord (ready.cpu.reg16 reg) := rfl
  have hvalue : ready.cpu.reg16 reg = cpu.reg16 reg := by
    rw [hready.cpu]
    cases reg <;> rfl
  have hpushed := hready.pushWord hss htop (by omega) (cpu.reg16 reg)
  have hmemory := hpushed.memory
  simp only [Machine.pushWord, hss] at hmemory
  rw [hexecute, hvalue]
  exact ⟨hpushed.cpu, hmemory, hpushed.vga, hpushed.events⟩

theorem Runs.call (h : Poised top origin code stop ⟨address, .callNear target, next⟩ cpu memory)
    (hsp : cpu.sp = sp) (htop : sp.toNat = top)
    (hrest : Runs disk drive (firmwareArea (top - 2)) goal
      ⟨{ cpu with ip := target, sp := sp - 2 }, memory.setWord 0 (sp - 2) next, vga, events⟩) :
    Runs disk drive (firmwareArea top) goal ⟨cpu, memory, vga, events⟩ := by
  obtain ⟨hss, hlow, -⟩ := Cpu.stackBelow_iff.mp h.stack
  subst hsp
  refine h.plain (fun _ => Instruction16.noConfusion) (fun ready hready => ?_) hrest
  have hexecute : ready.execute (.callNear target) =
      { ready.pushWord ready.cpu.ip with
        cpu := { (ready.pushWord ready.cpu.ip).cpu with ip := target } } := rfl
  have hpushed := hready.pushWord hss htop (by omega) next
  have hip : ready.cpu.ip = next := by rw [hready.cpu]
  have hmemory := hpushed.memory
  simp only [Machine.pushWord, hss] at hmemory
  rw [hexecute, hip]
  exact ⟨by simp only [hpushed.cpu]; rfl, hmemory, hpushed.vga, hpushed.events⟩

theorem Poised.topWord (h : Poised top origin code stop line cpu memory) (htop : cpu.sp.toNat = top)
    (hhigh : top ≤ 0x7C00)
    (hready : Matches (firmwareArea top) ⟨{ cpu with ip := next }, memory, vga, events⟩ ready) :
    ready.topWord = memory.word 0 cpu.sp := by
  obtain ⟨hss, -, -⟩ := Cpu.stackBelow_iff.mp h.stack
  have hone : (1 : UInt16).toNat = 1 := rfl
  rw [Machine.topWord, hready.cpu]
  simp only [hss]
  refine hready.memory.word ?_ ?_
  · rw [linear_zero, firmwareArea]
    omega
  · rw [linear_zero, UInt16.toNat_add, hone, firmwareArea]
    omega

theorem Runs.pop (h : Poised top origin code stop ⟨address, .pop reg, next⟩ cpu memory)
    (hsp : cpu.sp = sp) (htop : sp.toNat = top) (hhigh : top ≤ 0x7C00)
    (hword : memory.word 0 sp = value)
    (hrest : Runs disk drive (firmwareArea (top + 2)) goal
      ⟨{ cpu with ip := next, sp := sp + 2 }.setReg16 reg value, memory, vga, events⟩) :
    Runs disk drive (firmwareArea top) goal ⟨cpu, memory, vga, events⟩ := by
  subst hsp
  refine h.plain (fun _ => Instruction16.noConfusion) (fun ready hready => ?_) hrest
  have hexecute : ready.execute (.pop reg) = { ready.dropWord with
      cpu := ready.dropWord.cpu.setReg16 reg ready.topWord } := rfl
  rw [hexecute, h.topWord htop hhigh hready, hword]
  refine ⟨?_, hready.memory.mono fun a => firmwareArea_mono (Nat.le_add_right _ _), hready.vga,
    hready.events⟩
  simp only [Machine.dropWord, hready.cpu]

theorem Runs.ret (h : Poised top origin code stop ⟨address, .ret, next⟩ cpu memory)
    (hsp : cpu.sp = sp) (htop : sp.toNat = top) (hhigh : top ≤ 0x7C00)
    (hword : memory.word 0 sp = target)
    (hrest : Runs disk drive (firmwareArea (top + 2)) goal
      ⟨{ cpu with sp := sp + 2, ip := target }, memory, vga, events⟩) :
    Runs disk drive (firmwareArea top) goal ⟨cpu, memory, vga, events⟩ := by
  subst hsp
  refine h.plain (fun _ => Instruction16.noConfusion) (fun ready hready => ?_) hrest
  have hexecute : ready.execute .ret = { ready.dropWord with
      cpu := { ready.dropWord.cpu with ip := ready.topWord } } := rfl
  rw [hexecute, h.topWord htop hhigh hready, hword]
  refine ⟨?_, hready.memory.mono fun a => firmwareArea_mono (Nat.le_add_right _ _), hready.vga,
    hready.events⟩
  simp only [Machine.dropWord, hready.cpu]

-- ---------------------------------------------------------------------------
-- Services
-- ---------------------------------------------------------------------------

theorem Runs.service
    (h : Poised top origin code stop ⟨address, .int interrupt, next⟩ cpu memory)
    (hgo : ∀ ready, Matches (firmwareArea top) ⟨{ cpu with ip := next }, memory, vga, events⟩
      ready → ∃ after, Bios disk drive interrupt ready after)
    (hrest : ∀ ready after,
      Matches (firmwareArea top) ⟨{ cpu with ip := next }, memory, vga, events⟩ ready →
        Bios disk drive interrupt ready after → ∃ ideal,
          Matches (firmwareArea top) ideal after ∧
            Runs disk drive (firmwareArea top) goal ideal) :
    Runs disk drive (firmwareArea top) goal ⟨cpu, memory, vga, events⟩ := by
  intro machine hmatches
  have hstep := hmatches.step_iff disk drive h.quiet h.loaded h.cs h.listed h.ip
  refine .later ?_ fun after hafter => ?_
  · have hready : Matches (firmwareArea top) ⟨{ cpu with ip := next }, memory, vga, events⟩
        { machine with cpu := { machine.cpu with ip := next } } :=
      ⟨by rw [hmatches.cpu], hmatches.memory, hmatches.vga, hmatches.events⟩
    obtain ⟨after, hafter⟩ := hgo _ hready
    exact ⟨after, (hstep after).mpr ⟨machine.memory, .refl, hready, .service hafter⟩⟩
  · obtain ⟨memory', -, hready, hexecutes⟩ := (hstep after).mp hafter
    cases hexecutes with
    | service hbios =>
      obtain ⟨ideal, hmatches', hruns⟩ := hrest _ _ hready hbios
      exact hruns _ hmatches'
    | plain hplain => exact absurd rfl (hplain interrupt)

/-- What a service changes besides its `region` is off anyway. -/
theorem Poised.split_service {region : Nat → Prop} {ready : Machine}
    (h : Poised top origin code stop line cpu memory)
    (hready : Matches (firmwareArea top) ⟨{ cpu with ip := next }, memory, vga, events⟩ ready)
    (hkept : ready.memory.ChangesIn (fun a => ready.cpu.FirmwareOwns a ∨ region a) memory') :
    memory.ChangesIn (fun a => firmwareArea top a ∨ region a) memory' := by
  refine Ram.ChangesIn.trans (hready.memory.mono fun a ha => .inl ha) (hkept.mono fun a ha => ?_)
  refine ha.imp (fun howns => ?_) id
  rw [hready.cpu] at howns
  exact Cpu.owns_firmwareArea h.stack h.top_ge howns

def Ram.load (memory : Ram) (start : Nat) (data : Bytes) : Ram := fun a =>
  if start ≤ a ∧ a < start + data.length then data.getD (a - start) 0 else memory a

/-- A valid read from the disk succeeds or fails. -/
theorem Runs.read (h : Poised top origin code stop ⟨address, .int 0x13, next⟩ cpu memory)
    (hfunction : cpu.reg8 .ah = 0x02) (hrequest : cpu.diskRequest = request)
    (hvalid : request.Valid drive)
    (hinside : 512 * request.lba + 512 * request.count ≤ disk.length)
    (hok : ∀ ax zero, Runs disk drive (firmwareArea top) goal
      ⟨{ cpu with ip := next, ax, zero, carry := false },
        memory.load request.buffer (slice disk (512 * request.lba) (512 * request.count)), vga,
        events ++ [.read request.lba request.count true]⟩)
    (hfail : ∀ ax zero memory', memory.ChangesIn request.InBuffer memory' →
      Runs disk drive (firmwareArea top) goal
        ⟨{ cpu with ip := next, ax, zero, carry := true }, memory', vga,
          events ++ [.read request.lba request.count false]⟩) :
    Runs disk drive (firmwareArea top) goal ⟨cpu, memory, vga, events⟩ := by
  refine Runs.service h (fun ready hready => ?_) fun ready after hready hbios => ?_
  · refine ⟨_, .read 0 false false ready.memory ?_ (fun _ => .refl) fun _ hfalse => ?_⟩
    · rw [hready.cpu]
      exact hfunction
    · cases hfalse
  cases hbios with
  | read ax zero succeeds memory' _ hkept hread =>
    have hrequest' : ready.cpu.diskRequest = request := by rw [hready.cpu, ← hrequest]; rfl
    rw [hrequest'] at hkept hread
    rw [hrequest', hready.cpu, hready.vga, hready.events]
    have hchanges := h.split_service hready (hkept hvalid)
    cases succeeds with
    | false =>
      obtain ⟨middle, hmiddle, hfirmware⟩ := hchanges.split
      refine ⟨_, ?_, hfail ax zero middle hmiddle⟩
      exact ⟨rfl, hfirmware, rfl, rfl⟩
    | true =>
      refine ⟨_, ?_, hok ax zero⟩
      refine ⟨rfl, fun a ha => ?_, rfl, rfl⟩
      have hlength := length_slice hinside
      simp only [Ram.load, hlength] at ha
      split at ha
      next hbuffer =>
        have hbyte := hread hvalid rfl (a - request.buffer) (by omega)
        rw [Nat.add_sub_cancel' hbuffer.1] at hbyte
        rw [hbyte, List.getD_eq_getElem?_getD, List.getD_eq_getElem?_getD, getElem?_slice,
          if_pos (by omega)] at ha
        exact absurd rfl ha
      next hbuffer => exact (hchanges a ha).resolve_right hbuffer

/-- Changing the video mode leaves video memory and colours as they come. -/
theorem Runs.setMode (h : Poised top origin code stop ⟨address, .int 0x10, next⟩ cpu memory)
    (hfunction : cpu.reg8 .ah = 0x00) (hmode : cpu.reg8 .al = mode)
    (hrest : ∀ ax memory' position colours, memory.ChangesIn videoMemory memory' →
      Runs disk drive (firmwareArea top) goal
        ⟨{ cpu with ip := next, ax }, memory', ⟨mode, position, colours⟩, events⟩) :
    Runs disk drive (firmwareArea top) goal ⟨cpu, memory, vga, events⟩ := by
  refine Runs.service h (fun ready hready => ?_) fun ready after hready hbios => ?_
  · refine ⟨_, .setMode 0 ready.memory 0 (fun _ => 0) ?_ .refl⟩
    rw [hready.cpu]
    exact hfunction
  have hcpu : ready.cpu = { cpu with ip := next } := hready.cpu
  cases hbios with
  | teletype ax bp memory' hteletype =>
    rw [hcpu] at hteletype
    exact absurd (hfunction.symm.trans hteletype) (by decide)
  | setMode ax memory' position colours _ hkept =>
    obtain ⟨middle, hmiddle, hfirmware⟩ := (h.split_service hready hkept).split
    have hal : ready.cpu.reg8 .al = mode := by rw [hcpu, ← hmode]; rfl
    rw [hal, hcpu]
    refine ⟨_, ?_, hrest ax middle position colours hmiddle⟩
    exact ⟨rfl, hfirmware, rfl, hready.events⟩

theorem Runs.teletype (h : Poised top origin code stop ⟨address, .int 0x10, next⟩ cpu memory)
    (hfunction : cpu.reg8 .ah = 0x0E) (hchar : cpu.reg8 .al = char)
    (hrest : ∀ ax bp memory', memory.ChangesIn videoMemory memory' →
      Runs disk drive (firmwareArea top) goal
        ⟨{ cpu with ip := next, ax, bp }, memory', vga, events ++ [.teletype char]⟩) :
    Runs disk drive (firmwareArea top) goal ⟨cpu, memory, vga, events⟩ := by
  refine Runs.service h (fun ready hready => ?_) fun ready after hready hbios => ?_
  · refine ⟨_, .teletype 0 0 ready.memory ?_ .refl⟩
    rw [hready.cpu]
    exact hfunction
  have hcpu : ready.cpu = { cpu with ip := next } := hready.cpu
  cases hbios with
  | setMode ax memory' position colours hsetMode =>
    rw [hcpu] at hsetMode
    exact absurd (hfunction.symm.trans hsetMode) (by decide)
  | teletype ax bp memory' _ hkept =>
    obtain ⟨middle, hmiddle, hfirmware⟩ := (h.split_service hready hkept).split
    have hal : ready.cpu.reg8 .al = char := by rw [hcpu, ← hchar]; rfl
    rw [hal, hcpu, hready.events]
    refine ⟨_, ?_, hrest ax bp middle hmiddle⟩
    exact ⟨rfl, hfirmware, hready.vga, rfl⟩

end

end DragonOS.Build
