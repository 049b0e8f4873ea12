import DragonOS.Build.RunRules

/-!
# What both stages of the boot code do

Both stages print a message in the same way and then wait forever. A message is
teletyped up to its zero (`Runs.printString`); a machine in a `haltLoop` stays there, and
only what the firmware owns may change (`Matches.halts`).
-/

namespace DragonOS.Build

open Lib

def printString (base : UInt16) : List Line := [
  ⟨base, .lodsb, base + 1⟩,
  ⟨base + 1, .test8 (.reg .al) .al, base + 3⟩,
  ⟨base + 3, .short .jz (base + 14), base + 5⟩,
  ⟨base + 5, .movImm8 .ah 0x0E, base + 7⟩,
  ⟨base + 7, .movImm16 .bx 0x0007, base + 10⟩,
  ⟨base + 10, .int 0x10, base + 12⟩,
  ⟨base + 12, .short .jmp base, base + 14⟩,
  ⟨base + 14, .ret, base + 15⟩]

/-- The end of `disk_error`: tells the text at `message`, and waits. -/
def tellError (base message print hang : UInt16) : List Line := [
  ⟨base, .movImm16 .si message, base + 3⟩,
  ⟨base + 3, .callNear print, base + 6⟩,
  ⟨base + 6, .short .jmp hang, base + 8⟩]

/-- `hang` in stage 1, `halt` in stage 2. -/
def haltLoop (base : UInt16) : List Line := [
  ⟨base, .hlt, base + 1⟩,
  ⟨base + 1, .short .jmp base, base + 3⟩]

section
variable {disk : Bytes} {drive : UInt8} {goal : Machine → Prop} {ideal machine : Machine}
  {base : UInt16} {top : Nat} {cpu : Cpu} {memory : Ram} {vga : Vga} {events : List Event}
  {text : Bytes}

-- ---------------------------------------------------------------------------
-- Waiting
-- ---------------------------------------------------------------------------

/-- A machine that waits for interrupts, and goes on waiting after each. -/
structure Halted (top : Nat) (origin : UInt16) (code : Bytes) (stop : Nat) (base : UInt16)
    (ideal : Machine) : Prop where
  lines : ∀ line ∈ haltLoop base, LineIn origin code stop line
  top_ge : 0x500 ≤ top
  loaded : CodeAt (firmwareArea top) origin code stop ideal.memory
  stack : ideal.cpu.stackBelow top
  cs : ideal.cpu.cs = 0
  interrupts : ideal.cpu.interrupts = true
  ip : ideal.cpu.ip = base ∨ ideal.cpu.ip = base + 1

theorem Halted.step (h : Halted top origin code stop base ideal)
    (hmatches : Matches (firmwareArea top) ideal machine) :
    (∃ after, Step disk drive machine after) ∧ ∀ after, Step disk drive machine after →
      ∃ ip, (ip = base ∨ ip = base + 1) ∧
        Matches (firmwareArea top) { ideal with cpu := { ideal.cpu with ip } } after := by
  have hquiet : ideal.cpu.Quiet (firmwareArea top) :=
    fun _ _ howns => Cpu.owns_firmwareArea h.stack h.top_ge howns
  have hlines := h.lines
  simp only [haltLoop, List.forall_mem_cons, List.not_mem_nil, false_implies, implies_true,
    and_true] at hlines
  rcases h.ip with hip | hip
  · obtain ⟨hgo, hafter⟩ := hmatches.step_plain disk drive hquiet h.loaded
      h.cs hlines.1 hip fun _ => Instruction16.noConfusion
    refine ⟨hgo, fun after hstep => ⟨base + 1, .inr rfl, ?_⟩⟩
    obtain ⟨ready, hready, rfl⟩ := hafter after hstep
    have hexecute : ready.cpu.execute .hlt = some ready.cpu := by
      rw [hready.cpu, Cpu.execute]
      simp only [h.interrupts, if_true]
    rw [Machine.execute, hexecute]
    exact hready
  · obtain ⟨hgo, hafter⟩ := hmatches.step_plain disk drive hquiet h.loaded
      h.cs hlines.2 hip fun _ => Instruction16.noConfusion
    refine ⟨hgo, fun after hstep => ⟨base, .inl rfl, ?_⟩⟩
    obtain ⟨ready, hready, rfl⟩ := hafter after hstep
    have hexecute : ready.cpu.execute (.short .jmp base) = some { ideal.cpu with ip := base } := by
      rw [hready.cpu]
      rfl
    rw [Machine.execute, hexecute]
    exact ⟨rfl, hready.memory, hready.vga, hready.events⟩

theorem Halted.forever (h : Halted top origin code stop base ideal)
    (hmatches : Matches (firmwareArea top) ideal machine) :
    Forever (Step disk drive) (fun after => ∃ ip, Matches (firmwareArea top)
      { ideal with cpu := { ideal.cpu with ip } } after) machine := by
  have hat {ip : UInt16} (hip : ip = base ∨ ip = base + 1) :
      Halted top origin code stop base { ideal with cpu := { ideal.cpu with ip } } :=
    ⟨h.lines, h.top_ge, h.loaded, h.stack, h.cs, h.interrupts, hip⟩
  refine @Forever.of_invariant _ (Step disk drive) _ machine
    (fun machine => ∃ ip, (ip = base ∨ ip = base + 1) ∧
      Matches (firmwareArea top) { ideal with cpu := { ideal.cpu with ip } } machine) ?_ ?_ ?_
    ⟨ideal.cpu.ip, h.ip, hmatches⟩
  · rintro machine ⟨ip, -, hmatches⟩
    exact ⟨ip, hmatches⟩
  · rintro machine ⟨ip, hip, hmatches⟩
    exact ((hat hip).step hmatches).1
  · rintro machine after ⟨ip, hip, hmatches⟩ hafter
    exact ((hat hip).step hmatches).2 after hafter

-- ---------------------------------------------------------------------------
-- Printing
-- ---------------------------------------------------------------------------

/-- A text with a zero behind it, where nothing else writes. -/
structure TextAt (off : Nat → Prop) (start : Nat) (text : Bytes) (memory : Ram) : Prop where
  nonzero : ∀ char ∈ text, char ≠ 0
  chars : ∀ i ≤ text.length, memory (start + i) = text.getD i 0
  clear : ∀ i ≤ text.length, ¬ off (start + i) ∧ ¬ videoMemory (start + i)
  fits : start + text.length < 2 ^ 16

theorem TextAt.of_slice {off : Nat → Prop} {memory : Ram} {text code : Bytes}
    (hslice : slice code position (text.length + 1) = text ++ [0x00])
    (hnonzero : text.all (· != 0) = true)
    (hmemory : ∀ i ≤ text.length, memory (start + i) = code.getD (position + i) 0)
    (hclear : ∀ i ≤ text.length, ¬ off (start + i)) (hfits : start + text.length < 2 ^ 16) :
    TextAt off start text memory where
  nonzero char hchar := by simpa using List.all_eq_true.mp hnonzero char hchar
  chars i hi := by
    have hbyte := getElem?_slice code position (text.length + 1) i
    rw [hslice, if_pos (by omega)] at hbyte
    rw [hmemory i hi, List.getD_eq_getElem?_getD, List.getD_eq_getElem?_getD, ← hbyte]
    rcases Nat.lt_or_eq_of_le hi with hlt | rfl
    · rw [List.getElem?_append_left hlt]
    · simp
  clear i hi := ⟨hclear i hi, fun hvideo => by
    have := hvideo.1
    omega⟩
  fits := hfits

theorem TextAt.tail {off : Nat → Prop} {memory : Ram} (h : TextAt off start (char :: text) memory) :
    TextAt off (start + 1) text memory where
  nonzero := (List.forall_mem_cons.mp h.nonzero).2
  chars i hi := by
    rw [Nat.add_assoc, Nat.add_comm 1 i, h.chars (i + 1) (Nat.succ_le_succ hi), List.getD_cons_succ]
  clear i hi := by
    rw [Nat.add_assoc, Nat.add_comm 1 i]
    exact h.clear (i + 1) (Nat.succ_le_succ hi)
  fits := by
    have := h.fits
    rw [List.length_cons] at this
    omega

theorem TextAt.of_changesIn {off : Nat → Prop} {memory after : Ram} (h : TextAt off start text memory)
    (hkept : memory.ChangesIn videoMemory after) : TextAt off start text after where
  nonzero := h.nonzero
  chars i hi := (hkept.eq (h.clear i hi).2).trans (h.chars i hi)
  clear := h.clear
  fits := h.fits

theorem CodeAt.of_videoMemory {memory after : Ram} (h : CodeAt off origin code stop memory)
    (hkept : memory.ChangesIn videoMemory after) : CodeAt off origin code stop after := by
  have hfits := h.fits
  refine h.of_eq fun i hi => hkept.eq fun hvideo => ?_
  have := hvideo.1
  omega

structure Printing (top : Nat) (origin : UInt16) (code : Bytes) (stop : Nat) (base : UInt16)
    (text : Bytes) (cpu : Cpu) (memory : Ram) : Prop where
  lines : ∀ line ∈ printString base, LineIn origin code stop line
  top_ge : 0x500 ≤ top
  loaded : CodeAt (firmwareArea top) origin code stop memory
  stack : cpu.stackBelow top
  cs : cpu.cs = 0
  ds : cpu.ds = 0
  forward : cpu.backward = false
  message : TextAt (firmwareArea top) cpu.si.toNat text memory

theorem Printing.nextChar {text : Bytes}
    (h : Printing top origin code stop base text cpu memory) (hip : cpu.ip = base)
    (hrest : Runs disk drive (firmwareArea top) goal
      ⟨{ cpu with
          ax := joinBytes (text.getD 0 0) (highHalf cpu.ax)
          si := cpu.si + 1
          carry := false
          zero := text.getD 0 0 == 0
          ip := if text.getD 0 0 == 0 then base + 14 else base + 5 }, memory, vga, events⟩) :
    Runs disk drive (firmwareArea top) goal ⟨cpu, memory, vga, events⟩ := by
  have hlines := h.lines
  simp only [printString, List.forall_mem_cons] at hlines
  obtain ⟨hlodsb, htest, hjz, -⟩ := hlines
  have hfirst : linear cpu.ds cpu.si = cpu.si.toNat := by rw [h.ds, linear_zero]
  have hclear : ¬ firmwareArea top (linear cpu.ds cpu.si) := by
    rw [hfirst]
    exact (h.message.clear 0 (Nat.zero_le _)).1
  have hchar : memory (linear cpu.ds cpu.si) = text.getD 0 0 := by
    rw [hfirst]
    exact h.message.chars 0 (Nat.zero_le _)
  refine Runs.lodsb ⟨h.stack, h.top_ge, h.cs, hip, hlodsb, h.loaded⟩ h.forward hclear hchar ?_
  refine Runs.register ⟨h.stack, h.top_ge, h.cs, rfl, htest, h.loaded⟩ rfl ?_
  refine Runs.register ⟨h.stack, h.top_ge, h.cs, rfl, hjz, h.loaded⟩ rfl ?_
  simp only [Cpu.reg8, lowHalf_joinBytes, UInt8.and_self]
  split at hrest
  next hzero =>
    rw [if_pos hzero]
    exact hrest
  next hzero =>
    rw [if_neg hzero]
    exact hrest

/-- `print_string` teletypes a text and comes to its `ret`. -/
theorem Runs.printString (h : Printing top origin code stop base text cpu memory)
    (hip : cpu.ip = base)
    (hrest : ∀ ax bx bp si carry zero memory', memory.ChangesIn videoMemory memory' →
      Runs disk drive (firmwareArea top) goal
        ⟨{ cpu with ip := base + 14, ax, bx, bp, si, carry, zero }, memory', vga,
          events ++ text.map .teletype⟩) :
    Runs disk drive (firmwareArea top) goal ⟨cpu, memory, vga, events⟩ := by
  have hlines := h.lines
  simp only [DragonOS.Build.printString, List.forall_mem_cons] at hlines
  obtain ⟨-, -, -, hfunction, hcolour, hint, hjmp, -⟩ := hlines
  induction text generalizing cpu memory events with
  | nil =>
    have hdone := hrest (joinBytes 0 (highHalf cpu.ax)) cpu.bx cpu.bp (cpu.si + 1) false true
      memory .refl
    rw [List.map_nil, List.append_nil] at hdone
    exact h.nextChar hip hdone
  | cons char text ih =>
    have hnonzero : (char == 0) = false := by
      simpa using (List.forall_mem_cons.mp h.message.nonzero).1
    refine h.nextChar hip ?_
    simp only [List.getD_cons_zero, hnonzero, Bool.false_eq_true, if_false]
    refine Runs.register ⟨h.stack, h.top_ge, h.cs, rfl, hfunction, h.loaded⟩ rfl ?_
    refine Runs.register ⟨h.stack, h.top_ge, h.cs, rfl, hcolour, h.loaded⟩ rfl ?_
    have hal : lowHalf (joinBytes (lowHalf (joinBytes char (highHalf cpu.ax))) 0x0E) = char := by
      rw [lowHalf_joinBytes, lowHalf_joinBytes]
    refine Runs.teletype ⟨h.stack, h.top_ge, h.cs, rfl, hint, h.loaded⟩ (highHalf_joinBytes _ _)
      hal fun ax bp memory' hmemory => ?_
    have hloaded := h.loaded.of_videoMemory hmemory
    refine Runs.register ⟨h.stack, h.top_ge, h.cs, rfl, hjmp, hloaded⟩ rfl ?_
    have hfits := h.message.fits
    rw [List.length_cons] at hfits
    have hsi : (cpu.si + 1).toNat = cpu.si.toNat + 1 := by
      rw [UInt16.toNat_add, show (1 : UInt16).toNat = 1 from rfl]
      omega
    have htext := h.message.tail.of_changesIn hmemory
    rw [← hsi] at htext
    refine ih ⟨h.lines, h.top_ge, hloaded, h.stack, h.cs, h.ds, h.forward, htext⟩ rfl ?_
    intro ax bx bp si carry zero memory'' hmemory'
    have hdone := hrest ax bx bp si carry zero memory'' (hmemory.trans hmemory')
    rw [List.map_cons, ← List.singleton_append, ← List.append_assoc] at hdone
    exact hdone

-- ---------------------------------------------------------------------------
-- Errors
-- ---------------------------------------------------------------------------

def Gone (disk : Bytes) (drive : UInt8) (events : List Event) : Machine → Prop :=
  Forever (Step disk drive) fun machine => machine.events = events

theorem Ram.word_setWord (memory : Ram) (offset value : UInt16) :
    (memory.setWord 0 offset value).word 0 offset = value := by
  have hne : linear 0 offset ≠ linear 0 (offset + 1) := by
    rw [linear_zero, linear_zero, UInt16.toNat_add, show (1 : UInt16).toNat = 1 from rfl]
    omega
  rw [Ram.word, Ram.setWord, Ram.setByte, Function.update_self, Function.update_of_ne hne,
    Ram.setByte, Function.update_self, joinBytes_halves]

theorem Ram.changesIn_setWord {offset : UInt16} (htop : offset.toNat + 2 ≤ top) (memory : Ram)
    (value : UInt16) : memory.ChangesIn (firmwareArea top) (memory.setWord 0 offset value) := by
  intro a ha
  by_contra hclear
  have habove : ¬ a < top := fun hlt => hclear (.inl hlt)
  have hone : (1 : UInt16).toNat = 1 := rfl
  refine ha ?_
  rw [Ram.setWord, Ram.setByte, Ram.setByte, Function.update_of_ne, Function.update_of_ne]
  · rw [linear_zero]
    omega
  · rw [linear_zero, UInt16.toNat_add, hone]
    omega

theorem CodeAt.mono {off off' : Nat → Prop} (h : CodeAt off origin code stop memory)
    (himp : ∀ a, off' a → off a) : CodeAt off' origin code stop memory :=
  ⟨h.fits, h.bytes, fun i hi ha => h.clear i hi (himp _ ha)⟩

theorem TextAt.mono {off off' : Nat → Prop} (h : TextAt off start text memory)
    (himp : ∀ a, off' a → off a) : TextAt off' start text memory :=
  ⟨h.nonzero, h.chars, fun i hi => ⟨fun ha => (h.clear i hi).1 (himp _ ha), (h.clear i hi).2⟩,
    h.fits⟩

theorem Runs.tell (htell : ∀ line ∈ tellError base message print hang, LineIn origin code stop line)
    (hprint : ∀ line ∈ DragonOS.Build.printString print, LineIn origin code stop line)
    (hhalt : ∀ line ∈ haltLoop hang, LineIn origin code stop line)
    (hloaded : CodeAt (firmwareArea top) origin code stop memory)
    (htext : TextAt (firmwareArea top) message.toNat text memory)
    (hip : cpu.ip = base) (hcs : cpu.cs = 0) (hds : cpu.ds = 0) (hss : cpu.ss = 0)
    (hforward : cpu.backward = false) (hinterrupts : cpu.interrupts = true)
    (hsp : cpu.sp.toNat = top) (hlow : 0x7002 ≤ top) (hhigh : top ≤ 0x7C00) :
    Runs disk drive (firmwareArea top) (Gone disk drive (events ++ text.map .teletype))
      ⟨cpu, memory, vga, events⟩ := by
  simp only [tellError, List.forall_mem_cons] at htell
  obtain ⟨hsi, hcall, hjmp, -⟩ := htell
  have htwo : (2 : UInt16).toNat = 2 := rfl
  have hcalled : (cpu.sp - 2).toNat = top - 2 := by
    rw [UInt16.toNat_sub, htwo]
    have := cpu.sp.toNat_lt
    omega
  have hback : cpu.sp - 2 + 2 = cpu.sp := UInt16.sub_add_cancel cpu.sp 2
  have hstack (cpu' : Cpu) (hss : cpu'.ss = 0) (hsp : cpu'.sp = cpu.sp) : cpu'.stackBelow top :=
    Cpu.stackBelow_iff.mpr ⟨hss, by rw [hsp]; omega, by rw [hsp]; omega⟩
  have hstack' (cpu' : Cpu) (hss : cpu'.ss = 0) (hsp : cpu'.sp = cpu.sp - 2) :
      cpu'.stackBelow (top - 2) :=
    Cpu.stackBelow_iff.mpr ⟨hss, by rw [hsp]; omega, by rw [hsp]; omega⟩
  have htop : top - 2 + 2 = top := by omega
  have hsmall : ∀ a, firmwareArea (top - 2) a → firmwareArea top a :=
    fun a => firmwareArea_mono (by omega)
  refine Runs.register ⟨hstack _ hss rfl, by omega, hcs, hip, hsi, hloaded⟩ rfl ?_
  refine Runs.call ⟨hstack _ hss rfl, by omega, hcs, rfl, hcall, hloaded⟩ rfl hsp ?_
  have hpushed : memory.ChangesIn (firmwareArea top) (memory.setWord 0 (cpu.sp - 2) (base + 6)) :=
    Ram.changesIn_setWord (by omega) memory (base + 6)
  simp only [Cpu.setReg16, hss]
  have hcode := (hloaded.of_changesIn hpushed).mono hsmall
  have hmessage : TextAt (firmwareArea (top - 2)) message.toNat text
      (memory.setWord 0 (cpu.sp - 2) (base + 6)) :=
    ⟨htext.nonzero, fun i hi => (hpushed.eq (htext.clear i hi).1).trans (htext.chars i hi),
      (htext.mono hsmall).clear, htext.fits⟩
  refine Runs.printString ⟨hprint, by omega, hcode, hstack' _ rfl rfl, hcs, hds, hforward, hmessage⟩
    rfl fun ax bx bp si carry zero memory' hmemory => ?_
  simp only [DragonOS.Build.printString, List.forall_mem_cons] at hprint
  obtain ⟨-, -, -, -, -, -, -, hret, -⟩ := hprint
  have hword : memory'.word 0 (cpu.sp - 2) = base + 6 := by
    rw [← Ram.word_setWord memory (cpu.sp - 2) (base + 6)]
    have hsmall (offset : UInt16) : ¬ videoMemory (linear 0 offset) := by
      have := offset.toNat_lt
      rw [linear_zero, videoMemory]
      omega
    exact hmemory.word (hsmall _) (hsmall _)
  have hcode' := hcode.of_videoMemory hmemory
  refine Runs.ret ⟨hstack' _ rfl rfl, by omega, hcs, rfl, hret, hcode'⟩ rfl hcalled
    (by omega) hword ?_
  rw [htop]
  have hcode'' : CodeAt (firmwareArea top) origin code stop memory' :=
    (hloaded.of_changesIn hpushed).of_videoMemory hmemory
  simp only [hback]
  refine Runs.register ⟨hstack _ rfl rfl, by omega, hcs, rfl, hjmp, hcode''⟩ rfl ?_
  refine Runs.of_goal fun machine hmatches after hafter => ?_
  obtain ⟨⟨ip, hmatches'⟩, hgo⟩ := Halted.forever
    ⟨hhalt, by omega, hcode'', hstack _ rfl rfl, hcs, hinterrupts, .inl rfl⟩ hmatches after hafter
  exact ⟨hmatches'.events, hgo⟩

end

end DragonOS.Build
