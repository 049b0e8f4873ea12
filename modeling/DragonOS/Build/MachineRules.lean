import DragonOS.Build.Listing16
import DragonOS.Build.Machine16

/-!
# Running code that is loaded

`Matches` relates the machine to one that no interrupt disturbs: they differ at most where
the firmware may write. `Runs` says of all the machines that match one that they get to a
goal.
-/

namespace DragonOS.Build

open Lib

-- ---------------------------------------------------------------------------
-- Halves of words
-- ---------------------------------------------------------------------------

theorem toNat_lowHalf (word : UInt16) : (lowHalf word).toNat = word.toNat % 256 :=
  UInt16.toNat_toUInt8 word

theorem toNat_highHalf (word : UInt16) : (highHalf word).toNat = word.toNat / 256 := by
  have := word.toNat_lt
  rw [highHalf, UInt16.toNat_toUInt8, UInt16.toNat_shiftRight]
  show word.toNat >>> 8 % 2 ^ 8 = _
  rw [Nat.shiftRight_eq_div_pow]
  omega

@[simp]
theorem lowHalf_joinBytes (low high : UInt8) : lowHalf (joinBytes low high) = low := by
  have := low.toNat_lt
  rw [← UInt8.toNat_inj, toNat_lowHalf, toNat_joinBytes]
  omega

@[simp]
theorem highHalf_joinBytes (low high : UInt8) : highHalf (joinBytes low high) = high := by
  have := low.toNat_lt
  rw [← UInt8.toNat_inj, toNat_highHalf, toNat_joinBytes]
  omega

@[simp]
theorem joinBytes_halves (word : UInt16) : joinBytes (lowHalf word) (highHalf word) = word := by
  rw [← UInt16.toNat_inj, toNat_joinBytes, toNat_lowHalf, toNat_highHalf]
  omega

-- ---------------------------------------------------------------------------
-- Memory
-- ---------------------------------------------------------------------------

theorem linear_zero (offset : UInt16) : linear 0 offset = offset.toNat := by
  have := offset.toNat_lt
  rw [linear, show (0 : UInt16).toNat = 0 from rfl]
  omega

section
variable {off off' : Nat → Prop} {first second third : Ram}

theorem Ram.ChangesIn.refl : first.ChangesIn off first := fun _ h => absurd rfl h

theorem Ram.ChangesIn.mono (h : first.ChangesIn off second) (himp : ∀ a, off a → off' a) :
    first.ChangesIn off' second := fun a ha => himp a (h a ha)

theorem Ram.ChangesIn.trans (h : first.ChangesIn off second) (h' : second.ChangesIn off third) :
    first.ChangesIn off third := by
  intro a ha
  by_cases hmiddle : second a = first a
  · exact h' a (by rwa [hmiddle])
  · exact h a hmiddle

theorem Ram.ChangesIn.eq (h : first.ChangesIn off second) {a : Nat} (ha : ¬ off a) :
    second a = first a := by
  by_contra hne
  exact ha (h a hne)

theorem Ram.ChangesIn.setByte (h : first.ChangesIn off second) (segment offset : UInt16)
    (value : UInt8) :
    (first.setByte segment offset value).ChangesIn off (second.setByte segment offset value) := by
  intro a ha
  by_cases heq : a = linear segment offset
  · subst heq
    simp [Ram.setByte] at ha
  · simp only [Ram.setByte, Function.update_of_ne heq] at ha
    exact h a ha

theorem Ram.ChangesIn.setWord (h : first.ChangesIn off second) (segment offset value : UInt16) :
    (first.setWord segment offset value).ChangesIn off (second.setWord segment offset value) :=
  (h.setByte segment offset _).setByte segment (offset + 1) _

theorem Ram.ChangesIn.word (h : first.ChangesIn off second) {segment offset : UInt16}
    (hlow : ¬ off (linear segment offset)) (hhigh : ¬ off (linear segment (offset + 1))) :
    second.word segment offset = first.word segment offset := by
  rw [Ram.word, Ram.word, h.eq hlow, h.eq hhigh]

/-- A region that may hold anything, apart from what is `off` anyway. -/
theorem Ram.ChangesIn.split {region : Nat → Prop}
    (h : first.ChangesIn (fun a => off a ∨ region a) second) :
    ∃ middle : Ram, first.ChangesIn region middle ∧ middle.ChangesIn off second := by
  classical
  refine ⟨fun a => if region a then second a else first a, fun a ha => ?_, fun a ha => ?_⟩
  · by_contra hregion
    exact ha (if_neg hregion)
  · by_cases hregion : region a
    · exact absurd (if_pos hregion).symm ha
    · simp only [if_neg hregion] at ha
      exact (h a ha).resolve_right hregion

end

-- ---------------------------------------------------------------------------
-- Where the firmware writes
-- ---------------------------------------------------------------------------

/-- What is not the code's own when its stack ends at `top`. -/
def firmwareArea (top : Nat) (address : Nat) : Prop :=
  address < top ∨ (0x80000 ≤ address ∧ address < 0xA0000) ∨ 0xC0000 ≤ address

instance (top address : Nat) : Decidable (firmwareArea top address) :=
  inferInstanceAs (Decidable (_ ∨ _ ∨ _))

/-- Interrupts leave alone what is not `off`. -/
def Cpu.Quiet (cpu : Cpu) (off : Nat → Prop) : Prop :=
  cpu.interrupts = true → ∀ address, cpu.FirmwareOwns address → off address

/-- The stack is where an interrupt stays below `top`. -/
def Cpu.stackBelow (cpu : Cpu) (top : Nat) : Bool :=
  cpu.ss == 0 && decide (0x7000 ≤ cpu.sp.toNat) && decide (cpu.sp.toNat ≤ top)

theorem Cpu.owns_firmwareArea {cpu : Cpu} {address : Nat} (h : cpu.stackBelow top)
    (htop : 0x500 ≤ top) (howns : cpu.FirmwareOwns address) : firmwareArea top address := by
  simp only [Cpu.stackBelow, Bool.and_eq_true, beq_iff_eq, decide_eq_true_eq] at h
  obtain ⟨⟨hss, hlow⟩, hhigh⟩ := h
  rcases howns with hbda | hadapters | hrom | ⟨below, hbelow, rfl⟩
  · exact .inl (by omega)
  · exact .inr (.inl hadapters)
  · exact .inr (.inr hrom)
  · rw [stackReach] at hbelow
    have hone : (1 : UInt16).toNat = 1 := rfl
    have hsp := cpu.sp.toNat_lt
    have hfirst : (cpu.sp - 1).toNat = cpu.sp.toNat - 1 := by
      rw [UInt16.toNat_sub, hone]
      omega
    have hsecond : (cpu.sp - 1 - UInt16.ofNat below).toNat = cpu.sp.toNat - 1 - below := by
      rw [UInt16.toNat_sub, hfirst, UInt16.toNat_ofNat']
      omega
    rw [hss, linear_zero, hsecond]
    exact .inl (by omega)

def Cpu.calm (top : Nat) (cpu : Cpu) : Bool := !cpu.interrupts || cpu.stackBelow top

theorem Cpu.quiet_of_calm {cpu : Cpu} (h : cpu.calm top) (htop : 0x500 ≤ top) :
    cpu.Quiet (firmwareArea top) := by
  intro hinterrupts address howns
  rw [Cpu.calm, hinterrupts, Bool.not_true, Bool.false_or] at h
  exact owns_firmwareArea h htop howns

-- ---------------------------------------------------------------------------
-- Code in memory
-- ---------------------------------------------------------------------------

/-- The first `stop` bytes of the code are in the lowest 64 KiB, where nothing else writes. -/
structure CodeAt (off : Nat → Prop) (origin : UInt16) (code : Bytes) (stop : Nat) (memory : Ram) :
    Prop where
  fits : origin.toNat + stop ≤ 2 ^ 16
  bytes : ∀ i < stop, memory (origin.toNat + i) = code.getD i 0
  clear : ∀ i < stop, ¬ off (origin.toNat + i)

theorem CodeAt.of_eq {off : Nat → Prop} {memory after : Ram} (h : CodeAt off origin code stop memory)
    (heq : ∀ i < stop, after (origin.toNat + i) = memory (origin.toNat + i)) :
    CodeAt off origin code stop after where
  fits := h.fits
  bytes i hi := (heq i hi).trans (h.bytes i hi)
  clear := h.clear

theorem CodeAt.of_changesIn {off : Nat → Prop} {memory after : Ram}
    (h : CodeAt off origin code stop memory) (hkept : memory.ChangesIn off after) :
    CodeAt off origin code stop after :=
  h.of_eq fun i hi => hkept.eq (h.clear i hi)

def LineIn (origin : UInt16) (code : Bytes) (stop : Nat) (line : Line) : Prop :=
  ∃ position bytes, line.InText origin code stop position bytes

theorem Machine.fetch_eq {machine : Machine} (hcode : CodeAt off origin code stop machine.memory)
    (hcs : machine.cpu.cs = 0) (hline : LineIn origin code stop line)
    (hip : machine.cpu.ip = line.address) :
    machine.fetch = some (line.instruction,
      { machine with cpu := { machine.cpu with ip := line.next } }) := by
  obtain ⟨position, bytes, htext⟩ := hline
  have hfits := hcode.fits
  have hinside := htext.inside
  have hshort := htext.short
  have hbyte (i : Nat) (hi : i < bytes.length) :
      machine.memory (linear 0 (machine.cpu.ip + UInt16.ofNat i)) = bytes.getD i 0 := by
    have haddress : (machine.cpu.ip + UInt16.ofNat i).toNat = origin.toNat + (position + i) := by
      rw [hip, htext.address, UInt16.toNat_add, UInt16.toNat_add, UInt16.toNat_ofNat',
        UInt16.toNat_ofNat']
      omega
    have hslice := getElem?_slice code position bytes.length i
    rw [htext.slice_eq, if_pos hi] at hslice
    rw [linear_zero, haddress, hcode.bytes _ (by omega), List.getD_eq_getElem?_getD,
      List.getD_eq_getElem?_getD, hslice]
  have hlength : machine.window.length = 6 := by simp [window]
  have hwindow : machine.window.take bytes.length = bytes := by
    refine List.ext_getElem (by rw [List.length_take, hlength]; omega) fun i hi hi' => ?_
    simp only [window, List.getElem_take, List.getElem_map, List.getElem_range, hcs, hbyte i hi',
      List.getD_eq_getElem?_getD, List.getElem?_eq_getElem hi', Option.getD_some]
  have hdecode := htext.reads.2 (machine.window.drop bytes.length)
  rw [← decode16_origin, ← htext.address, ← hip] at hdecode
  nth_rewrite 1 [← hwindow] at hdecode
  rw [List.take_append_drop] at hdecode
  have hnext : machine.cpu.ip + UInt16.ofNat (6 - (machine.window.drop bytes.length).length) =
      line.next := by
    rw [List.length_drop, hlength, hip, htext.address, htext.next, UInt16.ofNat_add, UInt16.add_assoc]
    congr 3
    omega
  rw [fetch, hdecode, Option.map_some, ← hnext]

-- ---------------------------------------------------------------------------
-- Machines that match
-- ---------------------------------------------------------------------------

/-- Apart from what is `off`, the two machines are one. -/
structure Matches (off : Nat → Prop) (ideal machine : Machine) : Prop where
  cpu : machine.cpu = ideal.cpu
  memory : ideal.memory.ChangesIn off machine.memory
  vga : machine.vga = ideal.vga
  events : machine.events = ideal.events

theorem Matches.refl (off : Nat → Prop) (machine : Machine) : Matches off machine machine :=
  ⟨rfl, .refl, rfl, rfl⟩

section
variable {disk : Bytes} {drive : UInt8} {off : Nat → Prop} {ideal machine : Machine}
  {line : Line}

variable (disk drive) in
/-- What the machine can do when the code says what comes next. -/
theorem Matches.step_iff (hmatches : Matches off ideal machine) (hquiet : ideal.cpu.Quiet off)
    (hcode : CodeAt off origin code stop ideal.memory) (hcs : ideal.cpu.cs = 0)
    (hline : LineIn origin code stop line) (hip : ideal.cpu.ip = line.address)
    (after : Machine) :
    Step disk drive machine after ↔
      ∃ memory, machine.memory.ChangesIn (fun address => machine.cpu.interrupts = true ∧
          machine.cpu.FirmwareOwns address) memory ∧
        Matches off { ideal with cpu := { ideal.cpu with ip := line.next } }
          { machine with cpu := { machine.cpu with ip := line.next }, memory } ∧
        Executes disk drive line.instruction
          { machine with cpu := { machine.cpu with ip := line.next }, memory } after := by
  have hready (memory : Ram) (hkept : machine.memory.ChangesIn
      (fun address => machine.cpu.interrupts = true ∧ machine.cpu.FirmwareOwns address) memory) :
      ideal.memory.ChangesIn off memory ∧ { machine with memory }.fetch =
        some (line.instruction, { machine with cpu := { machine.cpu with ip := line.next }, memory }) := by
    have hmemory : ideal.memory.ChangesIn off memory := by
      refine hmatches.memory.trans (hkept.mono fun address haddress => ?_)
      rw [hmatches.cpu] at haddress
      exact hquiet haddress.1 address haddress.2
    refine ⟨hmemory, Machine.fetch_eq (hcode.of_changesIn hmemory) ?_ hline ?_⟩
    · rw [hmatches.cpu, hcs]
    · rw [hmatches.cpu, hip]
  constructor
  · rintro ⟨memory, hkept, fetched, ready, hfetch, hexecutes⟩
    obtain ⟨hmemory, hfetch'⟩ := hready memory hkept
    rw [hfetch] at hfetch'
    obtain ⟨rfl, rfl⟩ := Prod.mk.injEq .. ▸ Option.some.inj hfetch'
    exact ⟨memory, hkept, ⟨by rw [hmatches.cpu], hmemory, hmatches.vga, hmatches.events⟩, hexecutes⟩
  · rintro ⟨memory, hkept, -, hexecutes⟩
    exact ⟨memory, hkept, line.instruction, _, (hready memory hkept).2, hexecutes⟩

variable (disk drive) in
theorem Matches.step_plain (hmatches : Matches off ideal machine) (hquiet : ideal.cpu.Quiet off)
    (hcode : CodeAt off origin code stop ideal.memory) (hcs : ideal.cpu.cs = 0)
    (hline : LineIn origin code stop line) (hip : ideal.cpu.ip = line.address)
    (hplain : ∀ interrupt, line.instruction ≠ .int interrupt) :
    (∃ after, Step disk drive machine after) ∧ ∀ after, Step disk drive machine after →
      ∃ ready, Matches off { ideal with cpu := { ideal.cpu with ip := line.next } } ready ∧
        after = ready.execute line.instruction := by
  have hstep := hmatches.step_iff disk drive hquiet hcode hcs hline hip
  constructor
  · refine ⟨_, (hstep _).mpr ⟨machine.memory, .refl, ?_, .plain hplain⟩⟩
    exact ⟨by rw [hmatches.cpu], hmatches.memory, hmatches.vga, hmatches.events⟩
  · intro after hafter
    obtain ⟨memory, -, hready, hexecutes⟩ := (hstep after).mp hafter
    refine ⟨_, hready, ?_⟩
    generalize line.instruction = instruction at hplain hexecutes ⊢
    cases hexecutes with
    | service h => exact absurd rfl (hplain _)
    | plain _ => rfl

-- ---------------------------------------------------------------------------
-- Runs
-- ---------------------------------------------------------------------------

variable (disk drive off) in
/-- Every machine that matches gets to a goal. -/
def Runs (goal : Machine → Prop) (ideal : Machine) : Prop :=
  ∀ machine, Matches off ideal machine → Eventually (Step disk drive) goal machine

variable {goal : Machine → Prop} {off' : Nat → Prop} {after : Machine}

theorem Runs.of_goal (h : ∀ machine, Matches off ideal machine → goal machine) :
    Runs disk drive off goal ideal := fun machine hmatches => .now (h machine hmatches)

theorem Runs.plain (hquiet : ideal.cpu.Quiet off) (hcode : CodeAt off origin code stop ideal.memory)
    (hcs : ideal.cpu.cs = 0)
    (hline : LineIn origin code stop line) (hip : ideal.cpu.ip = line.address)
    (hplain : ∀ interrupt, line.instruction ≠ .int interrupt)
    (heffect : ∀ ready, Matches off { ideal with cpu := { ideal.cpu with ip := line.next } } ready →
      Matches off' after (ready.execute line.instruction))
    (hrest : Runs disk drive off' goal after) : Runs disk drive off goal ideal := by
  intro machine hmatches
  obtain ⟨hgo, hafter⟩ := hmatches.step_plain disk drive hquiet hcode hcs hline hip hplain
  refine .later hgo fun stepped hstep => ?_
  obtain ⟨ready, hready, rfl⟩ := hafter stepped hstep
  exact hrest _ (heffect ready hready)

-- ---------------------------------------------------------------------------
-- Programs of the assembler
-- ---------------------------------------------------------------------------

/-- A step as a listing says: the line at IP, after the interrupts that are waiting. -/
def ListedStep (lines : List Line) (disk : Bytes) (drive : UInt8) (machine after : Machine) : Prop :=
  ∃ memory : Ram,
    machine.memory.ChangesIn (fun address => machine.cpu.interrupts = true ∧
      machine.cpu.FirmwareOwns address) memory ∧
    ∃ line ∈ lines, line.address = machine.cpu.ip ∧
      Executes disk drive line.instruction
        { machine with cpu := { machine.cpu with ip := line.next }, memory } after

/-- A machine in the text of a program that is loaded, and that nothing else writes over. -/
structure InProgram (origin : UInt16) (code : Bytes) (stop : Nat) (lines : List Line)
    (machine : Machine) : Prop where
  cs : machine.cpu.cs = 0
  fits : origin.toNat + stop ≤ 2 ^ 16
  bytes : ∀ i < stop, machine.memory (origin.toNat + i) = code.getD i 0
  clear : ∀ i < stop, ¬ machine.cpu.FirmwareOwns (origin.toNat + i)
  ip : ∃ line ∈ lines, line.address = machine.cpu.ip

theorem InProgram.step_iff {lines : List Line} (h : InProgram origin code stop lines machine)
    (hlines : ∀ line ∈ lines, LineIn origin code stop line) (after : Machine) :
    Step disk drive machine after ↔ ListedStep lines disk drive machine after := by
  have hcode : CodeAt machine.cpu.FirmwareOwns origin code stop machine.memory :=
    ⟨h.fits, h.bytes, h.clear⟩
  have hquiet : machine.cpu.Quiet machine.cpu.FirmwareOwns := fun _ _ howns => howns
  have hiff (line : Line) (hline : line ∈ lines) (hip : line.address = machine.cpu.ip) :=
    (Matches.refl machine.cpu.FirmwareOwns machine).step_iff disk drive hquiet
      hcode h.cs (hlines line hline) hip.symm after
  constructor
  · intro hstep
    obtain ⟨line, hline, hip⟩ := h.ip
    obtain ⟨memory, hkept, -, hexecutes⟩ := (hiff line hline hip).mp hstep
    exact ⟨memory, hkept, line, hline, hip, hexecutes⟩
  · rintro ⟨memory, hkept, line, hline, hip, hexecutes⟩
    refine (hiff line hline hip).mpr ⟨memory, hkept, ⟨rfl, ?_, rfl, rfl⟩, hexecutes⟩
    exact hkept.mono fun address haddress => haddress.2

/-- What a line does when no interrupt comes. -/
def Machine.runLine (machine : Machine) (line : Line) : Machine :=
  { machine with cpu := { machine.cpu with ip := line.next } }.execute line.instruction

theorem listed_runLine {lines : List Line} {sector : Bytes} (line : Line) (hline : line ∈ lines)
    (hplain : ∀ interrupt, line.instruction ≠ .int interrupt) (hstop : 0x7C00 + stop ≤ 2 ^ 16)
    {machine : Machine} (hip : line.address = machine.cpu.ip)
    (hmemory : machine.memory = (Machine.atBootSector drive sector).memory)
    (hcs : machine.cpu.cs = 0) (hstack : machine.cpu.stackBelow 0x7C00) :
    InProgram 0x7C00 sector stop lines machine ∧
      ListedStep lines disk drive machine (machine.runLine line) := by
  refine ⟨⟨hcs, hstop, fun i _ => ?_, fun i hi howns => ?_, line, hline, hip⟩, machine.memory,
    fun _ hchanged => absurd rfl hchanged, line, hline, hip, .plain hplain⟩
  · rw [hmemory]
    show sector.getD (0x7C00 + i - 0x7C00) 0 = _
    rw [Nat.add_sub_cancel_left]
  · have hbase : (0x7C00 : UInt16).toNat = 0x7C00 := rfl
    rw [hbase] at howns
    rcases Cpu.owns_firmwareArea hstack (by decide) howns with hbelow | hhigher <;> omega

/-- A program that loads the second byte of its table and waits. -/
def loading : List AssemblerCall :=
  [.instruction .cli, .instruction (.movRegImm16Label .si "table"),
    .instruction (.movReg8FromSiOffset .al 0x01), .instruction (.markLabel "hang"),
    .instruction .hlt, .instruction (.jmpShort "hang")]

def loadingTable : List AssemblerCall :=
  [.instruction (.markLabel "table"), .db 0x11, .db 0x22]

def loadingLines : List Line :=
  [⟨0x7C00, .cli, 0x7C01⟩, ⟨0x7C01, .movImm16 .si 0x7C0A, 0x7C04⟩,
    ⟨0x7C04, .movToReg8 .al (.memory (.based .si 0x0001)), 0x7C07⟩, ⟨0x7C07, .hlt, 0x7C08⟩,
    ⟨0x7C08, .short .jmp 0x7C07, 0x7C0A⟩]

end

end DragonOS.Build
