import DragonOS.Build.BootLoading

/-!
# The picture that stage 2 shows

The first 768 bytes of the image go to the colour registers (`Stage2.colourLoop_runs`), the
64000 behind them to the screen of mode 13h. From then on the machine waits with the picture
on its screen, or it has told that a sector could not be read (`stage2_runs`).
-/

namespace DragonOS.Build

open Lib

structure Shown (image : Bytes) (events : List Event) (machine : Machine) : Prop where
  mode : machine.vga.mode = 0x13
  colours : ∀ i < 768, machine.vga.colours i = image.getD i 0 &&& 0x3F
  pixels : ∀ i < 64000, machine.memory (0xA0000 + i) = image.getD (768 + i) 0
  events : machine.events = events

section
variable {disk : Bytes} {drive : UInt8} {goal : Machine → Prop} {machine : Machine}
  {cpu : Cpu} {memory memory' : Ram} {vga : Vga} {events : List Event}

namespace Stage2

-- ---------------------------------------------------------------------------
-- The colours
-- ---------------------------------------------------------------------------

structure Coloured (image : Bytes) (index : Nat) (vga : Vga) : Prop where
  mode : vga.mode = 0x13
  position : vga.position = index % 768
  colours : ∀ i < index, vga.colours i = image.getD i 0 &&& 0x3F

theorem Coloured.write (h : Coloured image index vga) (hindex : index < 768) :
    Coloured image (index + 1) (vga.writePort 0x03C9 (image.getD index 0)) := by
  have hposition : vga.position = index := by rw [h.position, Nat.mod_eq_of_lt hindex]
  have hwrite : vga.writePort 0x03C9 (image.getD index 0) =
      { vga with
        position := (vga.position + 1) % 768
        colours := Function.update vga.colours vga.position (image.getD index 0 &&& 0x3F) } := rfl
  rw [hwrite, hposition]
  refine ⟨h.mode, rfl, fun i hi => ?_⟩
  rcases Nat.lt_succ_iff_lt_or_eq.mp hi with hbefore | rfl
  · exact (Function.update_of_ne hbefore.ne _ _).trans (h.colours i hbefore)
  · exact Function.update_self _ _ _

/-- The registers at `palette_loop`, with `index` bytes sent and `left` to send. -/
def colouring (cpu : Cpu) (index left : Nat) (ax : UInt16) : Cpu :=
  { cpu with
    ax, ds := 0x2000, ss := 0, cs := 0, sp := 0x7A00, ip := 0x8055, dx := 0x03C9
    si := UInt16.ofNat index, cx := UInt16.ofNat left, backward := false, interrupts := true }

theorem countDown (left : Nat) : UInt16.ofNat (left + 1) - 1 = UInt16.ofNat left := by
  rw [UInt16.ofNat_add]
  exact UInt16.add_sub_cancel _ 1

theorem countDown_beq (hleft : left < 2 ^ 16) : (UInt16.ofNat left == 0) = decide (left = 0) := by
  rw [Bool.eq_iff_iff, beq_iff_eq, decide_eq_true_eq, ← UInt16.toNat_inj, UInt16.toNat_ofNat',
    Nat.mod_eq_of_lt hleft]
  rfl

theorem colour_runs (hlines : ∀ line ∈ [loadComponent, sendComponent, loopColours],
      LineIn 0x8000 stage2 134 line)
    (hholds : Holds stage2 drive image memory) (himage : 768 ≤ image.length)
    (hcoloured : Coloured image index vga) (hindex : index < 768) (hleft : left < 2 ^ 16)
    (hrest : ∀ ax vga, Coloured image (index + 1) vga →
      Runs disk drive (firmwareArea 0x7A00) goal
        ⟨{ colouring cpu (index + 1) left ax with ip := if left = 0 then 0x8059 else 0x8055 },
          memory, vga, events⟩) :
    Runs disk drive (firmwareArea 0x7A00) goal
      ⟨colouring cpu index (left + 1) ax, memory, vga, events⟩ := by
  simp only [List.forall_mem_cons] at hlines
  obtain ⟨hload, hsend, hloop, -⟩ := hlines
  have hcode := hholds.codeAt (show 0x7A00 ≤ 0x8000 by decide)
  have hsource : linear 0x2000 (UInt16.ofNat index) = 0x20000 + index := by
    rw [linear, UInt16.toNat_ofNat', show (0x2000 : UInt16).toNat = 0x2000 from rfl]
    omega
  have hbyte : memory (linear 0x2000 (UInt16.ofNat index)) = image.getD index 0 := by
    rw [hsource]
    exact hholds.image index (by omega)
  have hclear : ¬ firmwareArea 0x7A00 (linear 0x2000 (UInt16.ofNat index)) := by
    rw [hsource, firmwareArea]
    omega
  refine Runs.lodsb ⟨rfl, by decide, rfl, rfl, hload, hcode⟩ rfl hclear hbyte ?_
  refine Runs.out ⟨rfl, by decide, rfl, rfl, hsend, hcode⟩ (.inr rfl) ?_
  refine Runs.register ⟨rfl, by decide, rfl, rfl, hloop, hcode⟩ rfl ?_
  have hsi : UInt16.ofNat index + 1 = UInt16.ofNat (index + 1) := (UInt16.ofNat_add _ 1).symm
  have hdone := fun ax => hrest ax _ (hcoloured.write hindex)
  simp only [Cpu.reg8, lowHalf_joinBytes, colouring, countDown, countDown_beq hleft, hsi]
  by_cases hlast : left = 0
  · simp only [hlast, decide_true, if_true] at hdone ⊢
    exact hdone _
  · simp only [hlast, decide_false, Bool.false_eq_true, if_false] at hdone ⊢
    exact hdone _

theorem colourLoop_runs (hlines : ∀ line ∈ [loadComponent, sendComponent, loopColours],
      LineIn 0x8000 stage2 134 line)
    (hholds : Holds stage2 drive image memory) (himage : 768 ≤ image.length)
    (hcoloured : Coloured image index vga) (hleft : index + (left + 1) = 768)
    (hrest : ∀ ax vga, Coloured image 768 vga →
      Runs disk drive (firmwareArea 0x7A00) goal
        ⟨{ colouring cpu 768 0 ax with ip := 0x8059 }, memory, vga, events⟩) :
    Runs disk drive (firmwareArea 0x7A00) goal
      ⟨colouring cpu index (left + 1) ax, memory, vga, events⟩ := by
  induction left generalizing index ax vga with
  | zero =>
    refine colour_runs hlines hholds himage hcoloured (by omega) (by decide) fun ax' vga' hnext => ?_
    obtain rfl : index = 767 := by omega
    exact hrest ax' vga' hnext
  | succ left ih =>
    refine colour_runs hlines hholds himage hcoloured (by omega) (by omega) fun ax' vga' hnext => ?_
    rw [if_neg (Nat.succ_ne_zero left)]
    exact ih hnext (by omega)

theorem palette_runs (hlines : ∀ line ∈ startColours ++ [firstColour] ++ countColours ++
      [loadComponent, sendComponent, loopColours], LineIn 0x8000 stage2 134 line)
    (hholds : Holds stage2 drive image memory) (himage : 768 ≤ image.length)
    (hip : cpu.ip = 0x8044) (hcs : cpu.cs = 0) (hss : cpu.ss = 0) (hsp : cpu.sp = 0x7A00)
    (hforward : cpu.backward = false) (hinterrupts : cpu.interrupts = true) (hmode : vga.mode = 0x13)
    (hrest : ∀ cpu ax vga, Coloured image 768 vga →
      Runs disk drive (firmwareArea 0x7A00) goal
        ⟨{ colouring cpu 768 0 ax with ip := 0x8059 }, memory, vga, events⟩) :
    Runs disk drive (firmwareArea 0x7A00) goal ⟨cpu, memory, vga, events⟩ := by
  simp only [List.forall_mem_append, List.forall_mem_singleton] at hlines
  obtain ⟨⟨⟨hstart, hfirst⟩, hcount⟩, hloop⟩ := hlines
  have hcode := hholds.codeAt (show 0x7A00 ≤ 0x8000 by decide)
  have hblock : runLines 0x7A00 startColours cpu = some { colouring cpu 0 0 0x2000 with
      ip := 0x8050, dx := 0x03C8, cx := cpu.cx, carry := false, zero := true } := by
    simp [startColours, runLines, Cpu.calm, Cpu.stackBelow, Cpu.execute, Cpu.setSegment, Cpu.reg16,
      Cpu.setReg16, Cpu.setReg8, colouring, hip, hcs, hss, hsp, hforward, hinterrupts]
    rfl
  refine Runs.block (by decide) hstart hcode hblock ?_
  refine Runs.out ⟨rfl, by decide, rfl, rfl, hfirst, hcode⟩ (.inl rfl) ?_
  have hblock' : runLines 0x7A00 countColours { colouring cpu 0 0 0x2000 with
      ip := 0x8051, dx := 0x03C8, cx := cpu.cx, carry := false, zero := true } =
      some (colouring { cpu with carry := false, zero := false } 0 768 0x2000) := by
    simp [countColours, runLines, Cpu.calm, Cpu.stackBelow, Cpu.execute, Cpu.reg16, Cpu.setReg16,
      colouring]
  refine Runs.block (by decide) hcount hcode hblock' ?_
  have hfirst : (vga.writePort 0x03C8 (lowHalf 0x2000)).position = 0 := rfl
  exact colourLoop_runs hloop hholds himage
    ⟨hmode, hfirst, fun i hi => absurd hi (Nat.not_lt_zero i)⟩ rfl (hrest _)

theorem colours_runs (hlines : ∀ line ∈ colours, LineIn 0x8000 stage2 134 line)
    (hholds : Holds stage2 drive image memory) (himage : 768 ≤ image.length)
    (hrest : ∀ cpu ax memory vga, Holds stage2 drive image memory → Coloured image 768 vga →
      Runs disk drive (firmwareArea 0x7A00) goal
        ⟨{ colouring cpu 768 0 ax with ip := 0x8059 }, memory, vga, events⟩) :
    Runs disk drive (firmwareArea 0x7A00) goal
      ⟨{ reading cpu index 0 ax dx carry zero with ip := 0x803F }, memory, vga, events⟩ := by
  rw [colours, List.cons_append, List.cons_append, List.cons_append, List.forall_mem_cons] at hlines
  obtain ⟨hmode, hlines⟩ := hlines
  obtain ⟨hset, hlines⟩ := List.forall_mem_cons.mp hlines
  have hcode := hholds.codeAt (show 0x7A00 ≤ 0x8000 by decide)
  refine Runs.register ⟨rfl, by decide, rfl, rfl, hmode, hcode⟩ rfl ?_
  refine Runs.setMode ⟨rfl, by decide, rfl, rfl, hset, hcode⟩
    (show highHalf 0x0013 = 0x00 from rfl) (show lowHalf 0x0013 = 0x13 from rfl)
    fun ax' memory' position palette hvideo => ?_
  have hholds' : Holds stage2 drive image memory' := by
    have hfits := hholds.loaded_le
    refine hholds.of_eq fun a ha => hvideo.eq fun hinside => ?_
    rw [videoMemory] at hinside
    omega
  exact palette_runs hlines hholds' himage rfl rfl rfl rfl rfl rfl rfl
    fun cpu ax vga => hrest cpu ax memory' vga hholds'

-- ---------------------------------------------------------------------------
-- The picture
-- ---------------------------------------------------------------------------

/-- From the end of `palette_loop` to `halt`, and from there nowhere. -/
theorem picture_runs (hlines : ∀ line ∈ picture ++ haltLoop 0x8068, LineIn 0x8000 stage2 134 line)
    (hholds : Holds stage2 drive image memory) (himage : 64768 ≤ image.length)
    (hcoloured : Coloured image 768 vga) :
    Runs disk drive (firmwareArea 0x7A00) (Forever (Step disk drive) (Shown image events))
      ⟨{ colouring cpu 768 0 ax with ip := 0x8059 }, memory, vga, events⟩ := by
  simp only [picture, List.forall_mem_append, List.forall_mem_singleton] at hlines
  obtain ⟨⟨hstart, hcopy⟩, hhalt⟩ := hlines
  have hcode := hholds.codeAt (show 0x7A00 ≤ 0x8000 by decide)
  have hblock : runLines 0x7A00 startPicture { colouring cpu 768 0 ax with ip := 0x8059 } =
      some { colouring cpu 0x0300 32000 0xA000 with
        ip := 0x8066, di := 0, es := 0xA000, carry := false, zero := true } := by
    simp [startPicture, runLines, Cpu.calm, Cpu.stackBelow, Cpu.execute, Cpu.setSegment, Cpu.reg16,
      Cpu.setReg16, colouring]
  refine Runs.block (by decide) hstart hcode hblock ?_
  have hsource : InSegment 0x2000 (UInt16.ofNat 0x0300) 0x20300 64000 :=
    ⟨rfl, by decide, by decide⟩
  have htarget : InSegment 0xA000 0 0xA0000 64000 := ⟨rfl, by decide, by decide⟩
  refine Runs.repMovsw ⟨rfl, by decide, rfl, rfl, hcopy, hcode⟩ rfl
    (show 2 * UInt16.toNat 32000 = 64000 from rfl) hsource htarget (by decide) (fun i hi ha => ?_) ?_
  · simp only [firmwareArea] at ha
    omega
  have hfits := hholds.loaded_le
  have hholds' : Holds stage2 drive image (memory.copied 0x20300 0xA0000 64000) :=
    hholds.of_eq fun a ha => if_neg (by omega)
  refine Runs.of_goal fun machine hmatches after hafter => ?_
  obtain ⟨⟨ip, hmatches'⟩, hgo⟩ := Halted.forever
    ⟨hhalt, by decide, hholds'.codeAt (by decide), rfl, rfl, rfl, .inl rfl⟩ hmatches after hafter
  refine ⟨⟨?_, fun i hi => ?_, fun i hi => ?_, hmatches'.events⟩, hgo⟩
  · rw [hmatches'.vga, hcoloured.mode]
  · rw [hmatches'.vga, hcoloured.colours i hi]
  · have hscreen : ¬ firmwareArea 0x7A00 (0xA0000 + i) := by
      rw [firmwareArea]
      omega
    have hcopied : memory.copied 0x20300 0xA0000 64000 (0xA0000 + i) =
        memory (0x20300 + (0xA0000 + i - 0xA0000)) := if_pos (by omega)
    refine (hmatches'.memory.eq hscreen).trans (hcopied.trans ?_)
    rw [Nat.add_sub_cancel_left, ← hholds.image _ (by omega), ← Nat.add_assoc]

end Stage2

/-- Stage 2 reads the sectors that its table names and shows them as a picture, forever.
When a sector cannot be read it says so. -/
theorem stage2_runs {entries : List Chs} (hstage2 : buildStage2 entries.length table = .ok stage2)
    (htableLength : table.length = 3 * entries.length)
    (hentries : ∀ i chs, entries[i]? = some chs → slice table (3 * i) 3 = chs.bytes)
    (hvalid : ∀ chs ∈ entries, chs.Valid ∧ chs.cylinder.toNat < 80 ∧
      512 * chs.lba + 512 ≤ disk.length)
    (hcount : entries.length = 127 ∨ entries.length = 128)
    (hentry : Stage2Entry disk drive count machine)
    (hprogram : ∀ i < stage2.length, machine.memory (0x8000 + i) = stage2.getD i 0) :
    Eventually (Step disk drive)
      (fun after => Forever (Step disk drive)
          (Shown (sectorsOf disk entries) (machine.events ++ readEvents entries)) after ∨
        ReadFails disk drive entries machine.events after)
      machine := by
  obtain ⟨sectors, hsectors, hlines, hmessage, htable⟩ := stage2_lines hstage2
  obtain hsectors : sectors.toNat = entries.length := Int.ofNat.inj hsectors
  have hlength := buildStage2_length hstage2
  simp only [Stage2.listing, List.forall_mem_append] at hlines
  obtain ⟨⟨⟨⟨⟨hprelude, hround⟩, hcolours⟩, hpicture⟩, hhalt⟩, hfailure⟩ := hlines
  have hnonempty : entries ≠ [] := by
    rintro rfl
    simp at hcount
  have hread : Stage2.Table disk stage2 entries := by
    refine ⟨fun i chs hchs => ?_, fun chs hchs => (hvalid chs hchs).1,
      fun chs hchs => (hvalid chs hchs).2.1, fun chs hchs => (hvalid chs hchs).2.2, by omega⟩
    have hi := (List.getElem?_eq_some_iff.mp hchs).1
    rw [← hentries i chs hchs, ← htable, slice_slice _ (by omega)]
  have hsectorsLength := length_sectorsOf hread.inside
  refine Stage2.prelude_runs hprelude hmessage (by omega) (by omega) hentry hprogram
    fun ax dx carry zero memory hholds => ?_
  rw [hsectors]
  have hnone : machine.events = machine.events ++ readEvents [] := (List.append_nil _).symm
  nth_rewrite 3 [hnone]
  refine Stage2.readLoop_runs ?_ (show Stage2.Table disk stage2 ([] ++ entries) from hread)
    hnonempty hholds (fun ax dx carry zero memory' hholds' => ?_) fun machine => Or.inr
  · simp only [List.forall_mem_append]
    exact ⟨⟨hround, hfailure⟩, hhalt⟩
  rw [List.nil_append] at hholds' ⊢
  refine Stage2.colours_runs hcolours hholds' (by omega) fun cpu ax memory vga hholds hcoloured => ?_
  refine Runs.imp (Stage2.picture_runs ?_ hholds (by omega) hcoloured) fun machine => .inl
  simp only [List.forall_mem_append]
  exact ⟨hpicture, hhalt⟩

end

end DragonOS.Build
