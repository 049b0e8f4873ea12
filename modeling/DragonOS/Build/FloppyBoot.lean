import DragonOS.Build.BootPicture
import DragonOS.Lib.Blocks

/-!
# Booting the floppy

The first sector of the disk is stage 1, which loads the sectors of stage 2, which loads the
sectors of the image. `floppy_boots` puts the two runs together: a machine that enters the
boot sector of a floppy shows its payload in the end, or has told which read has failed.
-/

namespace DragonOS.Build

open Lib

-- ---------------------------------------------------------------------------
-- The table
-- ---------------------------------------------------------------------------

def chsOf (lba : Nat) : Chs :=
  ⟨UInt8.ofNat (lba / 36), UInt8.ofNat (lba % 36 / 18), UInt8.ofNat (lba % 18 + 1)⟩

theorem lbaToChs_eq {lba : Nat} (h : lbaToChs lba = .ok chs) : chs = chsOf lba := by
  simp only [lbaToChs, bind_ok, throwIf_ok, pure_ok] at h
  obtain ⟨-, -, rfl⟩ := h
  simp only [sectorsPerTrack, headsPerCylinder, chsOf, lowByte, Chs.mk.injEq]
  have htdiv : (lba : Int).tdiv (18 * 2) = (lba / 36 : Nat) := Int.tdiv_eq_ediv_of_nonneg (by omega)
  have htmod : (lba : Int).tmod (18 * 2) = (lba % 36 : Nat) := Int.tmod_eq_emod_of_nonneg (by omega)
  have htdiv' : ((lba % 36 : Nat) : Int).tdiv 18 = (lba % 36 / 18 : Nat) :=
    Int.tdiv_eq_ediv_of_nonneg (by omega)
  have htmod' : ((lba % 36 : Nat) : Int).tmod 18 = (lba % 36 % 18 : Nat) :=
    Int.tmod_eq_emod_of_nonneg (by omega)
  rw [htdiv, htmod, htdiv', htmod']
  refine ⟨?_, ?_, ?_⟩
  · rw [← UInt8.toNat_inj, UInt8.toNat_ofNat', UInt8.toNat_ofNat']
    omega
  · rw [← UInt8.toNat_inj, UInt8.toNat_ofNat', UInt8.toNat_ofNat']
    omega
  · rw [← UInt8.toNat_inj, UInt8.toNat_ofNat', UInt8.toNat_ofNat']
    omega

def entriesFrom (start count : Nat) : List Chs := (List.range count).map fun i => chsOf (start + i)

theorem length_entriesFrom (start count : Nat) : (entriesFrom start count).length = count := by
  rw [entriesFrom, List.length_map, List.length_range]

theorem getElem?_entriesFrom (h : (entriesFrom start count)[i]? = some chs) :
    i < count ∧ chs = chsOf (start + i) := by
  have hi := (List.getElem?_eq_some_iff.mp h).1
  rw [length_entriesFrom] at hi
  rw [entriesFrom, List.getElem?_map, List.getElem?_range hi, Option.map_some, Option.some_inj] at h
  exact ⟨hi, h.symm⟩

-- ---------------------------------------------------------------------------
-- The disk
-- ---------------------------------------------------------------------------

theorem buildDiskImage_front (h : buildDiskImage stage1 stage2 imageData = .ok disk) :
    slice disk 0 512 = stage1 ∧ disk.length = 1474560 := by
  simp only [buildDiskImage, bind_ok, throwIf_ok, newArray_ok, writeAt_ok] at h
  obtain ⟨-, hstage1, code, -, image, -, -, -, blank, ⟨-, hblank⟩, loader,
    ⟨-, hloaderFits, rfl⟩, program, ⟨-, hprogramFits, rfl⟩, -, himageFits, rfl⟩ := h
  simp only [sectorSize, Int.zero_add, Int.reduceToNat] at *
  have hstage1Length : stage1.length = 512 := by omega
  have hblankLength : blank.length = 1474560 := by
    rw [hblank, List.length_replicate]
    rfl
  clear hblank
  have hloaderBound : 0 + stage1.length ≤ blank.length := by omega
  have hloader := length_overwrite hloaderBound
  have hprogramBound : 512 + code.length ≤ (overwrite blank 0 stage1).length := by omega
  have hprogram := length_overwrite hprogramBound
  have himageOffset : ((512 : Int) + code.length).toNat = 512 + code.length := by omega
  have himageBound : 512 + code.length + image.length ≤
      (overwrite (overwrite blank 0 stage1) 512 code).length := by omega
  rw [himageOffset]
  constructor
  · rw [slice_overwrite_of_disjoint himageBound (.inl (by omega)),
      slice_overwrite_of_disjoint hprogramBound (.inl (by omega)), ← hstage1Length]
    exact slice_overwrite_self hloaderBound
  · rw [length_overwrite himageBound, hprogram, hloader, hblankLength]

theorem getD_diskSector (h : diskSector disk lba = paddedSector data index) (hi : i < 512) :
    disk.getD (512 * lba + i) 0 = data.getD (512 * index + i) 0 := by
  have hbyte := getElem?_slice disk (512 * lba) 512 i
  rw [← diskSector, h, paddedSector, List.getElem?_map, List.getElem?_range hi, Option.map_some,
    if_pos hi] at hbyte
  rw [List.getD_eq_getElem?_getD, ← hbyte, Option.getD_some]

/-- What the boot code finds on the disk. -/
structure Floppy.Bootable (floppy : Floppy) (payload : Bytes) (sectors count : Nat) : Prop where
  stage1 : buildStage1 sectors = .ok (slice floppy.disk 0 512)
  stage2 : buildStage2 count floppy.imageSectorTable = .ok floppy.stage2
  length_disk : floppy.disk.length = 1474560
  sectors_pos : 1 ≤ sectors
  sectors_le : sectors ≤ 17
  stage2_le : floppy.stage2.length ≤ 512 * sectors
  program : ∀ i < floppy.stage2.length, floppy.disk.getD (512 + i) 0 = floppy.stage2.getD i 0
  table_length : floppy.imageSectorTable.length = 3 * count
  table : ∀ i < count, slice floppy.imageSectorTable (3 * i) 3 = (chsOf (1 + sectors + i)).bytes
  valid : ∀ i < count, (chsOf (1 + sectors + i)).Valid ∧ (chsOf (1 + sectors + i)).lba = 1 + sectors + i
  image : ∀ i < count, diskSector floppy.disk (1 + sectors + i) = paddedSector payload i

theorem buildFloppy_bootable (hpayload : payload.length < 2 ^ 31)
    (h : buildFloppy payload = .ok floppy) :
    ∃ sectors count : Nat, floppy.stage2SectorCount = sectors ∧ floppy.imageSectorCount = count ∧
      count = (payload.length + 511) / 512 ∧ floppy.Bootable payload sectors count := by
  simp only [buildFloppy, bind_ok, throwIf_ok, pure_ok] at h
  obtain ⟨placeholder, hplaceholder, first, hfirst, -, -, table, htable, stage2, hstage2,
    -, hstage2Count, stage1, hstage1, disk, hdisk, rfl⟩ := h
  obtain ⟨hnonneg, hsmall⟩ := imageSectorCount_of_buildStage2 hfirst
  have hcountEq := divideRoundUp_sectorSize (length_of_divideRoundUp hpayload hnonneg)
  generalize hcount : (payload.length + 511) / 512 = count
  obtain hcount' : ((payload.length : Int) + 511) / 512 = count := by omega
  rw [hcountEq, hcount'] at hplaceholder hfirst hstage2 htable hsmall ⊢
  have hfirstLength := buildStage2_length hfirst
  have hplaceholder' : buildSectorTable (0 : Nat) (count : Nat) = .ok placeholder := hplaceholder
  have hplaceholderLength := (buildSectorTable_spec (by omega) (by omega) hplaceholder').1
  have hsectors := divideRoundUp_sectorSize (show first.length + 511 < 2 ^ 31 by omega)
  generalize hsectorsNat : (first.length + 511) / 512 = sectors
  obtain hsectors' : divideRoundUp first.length sectorSize = sectors := by omega
  rw [hsectors'] at htable
  have htable' : buildSectorTable (1 + sectors : Nat) (count : Nat) = .ok table := by
    push_cast
    exact htable
  obtain ⟨htableLength, hentries⟩ := buildSectorTable_spec (by omega) (by omega) htable'
  have hstage2Length := buildStage2_length hstage2
  obtain hlength : stage2.length = first.length := by omega
  rw [hlength, hsectors'] at hstage1 hstage2Count ⊢
  obtain ⟨hprogram, himage⟩ := buildDiskImage_spec (by omega) (by omega) hdisk
  obtain ⟨hfront, hdiskLength⟩ := buildDiskImage_front hdisk
  have himageCount := divideRoundUp_sectorSize (show payload.length + 511 < 2 ^ 31 by omega)
  have hentry (i : Nat) (hi : i < count) : slice table (3 * i) 3 = (chsOf (1 + sectors + i)).bytes ∧
      (chsOf (1 + sectors + i)).Valid ∧ (chsOf (1 + sectors + i)).lba = 1 + sectors + i := by
    obtain ⟨chs, hchs, hslice⟩ := hentries i hi
    obtain rfl := lbaToChs_eq hchs
    obtain ⟨hvalid, hlba⟩ := lbaToChs_spec hchs
    exact ⟨hslice, hvalid, hlba⟩
  refine ⟨sectors, count, rfl, rfl, rfl, ?_⟩
  refine ⟨by rw [hfront]; exact hstage1, hstage2, hdiskLength, by omega, by omega, ?_, fun i hi => ?_,
    htableLength, fun i hi => (hentry i hi).1, fun i hi => (hentry i hi).2, fun i hi => ?_⟩
  · simp only
    omega
  · simp only at hi ⊢
    have hbyte := getD_diskSector (hprogram (i / 512) (by rw [hlength, hsectors']; omega))
      (Nat.mod_lt i (by decide))
    rwa [Nat.mul_add, Nat.add_assoc, Nat.div_add_mod] at hbyte
  · exact himage sectors (by rw [hlength, hsectors']) i (by omega)

-- ---------------------------------------------------------------------------
-- The run
-- ---------------------------------------------------------------------------

section
variable {drive : UInt8} {machine : Machine} {payload : Bytes} {floppy : Floppy}

def Floppy.reads (floppy : Floppy) (count : Nat) : List Event :=
  .read 1 floppy.stage2SectorCount.toNat true ::
    (List.range count).map fun i => .read (1 + floppy.stage2SectorCount.toNat + i) 1 true

def Floppy.Fails (floppy : Floppy) (drive : UInt8) (events : List Event) (machine : Machine) : Prop :=
  Gone floppy.disk drive
      (events ++ [.read 1 floppy.stage2SectorCount.toNat false] ++ stage2LoadFailed) machine ∨
    ∃ i < floppy.imageSectorCount.toNat, Gone floppy.disk drive
      (events ++ floppy.reads i ++ [.read (1 + floppy.stage2SectorCount.toNat + i) 1 false] ++
        imageLoadFailed) machine

theorem sectorsOf_entriesFrom (disk : Bytes) (start count : Nat) :
    sectorsOf disk (entriesFrom start count) =
      blocks count fun i => diskSector disk (chsOf (start + i)).lba := by
  rw [sectorsOf, entriesFrom, List.flatMap_map, blocks]

theorem Floppy.Bootable.getD_sectorsOf (h : floppy.Bootable payload sectors count)
    (hi : i < 512 * count) :
    (sectorsOf floppy.disk (entriesFrom (1 + sectors) count)).getD i 0 = payload.getD i 0 := by
  have hsector (j : Nat) (hj : j < count) :
      diskSector floppy.disk (chsOf (1 + sectors + j)).lba = paddedSector payload j := by
    rw [(h.valid j hj).2, h.image j hj]
  have hlength (j : Nat) (hj : j < count) : (paddedSector payload j).length = 512 := by
    rw [paddedSector, List.length_map, List.length_range]
  have hmod := Nat.mod_lt i (show 0 < 512 by decide)
  have hplace := getElem?_blocks hlength (show i / 512 < count by omega) hmod
  rw [sectorsOf_entriesFrom, blocks_congr hsector, List.getD_eq_getElem?_getD]
  rw [Nat.div_add_mod' i 512, paddedSector, List.getElem?_map, List.getElem?_range hmod,
    Option.map_some, Nat.div_add_mod] at hplace
  rw [hplace, Option.getD_some]

theorem Floppy.Bootable.entries_valid (h : floppy.Bootable payload sectors count)
    (hcount : count ≤ 128) : ∀ chs ∈ entriesFrom (1 + sectors) count,
      chs.Valid ∧ chs.cylinder.toNat < 80 ∧ 512 * chs.lba + 512 ≤ floppy.disk.length := by
  intro chs hchs
  obtain ⟨i, hi, rfl⟩ := List.mem_map.mp hchs
  obtain ⟨hvalid, hlba⟩ := h.valid i (List.mem_range.mp hi)
  have hi := List.mem_range.mp hi
  have hsectors := h.sectors_le
  refine ⟨hvalid, ?_, by rw [hlba, h.length_disk]; omega⟩
  rw [Chs.lba] at hlba
  omega

theorem take_entriesFrom (start : Nat) (hi : i ≤ count) :
    (entriesFrom start count).take i = entriesFrom start i := by
  rw [entriesFrom, ← List.map_take, List.take_range, Nat.min_eq_left hi, entriesFrom]

theorem Floppy.Bootable.reads_eq (h : floppy.Bootable payload sectors count)
    (hsectors : floppy.stage2SectorCount = sectors) (hi : i ≤ count) :
    [.read 1 sectors true] ++ readEvents (entriesFrom (1 + sectors) i) = floppy.reads i := by
  rw [Floppy.reads, hsectors, Int.toNat_natCast, readEvents, entriesFrom, List.map_map,
    List.singleton_append, List.cons_inj_right]
  refine List.map_congr_left fun j hj => ?_
  have hj := List.mem_range.mp hj
  rw [Function.comp_apply, (h.valid j (by omega)).2]

theorem Floppy.Bootable.fails (h : floppy.Bootable payload sectors count)
    (hsectors : floppy.stage2SectorCount = sectors) (hcount : floppy.imageSectorCount = count)
    (hfails : ReadFails floppy.disk drive (entriesFrom (1 + sectors) count)
      (events ++ [.read 1 sectors true]) machine) : floppy.Fails drive events machine := by
  obtain ⟨read, chs, rest, hentries, hgone⟩ := hfails
  have hplace : (entriesFrom (1 + sectors) count)[read.length]? = some chs := by
    rw [hentries, List.getElem?_append_right Nat.le.refl, Nat.sub_self]
    rfl
  obtain ⟨hread, rfl⟩ := getElem?_entriesFrom hplace
  have hbefore : read = entriesFrom (1 + sectors) read.length := by
    rw [← take_entriesFrom _ hread.le, hentries, List.take_left]
  refine .inr ⟨read.length, by rw [hcount]; exact hread, ?_⟩
  have hreads := h.reads_eq hsectors hread.le
  rw [← hbefore] at hreads
  rw [(h.valid _ hread).2, List.append_assoc events, hreads] at hgone
  rw [hsectors]
  exact hgone

theorem Floppy.Bootable.boots (h : floppy.Bootable payload sectors count)
    (hsectors : floppy.stage2SectorCount = sectors) (hcount : floppy.imageSectorCount = count)
    (hrange : count = 127 ∨ count = 128)
    (hentry : BootSectorEntry drive (slice floppy.disk 0 512) machine) :
    Eventually (Step floppy.disk drive)
      (fun after => Forever (Step floppy.disk drive)
          (Shown payload (machine.events ++ floppy.reads floppy.imageSectorCount.toNat)) after ∨
        floppy.Fails drive machine.events after)
      machine := by
  have hdisk := h.length_disk
  have hsectorsPos := h.sectors_pos
  have hsectorsLe := h.sectors_le
  refine (stage1_runs h.stage1 ⟨hsectorsPos, hsectorsLe⟩ (by omega) hentry).trans ?_
  rintro loaded (⟨hstage2, hevents⟩ | hgone)
  · have hlength := length_entriesFrom (1 + sectors) count
    have hcode : buildStage2 (entriesFrom (1 + sectors) count).length floppy.imageSectorTable =
        .ok floppy.stage2 := by
      rw [hlength]
      exact h.stage2
    have hruns := stage2_runs hcode (by rw [hlength]; exact h.table_length) (fun i chs hchs => ?_)
      (h.entries_valid (by omega)) (by omega) hstage2 fun i hi => ?_
    · refine hruns.mono fun after hafter => ?_
      rw [hevents] at hafter
      refine hafter.imp (fun hshown => hshown.mono fun final hfinal => ?_) (h.fails hsectors hcount)
      refine ⟨hfinal.mode, fun i hi => ?_, fun i hi => ?_, ?_⟩
      · rw [hfinal.colours i hi, h.getD_sectorsOf (by omega)]
      · rw [hfinal.pixels i hi, h.getD_sectorsOf (by omega)]
      · rw [hfinal.events, List.append_assoc, h.reads_eq hsectors Nat.le.refl, hcount,
          Int.toNat_natCast]
    · obtain ⟨hi, rfl⟩ := getElem?_entriesFrom hchs
      exact h.table i hi
    · have hle := h.stage2_le
      rw [hstage2.program i (by omega), h.program i hi]
  · refine .now (.inr (.inl ?_))
    rw [hsectors]
    exact hgone

/-- A machine that enters the boot sector of the floppy shows the payload in the end, forever.
When a read fails it says so. -/
theorem floppy_boots (h : buildFloppy payload = .ok floppy)
    (hpayload : 64768 ≤ payload.length ∧ payload.length ≤ 65536)
    (hentry : BootSectorEntry drive (slice floppy.disk 0 512) machine) :
    Eventually (Step floppy.disk drive)
      (fun after => Forever (Step floppy.disk drive)
          (Shown payload (machine.events ++ floppy.reads floppy.imageSectorCount.toNat)) after ∨
        floppy.Fails drive machine.events after)
      machine := by
  obtain ⟨sectors, count, hsectors, hcount, hcountEq, hboot⟩ := buildFloppy_bootable (by omega) h
  exact hboot.boots hsectors hcount (by omega) hentry

/-- There is room for the payload of a screen whatever its bytes are. -/
theorem buildFloppy_returns (hpayload : payload.length = 64768) :
    ∃ floppy, buildFloppy payload = .ok floppy := by
  obtain ⟨first, hfirst⟩ : ∃ code, (buildSectorTable 0 127 >>= buildStage2 127) = .ok code :=
    returns_of_toBool (by decide +kernel)
  obtain ⟨stage2, hstage2⟩ : ∃ code, (buildSectorTable 3 127 >>= buildStage2 127) = .ok code :=
    returns_of_toBool (by decide +kernel)
  obtain ⟨stage1, hstage1⟩ : ∃ code, buildStage1 2 = .ok code := returns_of_toBool (by decide +kernel)
  obtain ⟨placeholder, hplaceholder, hfirst⟩ := bind_ok.mp hfirst
  obtain ⟨table, htable, hstage2⟩ := bind_ok.mp hstage2
  have hplaceholderLength := (buildSectorTable_spec (by decide) (by decide)
    (show buildSectorTable (0 : Nat) (127 : Nat) = .ok placeholder from hplaceholder)).1
  have htableLength := (buildSectorTable_spec (by decide) (by decide)
    (show buildSectorTable (3 : Nat) (127 : Nat) = .ok table from htable)).1
  have hfirstLength : first.length = 534 := by rw [buildStage2_length hfirst, hplaceholderLength]
  have hstage2Length : stage2.length = 534 := by rw [buildStage2_length hstage2, htableLength]
  have hsectors : divideRoundUp (534 : Nat) sectorSize = 2 := by decide
  have hcount : divideRoundUp (64768 : Nat) sectorSize = 127 := by decide
  obtain ⟨disk, hdisk⟩ : ∃ disk, buildDiskImage stage1 stage2 payload = .ok disk :=
    buildDiskImage_returns (buildStage1_length hstage1) (by omega) (by omega)
      (by rw [hstage2Length, hpayload, hsectors, hcount]; decide)
  refine ⟨⟨127, table, stage2, 2, disk⟩, ?_⟩
  simp only [buildFloppy, bind_ok, throwIf_ok, pure_ok, hpayload, hcount]
  refine ⟨placeholder, hplaceholder, first, hfirst, (), ?_, table, ?_, stage2, hstage2, (), ?_,
    stage1, ?_, disk, hdisk, ?_⟩
  all_goals simp only [hfirstLength, hstage2Length, hsectors]
  · decide
  · exact htable
  · decide
  · exact hstage1

theorem floppy_boots_blank : ∃ floppy, buildFloppy (List.replicate 64768 0) = .ok floppy ∧
    Eventually (Step floppy.disk 0)
      (fun after => Forever (Step floppy.disk 0) (Shown (List.replicate 64768 0)
          (floppy.reads floppy.imageSectorCount.toNat)) after ∨ floppy.Fails 0 [] after)
      (Machine.atBootSector 0 (slice floppy.disk 0 512)) := by
  have hlength : (List.replicate 64768 (0 : UInt8)).length = 64768 := List.length_replicate
  obtain ⟨floppy, hfloppy⟩ := buildFloppy_returns hlength
  refine ⟨floppy, hfloppy, ?_⟩
  exact floppy_boots hfloppy (by rw [hlength]; decide) (Machine.atBootSector_entry 0 _)

end

end DragonOS.Build
