import DragonOS.Build.Encoding16
import DragonOS.Build.IsoReader

/-!
# The addresses in the assembled code

A program calls the assembler in any order: it emits, marks labels before or after their
use, and may take the array more than once, which fills in the fields of the fixups each
time. What `ToArray` returns differs from what was emitted in these fields only, and the
relative ones lead to their labels. An absolute field takes the low 16 bits of an address
and is not checked: `toArray_resolved_iff`.
-/

namespace DragonOS.Build

open Lib
open IsoReader (littleEndianValue)

-- ---------------------------------------------------------------------------
-- Programs
-- ---------------------------------------------------------------------------

inductive AssemblerCall
  | instruction (call : Call16)
  | db (value : UInt8)
  | dbs (values : Bytes)
  | dw (value : UInt16)
  | asciiZ (text : String)
  | padToSize (size : Nat)
  | toArray (expectedLength : Option Nat)
  deriving DecidableEq, Repr

namespace Assembler16

/-- The bytes after the fixups have been filled in, up to one that throws. -/
def patchAll (asm : Assembler16) : List Fixup → Bytes → Bytes
  | [], bytes => bytes
  | fixup :: fixups, bytes =>
    match asm.applyFixup bytes fixup with
    | .ok bytes => patchAll asm fixups bytes
    | .error _ => bytes

/-- `toArray` fills in its own bytes, also when it throws in the end. -/
def afterToArray (asm : Assembler16) : Assembler16 :=
  { asm with bytes := asm.patchAll asm.fixups asm.bytes }

end Assembler16

namespace AssemblerCall

def run (asm : Assembler16) : AssemblerCall → Assembler16
  | instruction call => call.emit asm
  | db value => asm.db value
  | dbs values => asm.dbs values
  | dw value => asm.dw value
  | asciiZ text => asm.asciiZ text
  | padToSize size => asm.padToSize size
  | toArray _ => asm.afterToArray

def isToArray : AssemblerCall → Bool
  | toArray _ => true
  | _ => false

end AssemblerCall

def assemble (origin : UInt16) (calls : List AssemblerCall) : Assembler16 :=
  calls.foldl AssemblerCall.run (Assembler16.start origin)

def emitted (origin : UInt16) (calls : List AssemblerCall) : Bytes :=
  (assemble origin (calls.filter fun call => !call.isToArray)).bytes

-- ---------------------------------------------------------------------------
-- Fields
-- ---------------------------------------------------------------------------

def signedValue (field : Bytes) : Int := (littleEndianValue field : Int).bmod (256 ^ field.length)

namespace Fixup

def width (fixup : Fixup) : Nat := Call16.widthOf (fixup.kind, fixup.label)

def stop (fixup : Fixup) : Nat := fixup.position + fixup.width

def field (fixup : Fixup) (code : Bytes) : Bytes := slice code fixup.position fixup.width

/-- The field holds the address, or the way to it from the end of the field. -/
def Resolves (fixup : Fixup) (origin : UInt16) (address : Int) (field : Bytes) : Prop :=
  match fixup.kind with
  | .absolute16 => littleEndianValue field = address
  | .relative8 | .relative16 => origin.toNat + fixup.stop + signedValue field = address

end Fixup

def InField (fixups : List Fixup) (i : Nat) : Prop :=
  ∃ fixup ∈ fixups, fixup.position ≤ i ∧ i < fixup.stop

/-- What the code of a program has to be. -/
structure Resolved (asm : Assembler16) (emitted code : Bytes) : Prop where
  length : code.length = emitted.length
  kept : ∀ i, ¬ InField asm.fixups i → code[i]? = emitted[i]?
  fields : ∀ fixup ∈ asm.fixups, ∃ address, asm.labels fixup.label = some address ∧
    fixup.Resolves asm.origin address (fixup.field code)

-- ---------------------------------------------------------------------------
-- Filling in
-- ---------------------------------------------------------------------------

section
variable {asm : Assembler16} {bytes code : Bytes} {fixups : List Fixup}

theorem Assembler16.applyFixup_ok {fixup : Fixup} (h : asm.applyFixup bytes fixup = .ok code) :
    ∃ address values, asm.labels fixup.label = some address ∧
      asm.patch fixup address = .ok values ∧ values.length = fixup.width ∧
        fixup.stop ≤ bytes.length ∧ code = overwrite bytes fixup.position values := by
  unfold applyFixup at h
  cases hlabel : asm.labels fixup.label with
  | none =>
    rw [hlabel] at h
    cases h
  | some address =>
    simp only [hlabel, bind_ok] at h
    obtain ⟨values, hvalues, hwrite⟩ := h
    obtain ⟨-, hbound, hcode⟩ := writeAt_ok.mp hwrite
    have hlength : values.length = fixup.width := asm.patch_length hvalues
    refine ⟨address, values, rfl, hvalues, hlength, ?_, hcode⟩
    rw [Fixup.stop, ← hlength]
    omega

structure Patched (fixups : List Fixup) (bytes code : Bytes) : Prop where
  length : code.length = bytes.length
  kept : ∀ i, ¬ InField fixups i → code[i]? = bytes[i]?

theorem Patched.refl (fixups : List Fixup) (bytes : Bytes) : Patched fixups bytes bytes :=
  ⟨rfl, fun _ _ => rfl⟩

theorem Patched.trans {middle : Bytes} (hfirst : Patched fixups bytes middle)
    (hsecond : Patched fixups middle code) : Patched fixups bytes code :=
  ⟨hsecond.length.trans hfirst.length, fun i hi => (hsecond.kept i hi).trans (hfirst.kept i hi)⟩

theorem Assembler16.applyFixup_patched {fixup : Fixup} {fixups : List Fixup}
    (h : asm.applyFixup bytes fixup = .ok code) (hmem : fixup ∈ fixups) :
    Patched fixups bytes code := by
  obtain ⟨address, values, -, -, hlength, hstop, rfl⟩ := applyFixup_ok h
  rw [Fixup.stop, ← hlength] at hstop
  refine ⟨length_overwrite hstop, fun i hi => ?_⟩
  rw [getElem?_overwrite hstop, if_neg]
  rintro ⟨hlow, hhigh⟩
  exact hi ⟨fixup, hmem, hlow, by rwa [Fixup.stop, ← hlength]⟩

theorem Assembler16.patchAll_patched {pending fixups : List Fixup} (hsub : pending ⊆ fixups) :
    Patched fixups bytes (asm.patchAll pending bytes) := by
  induction pending generalizing bytes with
  | nil => exact .refl fixups bytes
  | cons fixup pending ih =>
    obtain ⟨hmem, hrest⟩ := List.cons_subset.mp hsub
    unfold patchAll
    split
    next next hnext => exact (applyFixup_patched hnext hmem).trans (ih hrest)
    next => exact .refl fixups bytes

theorem Patched.mono {fewer : List Fixup} (h : Patched fewer bytes code) (hsub : fewer ⊆ fixups) :
    Patched fixups bytes code :=
  ⟨h.length, fun i hi => h.kept i fun ⟨fixup, hmem, hfield⟩ => hi ⟨fixup, hsub hmem, hfield⟩⟩

theorem Patched.field_eq {fixup : Fixup} (h : Patched fixups bytes code)
    (hapart : ∀ later ∈ fixups, fixup.stop ≤ later.position) :
    fixup.field code = fixup.field bytes := by
  refine List.ext_getElem? fun i => ?_
  rw [Fixup.field, Fixup.field, getElem?_slice, getElem?_slice]
  split
  next hi =>
    refine h.kept _ fun ⟨later, hmem, hlow, _⟩ => ?_
    have hstop := hapart later hmem
    rw [Fixup.stop] at hstop
    omega
  next => rfl

/-- What is in the fields in the end: later fixups do not touch the field of an earlier one. -/
theorem Assembler16.foldlM_applyFixup {fixups : List Fixup}
    (h : fixups.foldlM asm.applyFixup bytes = .ok code)
    (hapart : fixups.Pairwise fun first second => first.stop ≤ second.position) :
    Patched fixups bytes code ∧ ∀ fixup ∈ fixups, ∃ address, asm.labels fixup.label = some address ∧
      asm.patch fixup address = .ok (fixup.field code) := by
  induction fixups generalizing bytes with
  | nil =>
    rw [List.foldlM_nil, pure_ok] at h
    subst h
    exact ⟨.refl _ _, nofun⟩
  | cons fixup rest ih =>
    rw [List.foldlM_cons, bind_ok] at h
    obtain ⟨middle, hfirst, h⟩ := h
    obtain ⟨hlater, hapart⟩ := List.pairwise_cons.mp hapart
    obtain ⟨hrest, hfields⟩ := ih h hapart
    refine ⟨(applyFixup_patched hfirst List.mem_cons_self).trans
      (hrest.mono (List.subset_cons_self _ _)), ?_⟩
    rw [List.forall_mem_cons]
    refine ⟨?_, hfields⟩
    obtain ⟨address, values, hlabel, hvalues, hlength, hstop, rfl⟩ := applyFixup_ok hfirst
    refine ⟨address, hlabel, ?_⟩
    rw [Fixup.stop, ← hlength] at hstop
    rw [hrest.field_eq hlater, Fixup.field, ← hlength, slice_overwrite_self hstop]
    exact hvalues

end

-- ---------------------------------------------------------------------------
-- What a call emits
-- ---------------------------------------------------------------------------

namespace AssemblerCall

def piece (length : Nat) : AssemblerCall → Piece UInt8 (FixupKind × String)
  | instruction call => call.piece
  | db value => ⟨[value], none⟩
  | dbs values => ⟨values, none⟩
  | dw value => ⟨[(value &&& 0xFF).toUInt8, (value >>> 8).toUInt8], none⟩
  | asciiZ text => ⟨asciiBytes text ++ [0x00], none⟩
  | padToSize size => ⟨List.replicate (size - length) 0x00, none⟩
  | toArray _ => ⟨[], none⟩

def mark : AssemblerCall → Option String
  | instruction (.markLabel name) => some name
  | _ => none

end AssemblerCall

structure Emits (asm next : Assembler16) (piece : Piece UInt8 (FixupKind × String))
    (mark : Option String) : Prop where
  origin : next.origin = asm.origin
  bytes : next.bytes = asm.bytes ++ drafts Call16.widthOf 0x00 [piece]
  fixups : next.fixups =
    asm.fixups ++ (gaps Call16.widthOf asm.bytes.length [piece]).map Call16.fixup
  labels : next.labels = match mark with
    | none => asm.labels
    | some name => Function.update asm.labels name (some asm.currentAddress)

theorem Call16.labels_emit (asm : Assembler16) (call : Call16) :
    (call.emit asm).labels = match AssemblerCall.mark (.instruction call) with
      | none => asm.labels
      | some name => Function.update asm.labels name (some asm.currentAddress) := by
  cases call
  case movReg8FromSiOffset reg offset =>
    simp only [emit, Assembler16.movReg8FromSiOffset]
    split <;> rfl
  all_goals rfl

theorem AssemblerCall.run_emits (asm : Assembler16) {call : AssemblerCall}
    (h : call.isToArray = false) :
    Emits asm (call.run asm) (call.piece asm.bytes.length) call.mark := by
  cases call with
  | instruction call =>
    obtain ⟨horigin, hbytes, hfixups⟩ := call.emit_piece asm
    exact ⟨horigin, hbytes, hfixups, call.labels_emit asm⟩
  | toArray => cases h
  | db => exact ⟨rfl, rfl, (List.append_nil _).symm, rfl⟩
  | dbs values =>
    refine ⟨rfl, ?_, (List.append_nil _).symm, rfl⟩
    simp [run, piece, Assembler16.dbs, drafts, gap]
  | dw =>
    refine ⟨rfl, ?_, (List.append_nil _).symm, rfl⟩
    simp [run, piece, Assembler16.dw, Assembler16.db, Assembler16.dbs, drafts, gap]
  | asciiZ text =>
    refine ⟨rfl, ?_, (List.append_nil _).symm, rfl⟩
    simp [run, piece, Assembler16.asciiZ, Assembler16.db, Assembler16.dbs, drafts, gap]
  | padToSize size =>
    refine ⟨rfl, ?_, (List.append_nil _).symm, rfl⟩
    simp [run, piece, Assembler16.padToSize, Assembler16.dbs, drafts, gap]

/-- Fields lie apart and inside the code, and labels are at addresses. -/
structure Placed (asm : Assembler16) : Prop where
  apart : asm.fixups.Pairwise fun first second => first.stop ≤ second.position
  inside : ∀ fixup ∈ asm.fixups, fixup.stop ≤ asm.bytes.length
  labels : ∀ name address, asm.labels name = some address → 0 ≤ address

theorem field_of_piece {length : Nat} {piece : Piece UInt8 (FixupKind × String)} {fixup : Fixup}
    (h : fixup ∈ (gaps Call16.widthOf length [piece]).map Call16.fixup) :
    length ≤ fixup.position ∧
      fixup.stop = length + (drafts Call16.widthOf 0x00 [piece]).length := by
  obtain ⟨head, _ | reference⟩ := piece
  · exact absurd h List.not_mem_nil
  · obtain rfl := List.mem_singleton.mp h
    refine ⟨Nat.le_add_right _ _, ?_⟩
    simp [Fixup.stop, Fixup.width, Call16.fixup, drafts, gap, Nat.add_assoc]

theorem Placed.emits {asm after : Assembler16} (h : Placed asm)
    (hemits : Emits asm after piece mark) : Placed after where
  apart := by
    rw [hemits.fixups]
    refine List.pairwise_append.mpr ⟨h.apart, ?_, fun first hfirst second hsecond => ?_⟩
    · obtain ⟨head, _ | reference⟩ := piece
      · exact List.Pairwise.nil
      · exact List.pairwise_singleton _ _
    · exact (h.inside first hfirst).trans (field_of_piece hsecond).1
  inside fixup hfixup := by
    rw [hemits.fixups, List.mem_append] at hfixup
    rw [hemits.bytes, List.length_append]
    rcases hfixup with hold | hnew
    · exact (h.inside fixup hold).trans (Nat.le_add_right _ _)
    · exact (field_of_piece hnew).2.le
  labels name address hlabel := by
    rw [hemits.labels] at hlabel
    cases mark with
    | none => exact h.labels name address hlabel
    | some marked =>
      simp only [Function.update_apply] at hlabel
      split at hlabel
      · obtain rfl := Option.some.inj hlabel
        exact Int.add_nonneg (Int.natCast_nonneg _) (Int.natCast_nonneg _)
      · exact h.labels name address hlabel

/-- A program whose fields are filled in early, and the same without. -/
structure Agrees (bare asm : Assembler16) : Prop where
  origin : asm.origin = bare.origin
  labels : asm.labels = bare.labels
  fixups : asm.fixups = bare.fixups
  bytes : Patched bare.fixups bare.bytes asm.bytes

theorem Agrees.emits {bare bareAfter asm after : Assembler16} (h : Agrees bare asm)
    (hbare : Emits bare bareAfter piece mark) (hasm : Emits asm after piece mark) :
    Agrees bareAfter after where
  origin := by rw [hasm.origin, hbare.origin, h.origin]
  labels := by
    rw [hasm.labels, hbare.labels, h.labels, Assembler16.currentAddress,
      Assembler16.currentAddress, h.origin, h.bytes.length]
  fixups := by rw [hasm.fixups, hbare.fixups, h.fixups, h.bytes.length]
  bytes := by
    rw [hasm.bytes, hbare.bytes, hbare.fixups]
    refine ⟨by rw [List.length_append, List.length_append, h.bytes.length], fun i hi => ?_⟩
    rw [List.getElem?_append, List.getElem?_append, h.bytes.length]
    split
    next =>
      exact h.bytes.kept i fun ⟨fixup, hmem, hfield⟩ =>
        hi ⟨fixup, List.mem_append_left _ hmem, hfield⟩
    next => rfl

theorem Agrees.afterToArray {bare asm : Assembler16} (h : Agrees bare asm) :
    Agrees bare asm.afterToArray where
  origin := h.origin
  labels := h.labels
  fixups := h.fixups
  bytes := h.bytes.trans (h.fixups ▸ Assembler16.patchAll_patched (List.Subset.refl _))

theorem run_agrees {bare asm : Assembler16} (calls : List AssemblerCall) (hplaced : Placed bare)
    (hagrees : Agrees bare asm) :
    Placed ((calls.filter fun call => !call.isToArray).foldl AssemblerCall.run bare) ∧
      Agrees ((calls.filter fun call => !call.isToArray).foldl AssemblerCall.run bare)
        (calls.foldl AssemblerCall.run asm) := by
  induction calls generalizing bare asm with
  | nil => exact ⟨hplaced, hagrees⟩
  | cons call calls ih =>
    cases hcall : call.isToArray with
    | true =>
      rw [List.filter_cons_of_neg (by simp [hcall]), List.foldl_cons]
      cases call with
      | toArray => exact ih hplaced hagrees.afterToArray
      | _ => cases hcall
    | false =>
      rw [List.filter_cons_of_pos (by simp [hcall]), List.foldl_cons, List.foldl_cons]
      have hbare := AssemblerCall.run_emits bare hcall
      have hasm := AssemblerCall.run_emits asm hcall
      rw [hagrees.bytes.length] at hasm
      exact ih (hplaced.emits hbare) (hagrees.emits hbare hasm)

theorem placed_start (origin : UInt16) : Placed (Assembler16.start origin) :=
  ⟨List.Pairwise.nil, nofun, nofun⟩

-- ---------------------------------------------------------------------------
-- What the fields hold
-- ---------------------------------------------------------------------------

theorem littleEndianValue_lowBytes (value : Int) :
    (littleEndianValue [lowByte value, lowByte (value / 256)] : Int) = value % 65536 := by
  simp only [littleEndianValue, List.foldr_cons, List.foldr_nil, toNat_lowByte]
  omega

theorem signedValue_lowByte (hlow : -128 ≤ value) (hhigh : value ≤ 127) :
    signedValue [lowByte value] = value := by
  simp only [signedValue, littleEndianValue, List.foldr_cons, List.foldr_nil, toNat_lowByte,
    List.length_singleton, Int.bmod_def]
  split <;> omega

theorem signedValue_lowBytes (hlow : -32768 ≤ value) (hhigh : value ≤ 32767) :
    signedValue [lowByte value, lowByte (value / 256)] = value := by
  rw [signedValue, littleEndianValue_lowBytes]
  simp only [List.length_cons, List.length_nil, Int.bmod_def]
  split <;> omega

/-- Only an absolute field can miss its label. -/
theorem Assembler16.patch_resolves_iff {asm : Assembler16} {fixup : Fixup} {address : Int}
    (haddress : 0 ≤ address) (h : asm.patch fixup address = .ok values) :
    fixup.Resolves asm.origin address values ↔
      (fixup.kind = .absolute16 → address < 2 ^ 16) := by
  obtain ⟨position, label, kind⟩ := fixup
  cases kind with
  | absolute16 =>
    obtain rfl := Except.ok.inj h
    simp only [Fixup.Resolves, littleEndianValue_lowBytes]
    exact ⟨fun h _ => by omega, fun h => by have := h trivial; omega⟩
  | relative8 =>
    refine iff_of_true ?_ fun hkind => by cases hkind
    simp only [patch] at h
    split at h
    · cases h
    obtain rfl := Except.ok.inj h
    simp only [Fixup.Resolves, Fixup.stop, Fixup.width, Call16.widthOf]
    rw [signedValue_lowByte (by omega) (by omega)]
    omega
  | relative16 =>
    refine iff_of_true ?_ fun hkind => by cases hkind
    simp only [patch] at h
    split at h
    · cases h
    obtain rfl := Except.ok.inj h
    simp only [Fixup.Resolves, Fixup.stop, Fixup.width, Call16.widthOf]
    rw [signedValue_lowBytes (by omega) (by omega)]
    omega

/-- The code of a program is right when no absolute field refers to a label above the
first 64 KiB. -/
theorem Assembler16.toArray_resolved_iff (origin : UInt16) (calls : List AssemblerCall)
    (expectedLength : Option Nat)
    (h : (assemble origin calls).toArray expectedLength = .ok code) :
    Resolved (assemble origin calls) (emitted origin calls) code ↔
      ∀ fixup ∈ (assemble origin calls).fixups, fixup.kind = .absolute16 →
        ∀ address, (assemble origin calls).labels fixup.label = some address →
          address < 2 ^ 16 := by
  obtain ⟨hplaced, hagrees⟩ : Placed (assemble origin (calls.filter fun call => !call.isToArray)) ∧
      Agrees (assemble origin (calls.filter fun call => !call.isToArray)) (assemble origin calls) :=
    run_agrees calls (placed_start origin) ⟨rfl, rfl, rfl, .refl _ _⟩
  have hbytes := hagrees.bytes
  have hapart := hplaced.apart
  have hlabels := hplaced.labels
  rw [← hagrees.fixups] at hbytes hapart
  rw [← hagrees.labels] at hlabels
  generalize assemble origin calls = asm at h hbytes hapart hlabels ⊢
  have hfold : asm.fixups.foldlM asm.applyFixup asm.bytes = .ok code := by
    obtain ⟨bytes, hbytes, hrest⟩ := bind_ok.mp (toArray_none_of_ok asm h)
    obtain rfl := pure_ok.mp hrest
    exact hbytes
  obtain ⟨hpatched, hfields⟩ := foldlM_applyFixup hfold hapart
  have hkept := hbytes.trans hpatched
  constructor
  · intro hresolved fixup hmem hkind address hlabel
    obtain ⟨found, hfound, hresolves⟩ := hresolved.fields fixup hmem
    obtain ⟨target, htarget, hpatch⟩ := hfields fixup hmem
    obtain rfl := Option.some.inj (hlabel.symm.trans hfound)
    obtain rfl := Option.some.inj (hlabel.symm.trans htarget)
    exact (patch_resolves_iff (hlabels _ _ hlabel) hpatch).mp hresolves hkind
  · intro hlow
    refine ⟨hkept.length, hkept.kept, fun fixup hmem => ?_⟩
    obtain ⟨address, hlabel, hpatch⟩ := hfields fixup hmem
    exact ⟨address, hlabel, (patch_resolves_iff (hlabels _ _ hlabel) hpatch).mpr fun hkind =>
      hlow fixup hmem hkind address hlabel⟩

/-- A jump over the end of its own code, and an address of it. -/
def skipCalls : List AssemblerCall :=
  [.instruction (.markLabel "start"), .instruction (.jmpShort "end"), .toArray none,
    .instruction (.movRegImm16Label .si "start"), .instruction (.markLabel "end"), .padToSize 8]

theorem Assembler16.toArray_resolved_iff_skip :
    Resolved (assemble 0x7C00 skipCalls) (emitted 0x7C00 skipCalls)
        [0xEB, 0x03, 0xBE, 0x00, 0x7C, 0x00, 0x00, 0x00] ↔
      ∀ fixup ∈ (assemble 0x7C00 skipCalls).fixups, fixup.kind = .absolute16 →
        ∀ address, (assemble 0x7C00 skipCalls).labels fixup.label = some address →
          address < 2 ^ 16 :=
  toArray_resolved_iff 0x7C00 skipCalls (some 8) rfl

/-- The address behind the code is 0x10002. -/
theorem Assembler16.toArray_resolved_truncated :
    let calls : List AssemblerCall :=
      [.instruction (.movRegImm16Label .ax "end"), .instruction (.markLabel "end")]
    (assemble 0xFFFF calls).toArray none = .ok [0xB8, 0x02, 0x00] ∧
      ¬ Resolved (assemble 0xFFFF calls) (emitted 0xFFFF calls) [0xB8, 0x02, 0x00] := by
  refine ⟨rfl, fun hresolved => ?_⟩
  obtain ⟨address, hlabel, hresolves⟩ :=
    hresolved.fields ⟨1, "end", .absolute16⟩ (List.mem_singleton.mpr rfl)
  obtain rfl := Option.some.inj hlabel
  have htruncated : (littleEndianValue [0x02, 0x00] : Int) = 0x10002 := hresolves
  exact absurd htruncated (by decide)

end DragonOS.Build
