import DragonOS.Build.Decoder16

/-!
# What the assembled code says

A sequence of instruction calls emits code in pieces, one for each call. Every piece
decodes to the instruction of the call, with one exception: the offset of
`MovReg8FromSiOffset` is a byte, and the processor extends it with its sign. So the code
says what was asked for when no offset is above 127: `toArray_decodes_iff`.
-/

namespace DragonOS.Build

open Lib

-- ---------------------------------------------------------------------------
-- Calls
-- ---------------------------------------------------------------------------

inductive Call16
  | markLabel (name : String)
  | cli | sti | cld | hlt | ret | lodsb | repMovsw | outDxAl
  | int (interrupt : UInt8)
  | pushReg (reg : Reg16)
  | popReg (reg : Reg16)
  | incReg (reg : Reg16)
  | movRegImm16 (reg : Reg16) (value : UInt16)
  | movRegImm16Label (reg : Reg16) (label : String)
  | movRegImm8 (reg : Reg8) (value : UInt8)
  | movSegmentFromReg (segment : SegmentReg) (reg : Reg16)
  | movMem8AbsoluteFromReg8 (label : String) (reg : Reg8)
  | movReg8FromMem8Absolute (reg : Reg8) (label : String)
  | movReg8FromSiOffset (reg : Reg8) (offset : UInt8)
  | xorRegWithSelf (reg : Reg16)
  | testReg8WithSelf (reg : Reg8)
  | addRegImm16 (reg : Reg16) (value : UInt16)
  | jmpFar (segment offset : UInt16)
  | callNear (label : String)
  | jmpShort (label : String)
  | jzShort (label : String)
  | jcShort (label : String)
  | loopShort (label : String)
  deriving DecidableEq, Repr

namespace Call16

def emit (asm : Assembler16) : Call16 → Assembler16
  | markLabel name => asm.markLabel name
  | cli => asm.cli
  | sti => asm.sti
  | cld => asm.cld
  | hlt => asm.hlt
  | ret => asm.ret
  | lodsb => asm.lodsb
  | repMovsw => asm.repMovsw
  | outDxAl => asm.outDxAl
  | int interrupt => asm.int interrupt
  | pushReg reg => asm.pushReg reg
  | popReg reg => asm.popReg reg
  | incReg reg => asm.incReg reg
  | movRegImm16 reg value => asm.movRegImm16 reg value
  | movRegImm16Label reg label => asm.movRegImm16Label reg label
  | movRegImm8 reg value => asm.movRegImm8 reg value
  | movSegmentFromReg segment reg => asm.movSegmentFromReg segment reg
  | movMem8AbsoluteFromReg8 label reg => asm.movMem8AbsoluteFromReg8 label reg
  | movReg8FromMem8Absolute reg label => asm.movReg8FromMem8Absolute reg label
  | movReg8FromSiOffset reg offset => asm.movReg8FromSiOffset reg offset
  | xorRegWithSelf reg => asm.xorRegWithSelf reg
  | testReg8WithSelf reg => asm.testReg8WithSelf reg
  | addRegImm16 reg value => asm.addRegImm16 reg value
  | jmpFar segment offset => asm.jmpFar segment offset
  | callNear label => asm.callNear label
  | jmpShort label => asm.jmpShort label
  | jzShort label => asm.jzShort label
  | jcShort label => asm.jcShort label
  | loopShort label => asm.loopShort label

/-- The instruction a call asks for, given the addresses of the labels and the address
offset of a byte. -/
def meaningWith (displacement : UInt8 → UInt16) (labels : String → UInt16) :
    Call16 → Option Instruction16
  | markLabel _ => none
  | cli => some .cli
  | sti => some .sti
  | cld => some .cld
  | hlt => some .hlt
  | ret => some .ret
  | lodsb => some .lodsb
  | repMovsw => some .repMovsw
  | outDxAl => some .outDxAl
  | int interrupt => some (.int interrupt)
  | pushReg reg => some (.push reg)
  | popReg reg => some (.pop reg)
  | incReg reg => some (.inc reg)
  | movRegImm16 reg value => some (.movImm16 reg value)
  | movRegImm16Label reg label => some (.movImm16 reg (labels label))
  | movRegImm8 reg value => some (.movImm8 reg value)
  | movSegmentFromReg segment reg => some (.movToSegment segment (.reg reg))
  | movMem8AbsoluteFromReg8 label reg =>
    some (.movFromReg8 (.memory (.direct (labels label))) reg)
  | movReg8FromMem8Absolute reg label => some (.movToReg8 reg (.memory (.direct (labels label))))
  | movReg8FromSiOffset reg offset =>
    some (.movToReg8 reg (.memory (.based .si (displacement offset))))
  | xorRegWithSelf reg => some (.xor16 (.reg reg) reg)
  | testReg8WithSelf reg => some (.test8 (.reg reg) reg)
  | addRegImm16 reg value => some (.arithmetic .add (.reg reg) value)
  | jmpFar segment offset => some (.jmpFar segment offset)
  | callNear label => some (.callNear (labels label))
  | jmpShort label => some (.short .jmp (labels label))
  | jzShort label => some (.short .jz (labels label))
  | jcShort label => some (.short .jc (labels label))
  | loopShort label => some (.short .loop (labels label))

/-- A byte offset counts up from SI. -/
abbrev meaning : (String → UInt16) → Call16 → Option Instruction16 := meaningWith UInt8.toUInt16

-- ---------------------------------------------------------------------------
-- Pieces
-- ---------------------------------------------------------------------------

def widthOf (reference : FixupKind × String) : Nat :=
  match reference.1 with
  | .absolute16 => 2
  | .relative8 => 1
  | .relative16 => 2

def piece : Call16 → Piece UInt8 (FixupKind × String)
  | markLabel _ => ⟨[], none⟩
  | cli => ⟨[0xFA], none⟩
  | sti => ⟨[0xFB], none⟩
  | cld => ⟨[0xFC], none⟩
  | hlt => ⟨[0xF4], none⟩
  | ret => ⟨[0xC3], none⟩
  | lodsb => ⟨[0xAC], none⟩
  | repMovsw => ⟨[0xF3, 0xA5], none⟩
  | outDxAl => ⟨[0xEE], none⟩
  | int interrupt => ⟨[0xCD, interrupt], none⟩
  | pushReg reg => ⟨[0x50 + reg.code], none⟩
  | popReg reg => ⟨[0x58 + reg.code], none⟩
  | incReg reg => ⟨[0x40 + reg.code], none⟩
  | movRegImm16 reg value =>
    ⟨[0xB8 + reg.code, (value &&& 0xFF).toUInt8, (value >>> 8).toUInt8], none⟩
  | movRegImm16Label reg label => ⟨[0xB8 + reg.code], some (.absolute16, label)⟩
  | movRegImm8 reg value => ⟨[0xB0 + reg.code, value], none⟩
  | movSegmentFromReg segment reg =>
    ⟨[0x8E, (0xC0 : UInt8) ||| (segment.code <<< 3) ||| reg.code], none⟩
  | movMem8AbsoluteFromReg8 label reg =>
    ⟨[0x88, (reg.code <<< 3) ||| 0x06], some (.absolute16, label)⟩
  | movReg8FromMem8Absolute reg label =>
    ⟨[0x8A, (reg.code <<< 3) ||| 0x06], some (.absolute16, label)⟩
  | movReg8FromSiOffset reg offset =>
    if offset = 0 then ⟨[0x8A, (reg.code <<< 3) ||| 0x04], none⟩
    else ⟨[0x8A, (0x40 : UInt8) ||| (reg.code <<< 3) ||| 0x04, offset], none⟩
  | xorRegWithSelf reg => ⟨[0x31, (0xC0 : UInt8) ||| (reg.code <<< 3) ||| reg.code], none⟩
  | testReg8WithSelf reg => ⟨[0x84, (0xC0 : UInt8) ||| (reg.code <<< 3) ||| reg.code], none⟩
  | addRegImm16 reg value =>
    ⟨[0x81, (0xC0 : UInt8) ||| reg.code, (value &&& 0xFF).toUInt8, (value >>> 8).toUInt8], none⟩
  | jmpFar segment offset =>
    ⟨[0xEA, (offset &&& 0xFF).toUInt8, (offset >>> 8).toUInt8, (segment &&& 0xFF).toUInt8,
      (segment >>> 8).toUInt8], none⟩
  | callNear label => ⟨[0xE8], some (.relative16, label)⟩
  | jmpShort label => ⟨[0xEB], some (.relative8, label)⟩
  | jzShort label => ⟨[0x74], some (.relative8, label)⟩
  | jcShort label => ⟨[0x72], some (.relative8, label)⟩
  | loopShort label => ⟨[0xE2], some (.relative8, label)⟩

def fixup (gap : Nat × FixupKind × String) : Fixup := ⟨gap.1, gap.2.2, gap.2.1⟩

theorem emit_piece (asm : Assembler16) (call : Call16) :
    (call.emit asm).origin = asm.origin ∧
      (call.emit asm).bytes = asm.bytes ++ drafts widthOf 0x00 [call.piece] ∧
      (call.emit asm).fixups =
        asm.fixups ++ (gaps widthOf asm.bytes.length [call.piece]).map fixup := by
  cases call
  case movReg8FromSiOffset reg offset =>
    simp only [emit, Assembler16.movReg8FromSiOffset, piece]
    split <;> simp [Assembler16.db, Assembler16.dbs, drafts, gaps, gap]
  all_goals
    simp [emit, piece, drafts, gaps, gap, widthOf, fixup, Assembler16.db, Assembler16.dbs,
      Assembler16.dw, Assembler16.addFixup, Assembler16.jumpShort, Assembler16.markLabel,
      Assembler16.cli, Assembler16.sti, Assembler16.cld, Assembler16.hlt, Assembler16.ret,
      Assembler16.lodsb, Assembler16.repMovsw, Assembler16.outDxAl, Assembler16.int,
      Assembler16.pushReg, Assembler16.popReg, Assembler16.incReg, Assembler16.movRegImm16,
      Assembler16.movRegImm16Label, Assembler16.movRegImm8, Assembler16.movSegmentFromReg,
      Assembler16.movMem8AbsoluteFromReg8, Assembler16.movReg8FromMem8Absolute,
      Assembler16.xorRegWithSelf, Assembler16.testReg8WithSelf, Assembler16.addRegImm16,
      Assembler16.jmpFar, Assembler16.callNear, Assembler16.jmpShort, Assembler16.jzShort,
      Assembler16.jcShort, Assembler16.loopShort]

theorem emitAll_pieces (asm : Assembler16) (calls : List Call16) :
    (calls.foldl emit asm).origin = asm.origin ∧
      (calls.foldl emit asm).bytes = asm.bytes ++ drafts widthOf 0x00 (calls.map piece) ∧
      (calls.foldl emit asm).fixups =
        asm.fixups ++ (gaps widthOf asm.bytes.length (calls.map piece)).map fixup := by
  induction calls generalizing asm with
  | nil => exact ⟨rfl, (List.append_nil _).symm, (List.append_nil _).symm⟩
  | cons call calls ih =>
    obtain ⟨horigin, hbytes, hfixups⟩ := ih (call.emit asm)
    obtain ⟨hcallOrigin, hcallBytes, hcallFixups⟩ := call.emit_piece asm
    rw [List.foldl_cons, List.map_cons, ← List.singleton_append, drafts_append, gaps_append]
    refine ⟨horigin.trans hcallOrigin, ?_, ?_⟩
    · rw [hbytes, hcallBytes, List.append_assoc]
    · rw [hfixups, hcallFixups, hcallBytes, List.length_append, List.map_append, List.append_assoc]

end Call16

-- ---------------------------------------------------------------------------
-- The assembled code
-- ---------------------------------------------------------------------------

namespace Assembler16

variable (asm : Assembler16)

def fill (position : Nat) (reference : FixupKind × String) : Except Exception Bytes :=
  match asm.labels reference.2 with
  | none => .error (.invalidOperation ("Unknown label: " ++ reference.2))
  | some target => asm.patch ⟨position, reference.2, reference.1⟩ target

theorem applyFixup_eq (code : Bytes) (gap : Nat × FixupKind × String) :
    asm.applyFixup code (Call16.fixup gap) =
      (asm.fill gap.1 gap.2 >>= fun values => writeAt code gap.1 values) := by
  simp only [applyFixup, fill, Call16.fixup]
  cases asm.labels gap.2.2 <;> rfl

theorem patch_length {fixup : Fixup} (h : asm.patch fixup target = .ok values) :
    values.length = Call16.widthOf (fixup.kind, fixup.label) := by
  unfold patch at h
  unfold Call16.widthOf
  cases hkind : fixup.kind with
  | absolute16 =>
    simp only [hkind] at h
    cases h
    rfl
  | relative8 =>
    simp only [hkind] at h
    split at h
    · cases h
    · cases h
      rfl
  | relative16 =>
    simp only [hkind] at h
    split at h
    · cases h
    · cases h
      rfl

theorem fill_length (position : Nat) (reference : FixupKind × String) (values : Bytes)
    (h : asm.fill position reference = .ok values) : values.length =
      Call16.widthOf reference := by
  unfold fill at h
  split at h
  · cases h
  · exact asm.patch_length h

theorem toArray_eq (origin : UInt16) (calls : List Call16) :
    let asm := calls.foldl Call16.emit (start origin)
    asm.toArray none = completeAll asm.fill 0 (calls.map Call16.piece) := by
  intro asm
  obtain ⟨-, hbytes, hfixups⟩ := Call16.emitAll_pieces (start origin) calls
  have hfill := fillGaps_eq (0x00 : UInt8) (fun code position values => writeAt code position values)
    asm.fill_length writeAt_middle (calls.map Call16.piece) []
  have hpatched : asm.fixups.foldlM asm.applyFixup asm.bytes =
      completeAll asm.fill 0 (calls.map Call16.piece) := by
    rw [hfixups, hbytes]
    simp only [start, List.nil_append, List.length_nil, List.foldlM_map, applyFixup_eq] at hfill ⊢
    rw [hfill]
    cases completeAll asm.fill 0 (calls.map Call16.piece) <;> rfl
  rw [toArray, hpatched]
  exact bind_pure _

theorem toArray_none_of_ok {expectedLength : Option Nat}
    (h : asm.toArray expectedLength = .ok code) : asm.toArray none = .ok code := by
  simp only [toArray, bind_ok] at h ⊢
  obtain ⟨bytes, hbytes, h⟩ := h
  refine ⟨bytes, hbytes, ?_⟩
  cases expectedLength with
  | none => exact h
  | some length =>
    simp only at h
    split at h
    · exact absurd h throw_ok
    · exact h

theorem ofInt_displacement (origin : UInt16) (position width : Nat) (target : Int) :
    origin + UInt16.ofNat position + UInt16.ofNat width +
      UInt16.ofInt (target - (position + width + origin.toNat)) = UInt16.ofInt target := by
  refine UInt16.toNat_inj.mp ?_
  simp only [UInt16.toNat_add, UInt16.toNat_ofNat', toNat_ofInt16]
  omega

def labelAddress (name : String) : UInt16 := UInt16.ofInt ((asm.labels name).getD 0)

theorem fill_absolute16 (h : asm.fill position (.absolute16, label) = .ok values) :
    ∃ low high, values = [low, high] ∧ joinBytes low high = asm.labelAddress label := by
  unfold fill at h
  split at h
  · cases h
  next target hlabel =>
    cases h
    exact ⟨_, _, rfl, by rw [joinBytes_lowByte, labelAddress, hlabel]; rfl⟩

/-- A near displacement leads from the end of its field to the label. -/
theorem fill_relative16 (h : asm.fill position (.relative16, label) = .ok values) :
    ∃ low high, values = [low, high] ∧
      asm.origin + UInt16.ofNat position + 2 + joinBytes low high = asm.labelAddress label := by
  unfold fill at h
  split at h
  · cases h
  next target hlabel =>
    simp only [patch] at h
    split at h
    · cases h
    next hrange =>
      cases h
      refine ⟨_, _, rfl, ?_⟩
      rw [joinBytes_lowByte, labelAddress, hlabel, Option.getD_some]
      exact ofInt_displacement asm.origin position 2 target

/-- So does a short one. -/
theorem fill_relative8 (h : asm.fill position (.relative8, label) = .ok values) :
    ∃ byte, values = [byte] ∧
      asm.origin + UInt16.ofNat position + 1 + signExtend byte = asm.labelAddress label := by
  unfold fill at h
  split at h
  · cases h
  next target hlabel =>
    simp only [patch] at h
    split at h
    · cases h
    next hrange =>
      cases h
      refine ⟨_, rfl, ?_⟩
      rw [signExtend_lowByte (by omega) (by omega), labelAddress, hlabel, Option.getD_some]
      exact ofInt_displacement asm.origin position 1 target

end Assembler16

-- ---------------------------------------------------------------------------
-- Reading the code
-- ---------------------------------------------------------------------------

namespace Call16

variable {asm : Assembler16} {position : Nat} {code : Bytes}

abbrev ReadsAs (asm : Assembler16) (position : Nat) (code : Bytes)
    (instruction : Instruction16) : Prop :=
  (decode16 asm.origin).Reads position code (some instruction)

section
variable (asm : Assembler16) (position : Nat)

theorem readsAs_int (interrupt : UInt8) :
    ReadsAs asm position [0xCD, interrupt] (.int interrupt) := ⟨nofun, fun _ => rfl⟩

theorem readsAs_register (reg : Reg16) :
    ReadsAs asm position [0x50 + reg.code] (.push reg) ∧
      ReadsAs asm position [0x58 + reg.code] (.pop reg) ∧
      ReadsAs asm position [0x40 + reg.code] (.inc reg) := by
  cases reg <;> exact ⟨⟨nofun, fun _ => rfl⟩, ⟨nofun, fun _ => rfl⟩, nofun, fun _ => rfl⟩

theorem readsAs_movImm16 (reg : Reg16) (low high : UInt8) :
    ReadsAs asm position [0xB8 + reg.code, low, high] (.movImm16 reg (joinBytes low high)) := by
  cases reg <;> exact ⟨nofun, fun _ => rfl⟩

theorem readsAs_movImm8 (reg : Reg8) (value : UInt8) :
    ReadsAs asm position [0xB0 + reg.code, value] (.movImm8 reg value) := by
  cases reg <;> exact ⟨nofun, fun _ => rfl⟩

theorem readsAs_movToSegment (segment : SegmentReg) (reg : Reg16) :
    ReadsAs asm position [0x8E, (0xC0 : UInt8) ||| (segment.code <<< 3) ||| reg.code]
      (.movToSegment segment (.reg reg)) := by
  cases segment <;> cases reg <;> exact ⟨nofun, fun _ => rfl⟩

theorem readsAs_direct (reg : Reg8) (low high : UInt8) :
    ReadsAs asm position [0x88, (reg.code <<< 3) ||| 0x06, low, high]
        (.movFromReg8 (.memory (.direct (joinBytes low high))) reg) ∧
      ReadsAs asm position [0x8A, (reg.code <<< 3) ||| 0x06, low, high]
        (.movToReg8 reg (.memory (.direct (joinBytes low high)))) := by
  cases reg <;> exact ⟨⟨nofun, fun _ => rfl⟩, nofun, fun _ => rfl⟩

theorem readsAs_siOffset (reg : Reg8) (offset : UInt8) :
    ReadsAs asm position [0x8A, (0x40 : UInt8) ||| (reg.code <<< 3) ||| 0x04, offset]
      (.movToReg8 reg (.memory (.based .si (signExtend offset)))) := by
  cases reg <;> exact ⟨nofun, fun _ => rfl⟩

theorem readsAs_si (reg : Reg8) :
    ReadsAs asm position [0x8A, (reg.code <<< 3) ||| 0x04]
      (.movToReg8 reg (.memory (.based .si (signExtend 0)))) := by
  cases reg <;> exact ⟨nofun, fun _ => rfl⟩

theorem readsAs_xorWithSelf (reg : Reg16) :
    ReadsAs asm position [0x31, (0xC0 : UInt8) ||| (reg.code <<< 3) ||| reg.code]
      (.xor16 (.reg reg) reg) := by
  cases reg <;> exact ⟨nofun, fun _ => rfl⟩

theorem readsAs_testWithSelf (reg : Reg8) :
    ReadsAs asm position [0x84, (0xC0 : UInt8) ||| (reg.code <<< 3) ||| reg.code]
      (.test8 (.reg reg) reg) := by
  cases reg <;> exact ⟨nofun, fun _ => rfl⟩

theorem readsAs_addImm16 (reg : Reg16) (low high : UInt8) :
    ReadsAs asm position [0x81, (0xC0 : UInt8) ||| reg.code, low, high]
      (.arithmetic .add (.reg reg) (joinBytes low high)) := by
  cases reg <;> exact ⟨nofun, fun _ => rfl⟩

theorem readsAs_jmpFar (low high segmentLow segmentHigh : UInt8) :
    ReadsAs asm position [0xEA, low, high, segmentLow, segmentHigh]
      (.jmpFar (joinBytes segmentLow segmentHigh) (joinBytes low high)) := ⟨nofun, fun _ => rfl⟩

end

theorem ofNat_succ (origin : UInt16) (position : Nat) (width : UInt16) :
    origin + UInt16.ofNat (position + 1) + width = origin + UInt16.ofNat position + (1 + width) := by
  rw [UInt16.ofNat_add, ← UInt16.add_assoc, UInt16.add_assoc (origin + _)]
  rfl

theorem readsAs_short {opcode : UInt8} {condition : Short}
    (hopcode : (opcode, condition) ∈ [(0xEB, Short.jmp), (0x74, .jz), (0x72, .jc), (0xE2, .loop)])
    (h : Piece.complete asm.fill position ⟨[opcode], some (.relative8, label)⟩ = .ok code) :
    ReadsAs asm position code (.short condition (asm.labelAddress label)) := by
  obtain ⟨values, hvalues, rfl⟩ := Piece.complete_of_reference h
  obtain ⟨byte, rfl, htarget⟩ := asm.fill_relative8 hvalues
  refine ⟨nofun, fun rest => ?_⟩
  rw [← htarget, List.length_singleton, ofNat_succ]
  simp only [List.mem_cons, Prod.mk.injEq, List.not_mem_nil, or_false] at hopcode
  rcases hopcode with ⟨rfl, rfl⟩ | ⟨rfl, rfl⟩ | ⟨rfl, rfl⟩ | ⟨rfl, rfl⟩ <;> rfl

theorem readsAs_callNear
    (h : Piece.complete asm.fill position ⟨[0xE8], some (.relative16, label)⟩ = .ok code) :
    ReadsAs asm position code (.callNear (asm.labelAddress label)) := by
  obtain ⟨values, hvalues, rfl⟩ := Piece.complete_of_reference h
  obtain ⟨low, high, rfl, htarget⟩ := asm.fill_relative16 hvalues
  refine ⟨nofun, fun rest => ?_⟩
  rw [← htarget, List.length_singleton, ofNat_succ]
  rfl

/-- Every call emits what it asks for, up to the sign of an offset. -/
theorem piece_reads (call : Call16) (h : call.piece.complete asm.fill position = .ok code) :
    (decode16 asm.origin).Reads position code
      (call.meaningWith signExtend asm.labelAddress) := by
  cases call with
  | markLabel name => exact (Except.ok.inj h).symm
  | cli | sti | cld | hlt | ret | lodsb | repMovsw | outDxAl =>
    cases h
    exact ⟨nofun, fun _ => rfl⟩
  | int interrupt =>
    cases h
    exact readsAs_int asm position interrupt
  | pushReg reg =>
    cases h
    exact (readsAs_register asm position reg).1
  | popReg reg =>
    cases h
    exact (readsAs_register asm position reg).2.1
  | incReg reg =>
    cases h
    exact (readsAs_register asm position reg).2.2
  | movRegImm16 reg value =>
    cases h
    have hreads := readsAs_movImm16 asm position reg
      (value &&& 0xFF).toUInt8 (value >>> 8).toUInt8
    rwa [joinBytes_value] at hreads
  | movRegImm16Label reg label =>
    obtain ⟨values, hvalues, rfl⟩ := Piece.complete_of_reference h
    obtain ⟨low, high, rfl, hlabel⟩ := asm.fill_absolute16 hvalues
    have hreads := readsAs_movImm16 asm position reg low high
    rwa [hlabel] at hreads
  | movRegImm8 reg value =>
    cases h
    exact readsAs_movImm8 asm position reg value
  | movSegmentFromReg segment reg =>
    cases h
    exact readsAs_movToSegment asm position segment reg
  | movMem8AbsoluteFromReg8 label reg =>
    obtain ⟨values, hvalues, rfl⟩ := Piece.complete_of_reference h
    obtain ⟨low, high, rfl, hlabel⟩ := asm.fill_absolute16 hvalues
    have hreads := (readsAs_direct asm position reg low high).1
    rwa [hlabel] at hreads
  | movReg8FromMem8Absolute reg label =>
    obtain ⟨values, hvalues, rfl⟩ := Piece.complete_of_reference h
    obtain ⟨low, high, rfl, hlabel⟩ := asm.fill_absolute16 hvalues
    have hreads := (readsAs_direct asm position reg low high).2
    rwa [hlabel] at hreads
  | movReg8FromSiOffset reg offset =>
    simp only [piece] at h
    split at h
    next hzero =>
      cases h
      rw [hzero]
      exact readsAs_si asm position reg
    next =>
      cases h
      exact readsAs_siOffset asm position reg offset
  | xorRegWithSelf reg =>
    cases h
    exact readsAs_xorWithSelf asm position reg
  | testReg8WithSelf reg =>
    cases h
    exact readsAs_testWithSelf asm position reg
  | addRegImm16 reg value =>
    cases h
    have hreads := readsAs_addImm16 asm position reg
      (value &&& 0xFF).toUInt8 (value >>> 8).toUInt8
    rwa [joinBytes_value] at hreads
  | jmpFar segment offset =>
    cases h
    have hreads := readsAs_jmpFar asm position (offset &&& 0xFF).toUInt8
      (offset >>> 8).toUInt8 (segment &&& 0xFF).toUInt8 (segment >>> 8).toUInt8
    rwa [joinBytes_value, joinBytes_value] at hreads
  | callNear label => exact readsAs_callNear h
  | jmpShort label => exact readsAs_short (by simp) h
  | jzShort label => exact readsAs_short (by simp) h
  | jcShort label => exact readsAs_short (by simp) h
  | loopShort label => exact readsAs_short (by simp) h

theorem meaningWith_eq_iff (labels : String → UInt16) (call : Call16) :
    call.meaningWith signExtend labels = call.meaning labels ↔
      ∀ reg offset, call = .movReg8FromSiOffset reg offset → offset < 0x80 := by
  cases call with
  | movReg8FromSiOffset reg offset =>
    simp only [meaning, meaningWith, Option.some.injEq, Instruction16.movToReg8.injEq,
      Operand.memory.injEq, MemoryOperand.based.injEq, true_and, signExtend_eq_iff]
    constructor
    · rintro h reg' offset' heq
      cases heq
      exact h
    · exact fun h => h reg offset rfl
  | _ => exact ⟨fun _ _ _ h => Call16.noConfusion h, fun _ => rfl⟩

end Call16

theorem Call16.isSome_meaningWith (call : Call16) (labels : String → UInt16)
    (first second : UInt8 → UInt16) :
    (call.meaningWith first labels).isSome = (call.meaningWith second labels).isSome := by
  cases call <;> rfl

/-- Reading the assembled code gives back the instructions that were asked for when no
offset of `movReg8FromSiOffset` is above 127, and something else otherwise. -/
theorem Assembler16.toArray_decodes_iff (origin : UInt16) (calls : List Call16)
    (expectedLength : Option Nat)
    (h : (calls.foldl Call16.emit (start origin)).toArray expectedLength = .ok code) :
    decodeAll (decode16 origin) code.length 0 code =
        some (calls.filterMap
          (Call16.meaning (calls.foldl Call16.emit (start origin)).labelAddress)) ↔
      ∀ reg offset, .movReg8FromSiOffset reg offset ∈ calls → offset < 0x80 := by
  have horigin := (Call16.emitAll_pieces (start origin) calls).1
  have hcode := (toArray_eq origin calls).symm.trans (toArray_none_of_ok _ h)
  generalize calls.foldl Call16.emit (start origin) = asm at horigin hcode
  have hread : decodeAll (decode16 origin) code.length 0 code =
      some (calls.filterMap (Call16.meaningWith signExtend asm.labelAddress)) := by
    refine decodeAll_complete Call16.piece _ calls (fun call _ position code hcomplete _ => ?_)
      hcode (Nat.le_refl _) (Nat.le_refl _)
    have hreads := Call16.piece_reads call hcomplete
    rwa [horigin] at hreads
  rw [hread, Option.some.injEq, filterMap_eq_iff fun call =>
    call.isSome_meaningWith asm.labelAddress signExtend UInt8.toUInt16]
  constructor
  · exact fun h reg offset hmem =>
      (Call16.meaningWith_eq_iff _ _).mp (h _ hmem) reg offset rfl
  · exact fun h call hmem => (Call16.meaningWith_eq_iff _ call).mpr fun reg offset heq =>
      h reg offset (heq ▸ hmem)

def loopCalls : List Call16 :=
  [.markLabel "next", .movReg8FromSiOffset .al 3, .testReg8WithSelf .al, .incReg .si,
    .jzShort "done", .jmpShort "next", .markLabel "done", .ret]

def loopCode : Bytes := [0x8A, 0x44, 0x03, 0x84, 0xC0, 0x46, 0x74, 0x02, 0xEB, 0xF6, 0xC3]

theorem Assembler16.toArray_decodes_iff_loop :
    decodeAll (decode16 0x8000) loopCode.length 0 loopCode =
        some (loopCalls.filterMap
          (Call16.meaning (loopCalls.foldl Call16.emit (start 0x8000)).labelAddress)) ↔
      ∀ reg offset, .movReg8FromSiOffset reg offset ∈ loopCalls → offset < 0x80 :=
  toArray_decodes_iff 0x8000 loopCalls none rfl

/-- An offset of 128 is read as 128 down from SI. -/
theorem Assembler16.toArray_decodes_negative :
    let calls := [.movReg8FromSiOffset .al 0x80]
    let asm := calls.foldl Call16.emit (start 0x8000)
    asm.toArray none = .ok [0x8A, 0x44, 0x80] ∧
      decodeAll (decode16 0x8000) 3 0 [0x8A, 0x44, 0x80] =
        some [.movToReg8 .al (.memory (.based .si 0xFF80))] ∧
      calls.filterMap (Call16.meaning asm.labelAddress) =
        [.movToReg8 .al (.memory (.based .si 0x0080))] ∧
      decodeAll (decode16 0x8000) 3 0 [0x8A, 0x44, 0x80] ≠
        some (calls.filterMap (Call16.meaning asm.labelAddress)) :=
  ⟨rfl, rfl, rfl, by decide⟩

end DragonOS.Build
