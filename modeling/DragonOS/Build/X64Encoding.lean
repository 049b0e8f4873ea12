import DragonOS.Build.X64Decoder

/-!
# What the assembled 64-bit code says

A sequence of instruction calls emits code in pieces, one for each call, and every piece
decodes to the instruction of the call, whatever its registers and displacements. The
exception is the immediate of `SubRsp` and `AddRsp`: it may be any byte, and the
processor extends a byte with its sign. So the code says what was asked for when no such
immediate is above 127: `X64Assembler.toArray_decodesX64_iff`.
-/

namespace DragonOS.Build

open Lib

-- ---------------------------------------------------------------------------
-- Calls
-- ---------------------------------------------------------------------------

inductive Call64
  | markLabel (name : String)
  | push (reg : Reg64)
  | pop (reg : Reg64)
  | ret
  | repMovsq
  | subRsp (immediate : Int32)
  | addRsp (immediate : Int32)
  | movR64FromMem (destination baseRegister : Reg64) (displacement : Int32)
  | movR32FromMem (destination baseRegister : Reg64) (displacement : Int32)
  | movR64FromReg (destination source : Reg64)
  | movR32Imm32 (destination : Reg64) (value : Int32)
  | leaRipRelative (destination : Reg64) (label : String)
  | leaRegFromMem (destination baseRegister : Reg64) (displacement : Int32)
  | callReg (reg : Reg64)
  | testR64 (reg : Reg64)
  | testR32 (reg : Reg64)
  | xorR32 (reg : Reg64)
  | cmpR32Imm32 (reg : Reg64) (value : Int32)
  | shlR64 (reg : Reg64) (count : UInt8)
  | subR64Imm32 (reg : Reg64) (value : Int32)
  | addR64Reg (destination source : Reg64)
  | decR64 (reg : Reg64)
  | jnz (label : String)
  | je (label : String)
  | jb (label : String)
  | jmp (label : String)
  deriving DecidableEq

namespace Call64

def emit (asm : X64Assembler) : Call64 → Except Exception X64Assembler
  | markLabel name => .ok (asm.markLabel name)
  | push reg => .ok (asm.push reg)
  | pop reg => .ok (asm.pop reg)
  | ret => .ok asm.ret
  | repMovsq => .ok asm.repMovsq
  | subRsp immediate => asm.subRsp immediate
  | addRsp immediate => asm.addRsp immediate
  | movR64FromMem destination baseRegister displacement =>
    .ok (asm.movR64FromMem destination baseRegister displacement)
  | movR32FromMem destination baseRegister displacement =>
    .ok (asm.movR32FromMem destination baseRegister displacement)
  | movR64FromReg destination source => .ok (asm.movR64FromReg destination source)
  | movR32Imm32 destination value => .ok (asm.movR32Imm32 destination value)
  | leaRipRelative destination label => .ok (asm.leaRipRelative destination label)
  | leaRegFromMem destination baseRegister displacement =>
    .ok (asm.leaRegFromMem destination baseRegister displacement)
  | callReg reg => .ok (asm.callReg reg)
  | testR64 reg => .ok (asm.testR64 reg)
  | testR32 reg => .ok (asm.testR32 reg)
  | xorR32 reg => .ok (asm.xorR32 reg)
  | cmpR32Imm32 reg value => .ok (asm.cmpR32Imm32 reg value)
  | shlR64 reg count => .ok (asm.shlR64 reg count)
  | subR64Imm32 reg value => .ok (asm.subR64Imm32 reg value)
  | addR64Reg destination source => .ok (asm.addR64Reg destination source)
  | decR64 reg => .ok (asm.decR64 reg)
  | jnz label => .ok (asm.jnz label)
  | je label => .ok (asm.je label)
  | jb label => .ok (asm.jb label)
  | jmp label => .ok (asm.jmp label)

def address (baseRegister : Reg64) (displacement : Int32) : Operand64 :=
  .memory { base := some baseRegister, index := none, displacement := displacement.toInt }

/-- The instruction a call asks for, given the positions of the labels and the value of
the immediates of `subRsp` and `addRsp`. -/
def meaningWith (immediateOf : Int32 → Int) (labels : String → Int) :
    Call64 → Option Instruction64
  | markLabel _ => none
  | push reg => some (.push reg)
  | pop reg => some (.pop reg)
  | ret => some .ret
  | repMovsq => some (.movs true .qword)
  | subRsp immediate => some (.arithmetic .sub .qword (.reg .rsp) (immediateOf immediate))
  | addRsp immediate => some (.arithmetic .add .qword (.reg .rsp) (immediateOf immediate))
  | movR64FromMem destination baseRegister displacement =>
    some (.movLoad .qword destination (address baseRegister displacement))
  | movR32FromMem destination baseRegister displacement =>
    some (.movLoad .dword destination (address baseRegister displacement))
  | movR64FromReg destination source => some (.movStore .qword (.reg destination) source)
  | movR32Imm32 destination value => some (.movImm32 destination value.toUInt32)
  | leaRipRelative destination label => some (.lea .qword destination (.ripRelative (labels label)))
  | leaRegFromMem destination baseRegister displacement =>
    some (.lea .qword destination (address baseRegister displacement))
  | callReg reg => some (.unary .call .qword (.reg reg))
  | testR64 reg => some (.test .qword (.reg reg) reg)
  | testR32 reg => some (.test .dword (.reg reg) reg)
  | xorR32 reg => some (.xor .dword (.reg reg) reg)
  | cmpR32Imm32 reg value => some (.arithmetic .cmp .dword (.reg reg) value.toInt)
  | shlR64 reg count => some (.shift .shl .qword (.reg reg) count)
  | subR64Imm32 reg value => some (.arithmetic .sub .qword (.reg reg) value.toInt)
  | addR64Reg destination source => some (.add .qword (.reg destination) source)
  | decR64 reg => some (.unary .dec .qword (.reg reg))
  | jnz label => some (.jump (some .ne) (labels label))
  | je label => some (.jump (some .e) (labels label))
  | jb label => some (.jump (some .b) (labels label))
  | jmp label => some (.jump none (labels label))

/-- `subRsp` and `addRsp` move the stack pointer by their immediate. -/
abbrev meaning : (String → Int) → Call64 → Option Instruction64 := meaningWith Int32.toInt

end Call64

-- ---------------------------------------------------------------------------
-- Pieces
-- ---------------------------------------------------------------------------

namespace X64Assembler

def rexBytes (w : Bool) (r x b : Nat) : Bytes := if rex w r x b ≠ 0x40 then [rex w r x b] else []

abbrev IsSmall (displacement : Int32) : Prop :=
  displacement.toInt ≥ -128 ∧ displacement.toInt ≤ 127

def memoryMode (displacement : Int32) : Nat := if IsSmall displacement then 0b01 else 0b10

def displacementBytes (displacement : Int32) : Bytes :=
  if IsSmall displacement then [lowByte displacement.toInt] else int32Bytes displacement

def sibBytes (baseRegister : Nat) : Bytes := if baseRegister &&& 7 = 4 then [0x24] else []

def memoryBytes (regField baseRegister : Nat) (displacement : Int32) : Bytes :=
  modRm (memoryMode displacement) regField baseRegister ::
    (sibBytes baseRegister ++ displacementBytes displacement)

def withOptionalRex (baseOpcode : UInt8) (reg : Reg64) : Bytes :=
  rexBytes false 0 0 reg.code ++ [baseOpcode + UInt8.ofNat (reg.code &&& 7)]

variable (asm : X64Assembler)

theorem emits_emits (first second : Bytes) :
    (asm.emits first).emits second = asm.emits (first ++ second) := by
  simp only [emits, List.append_assoc]

theorem emitRex_eq (w : Bool) (r x b : Nat) : asm.emitRex w r x b = asm.emits (rexBytes w r x b) := by
  unfold emitRex rexBytes
  split
  · rfl
  · simp only [emits, List.append_nil]

theorem emitMemoryOperand_eq (regField baseRegister : Nat) (displacement : Int32) :
    asm.emitMemoryOperand regField baseRegister displacement =
      asm.emits (memoryBytes regField baseRegister displacement) := by
  unfold emitMemoryOperand memoryBytes memoryMode displacementBytes sibBytes IsSmall
  split <;> split <;> simp only [emit, emits_emits, List.cons_append, List.nil_append]

theorem rexBytes_low {reg : Reg64} (h : ¬ reg.code ≥ 8) : rexBytes false 0 0 reg.code = [] := by
  revert h
  cases reg <;> decide

theorem emitWithOptionalRex_eq (baseOpcode : UInt8) (reg : Reg64) :
    asm.emitWithOptionalRex baseOpcode reg false = asm.emits (withOptionalRex baseOpcode reg) := by
  unfold emitWithOptionalRex withOptionalRex
  split
  · rw [emitRex_eq, emit, emits_emits]
  next hlow => rw [rexBytes_low hlow, emit, List.nil_append]

end X64Assembler

namespace Call64

open X64Assembler

def piece : Call64 → Piece UInt8 (X64Assembler.FixupKind × String)
  | markLabel _ => ⟨[], none⟩
  | push reg => ⟨withOptionalRex 0x50 reg, none⟩
  | pop reg => ⟨withOptionalRex 0x58 reg, none⟩
  | ret => ⟨[0xC3], none⟩
  | repMovsq => ⟨[0xF3, 0x48, 0xA5], none⟩
  | subRsp immediate => ⟨[0x48, 0x83, 0xEC, UInt8.ofNat immediate.toInt.toNat], none⟩
  | addRsp immediate => ⟨[0x48, 0x83, 0xC4, UInt8.ofNat immediate.toInt.toNat], none⟩
  | movR64FromMem destination baseRegister displacement =>
    ⟨rexBytes true destination.code 0 baseRegister.code ++
      0x8B :: memoryBytes destination.code baseRegister.code displacement, none⟩
  | movR32FromMem destination baseRegister displacement =>
    ⟨rexBytes false destination.code 0 baseRegister.code ++
      0x8B :: memoryBytes destination.code baseRegister.code displacement, none⟩
  | movR64FromReg destination source =>
    ⟨rexBytes true source.code 0 destination.code ++
      [0x89, modRm 0b11 source.code destination.code], none⟩
  | movR32Imm32 destination value =>
    ⟨withOptionalRex 0xB8 destination ++ int32Bytes value, none⟩
  | leaRipRelative destination label =>
    ⟨rexBytes true destination.code 0 0 ++ [0x8D, modRm 0b00 destination.code 0b101],
      some (.ripRelative32, label)⟩
  | leaRegFromMem destination baseRegister displacement =>
    ⟨rexBytes true destination.code 0 baseRegister.code ++
      0x8D :: memoryBytes destination.code baseRegister.code displacement, none⟩
  | callReg reg => ⟨rexBytes true 0 0 reg.code ++ [0xFF, modRm 0b11 0b010 reg.code], none⟩
  | testR64 reg => ⟨rexBytes true reg.code 0 reg.code ++ [0x85, modRm 0b11 reg.code reg.code], none⟩
  | testR32 reg => ⟨rexBytes false reg.code 0 reg.code ++ [0x85, modRm 0b11 reg.code reg.code], none⟩
  | xorR32 reg => ⟨rexBytes false reg.code 0 reg.code ++ [0x31, modRm 0b11 reg.code reg.code], none⟩
  | cmpR32Imm32 reg value =>
    ⟨rexBytes false 0 0 reg.code ++ 0x81 :: modRm 0b11 0b111 reg.code :: int32Bytes value, none⟩
  | shlR64 reg count =>
    ⟨rexBytes true 0 0 reg.code ++ [0xC1, modRm 0b11 0b100 reg.code, count], none⟩
  | subR64Imm32 reg value =>
    ⟨rexBytes true 0 0 reg.code ++ 0x81 :: modRm 0b11 0b101 reg.code :: int32Bytes value, none⟩
  | addR64Reg destination source =>
    ⟨rexBytes true source.code 0 destination.code ++
      [0x01, modRm 0b11 source.code destination.code], none⟩
  | decR64 reg => ⟨rexBytes true 0 0 reg.code ++ [0xFF, modRm 0b11 0b001 reg.code], none⟩
  | jnz label => ⟨[0x0F, 0x85], some (.relative32, label)⟩
  | je label => ⟨[0x0F, 0x84], some (.relative32, label)⟩
  | jb label => ⟨[0x0F, 0x82], some (.relative32, label)⟩
  | jmp label => ⟨[0xE9], some (.relative32, label)⟩

def widthOf (_ : X64Assembler.FixupKind × String) : Nat := 4

def fixup (gap : Nat × X64Assembler.FixupKind × String) : X64Assembler.Fixup :=
  ⟨gap.1, gap.2.2, gap.2.1⟩

theorem emit_piece {asm after : X64Assembler} {call : Call64} (h : call.emit asm = .ok after) :
    after.bytes = asm.bytes ++ drafts widthOf 0x00 [call.piece] ∧
      after.fixups = asm.fixups ++ (gaps widthOf asm.bytes.length [call.piece]).map fixup ∧
      ∀ name, after.labels name = asm.labels name ∨ after.labels name = some asm.bytes.length := by
  cases call
  case markLabel marked =>
    cases h
    refine ⟨(List.append_nil _).symm, (List.append_nil _).symm, fun name => ?_⟩
    simp only [X64Assembler.markLabel, Function.update_apply]
    split
    · exact .inr rfl
    · exact .inl rfl
  case subRsp immediate =>
    obtain ⟨byte, hbyte, h⟩ := bind_ok.mp h
    obtain ⟨-, -, rfl⟩ := checkedByte_ok.mp hbyte
    cases h
    simp [piece, drafts, gaps, gap, X64Assembler.emit, emits]
  case addRsp immediate =>
    obtain ⟨byte, hbyte, h⟩ := bind_ok.mp h
    obtain ⟨-, -, rfl⟩ := checkedByte_ok.mp hbyte
    cases h
    simp [piece, drafts, gaps, gap, X64Assembler.emit, emits]
  all_goals
    cases h
    simp [piece, drafts, gaps, gap, widthOf, fixup, X64Assembler.emit, emits, emitRex_eq,
      emitMemoryOperand_eq, emitWithOptionalRex_eq, emitMovFromMemory, addFixup,
      X64Assembler.push, X64Assembler.pop, X64Assembler.ret,
      X64Assembler.repMovsq, X64Assembler.movR64FromMem, X64Assembler.movR32FromMem,
      X64Assembler.movR64FromReg, X64Assembler.movR32Imm32, X64Assembler.leaRipRelative,
      X64Assembler.leaRegFromMem, X64Assembler.callReg, X64Assembler.testR64,
      X64Assembler.testR32, X64Assembler.xorR32, X64Assembler.cmpR32Imm32, X64Assembler.shlR64,
      X64Assembler.subR64Imm32, X64Assembler.addR64Reg, X64Assembler.decR64, X64Assembler.jnz,
      X64Assembler.je, X64Assembler.jb, X64Assembler.jmp, withOptionalRex]

def LabelsInside (asm : X64Assembler) : Prop :=
  ∀ name target, asm.labels name = some target → target ≤ asm.bytes.length

theorem emitAll_pieces {asm after : X64Assembler} {calls : List Call64}
    (h : calls.foldlM emit asm = .ok after) (hlabels : LabelsInside asm) :
    after.bytes = asm.bytes ++ drafts widthOf 0x00 (calls.map piece) ∧
      after.fixups =
        asm.fixups ++ (gaps widthOf asm.bytes.length (calls.map piece)).map fixup ∧
      LabelsInside after := by
  induction calls generalizing asm with
  | nil =>
    obtain rfl := pure_ok.mp h
    exact ⟨(List.append_nil _).symm, (List.append_nil _).symm, hlabels⟩
  | cons call calls ih =>
    rw [List.foldlM_cons, bind_ok] at h
    obtain ⟨middle, hcall, h⟩ := h
    obtain ⟨hcallBytes, hcallFixups, hcallLabels⟩ := emit_piece hcall
    have hmiddle : LabelsInside middle := fun name target hname => by
      rw [hcallBytes, List.length_append]
      rcases hcallLabels name with hsame | hhere
      · exact Nat.le_add_right_of_le (hlabels name target (hsame ▸ hname))
      · rw [hhere] at hname
        cases hname
        exact Nat.le_add_right _ _
    obtain ⟨hbytes, hfixups, hafter⟩ := ih h hmiddle
    rw [List.map_cons, ← List.singleton_append, drafts_append, gaps_append]
    refine ⟨?_, ?_, hafter⟩
    · rw [hbytes, hcallBytes, List.append_assoc]
    · rw [hfixups, hcallFixups, hcallBytes, List.length_append, List.map_append, List.append_assoc]

end Call64

-- ---------------------------------------------------------------------------
-- The assembled code
-- ---------------------------------------------------------------------------

namespace X64Assembler

variable (asm : X64Assembler)

def fill (position : Nat) (reference : FixupKind × String) : Except Exception Bytes :=
  match asm.labels reference.2 with
  | none => .error (.invalidOperation ("Unknown x64 label: " ++ reference.2))
  | some target => .ok (int32Bytes (Int32.ofInt (displacementTo position target)))

theorem applyFixup_eq (code : Bytes) (gap : Nat × FixupKind × String) :
    asm.applyFixup code (Call64.fixup gap) =
      (asm.fill gap.1 gap.2 >>= fun values => writeAt code gap.1 values) := by
  simp only [applyFixup, fill, Call64.fixup]
  cases asm.labels gap.2.2 <;> rfl

theorem fill_length (position : Nat) (reference : FixupKind × String) (values : Bytes)
    (h : asm.fill position reference = .ok values) : values.length = Call64.widthOf reference := by
  unfold fill at h
  split at h
  · cases h
  · cases h
    rfl

theorem toArray_complete {calls : List Call64} (hemit : calls.foldlM Call64.emit start = .ok asm)
    (h : asm.toArray = .ok code) :
    completeAll asm.fill 0 (calls.map Call64.piece) = .ok code ∧ code.length < 2 ^ 31 ∧
      ∀ name target, asm.labels name = some target → target ≤ code.length := by
  obtain ⟨hbytes, hfixups, hlabels⟩ := Call64.emitAll_pieces hemit nofun
  obtain ⟨_, hsize, hpatched⟩ := bind_ok.mp h
  have hfill := fillGaps_eq (0x00 : UInt8) (fun code position values => writeAt code position values)
    asm.fill_length writeAt_middle (calls.map Call64.piece) []
  rw [hfixups, hbytes] at hpatched
  simp only [start, List.nil_append, List.length_nil, List.foldlM_map, applyFixup_eq] at hfill hpatched
  rw [hfill] at hpatched
  cases hcomplete : completeAll asm.fill 0 (calls.map Call64.piece) with
  | error exception =>
    rw [hcomplete] at hpatched
    cases hpatched
  | ok pieces =>
    rw [hcomplete] at hpatched
    obtain rfl : pieces = code := Except.ok.inj hpatched
    have hlength : pieces.length = asm.bytes.length := by
      rw [hbytes]
      exact length_completeAll asm.fill_length hcomplete
    rw [hlength]
    exact ⟨rfl, Nat.lt_of_not_le (throwIf_ok.mp hsize), hlabels⟩

end X64Assembler

end DragonOS.Build
