import DragonOS.Build.Labels16

/-!
# Listings

What a program of the assembler becomes: where its labels are (`marks`), which instruction
is at which address (`listing`), and where its data is. The code that `toArray` returns has
the instructions of the listing at their addresses, as long as no offset from SI is 128 or
more: `inText_of_listing`.
-/

namespace DragonOS.Build

open Lib

/-- An instruction, its address and the address behind it. -/
structure Line where
  address : UInt16
  instruction : Instruction16
  next : UInt16
  deriving DecidableEq, Repr

def pieceSize (piece : Piece UInt8 (FixupKind × String)) : Nat :=
  piece.head.length + (gap Call16.widthOf (0x00 : UInt8) piece.reference).length

namespace AssemblerCall

def size (length : Nat) (call : AssemblerCall) : Nat := pieceSize (call.piece length)

def meaning (labels : String → UInt16) : AssemblerCall → Option Instruction16
  | instruction call => call.meaning labels
  | _ => none

/-- The processor takes an offset of 128 or more for a negative one. -/
def OffsetFits : AssemblerCall → Prop
  | instruction (.movReg8FromSiOffset _ offset) => offset < 0x80
  | _ => True

instance : DecidablePred OffsetFits := fun call => by
  unfold OffsetFits
  split <;> infer_instance

end AssemblerCall

-- ---------------------------------------------------------------------------
-- What the calls add up to
-- ---------------------------------------------------------------------------

def piecesOf : (length : Nat) → List AssemblerCall → List (Piece UInt8 (FixupKind × String))
  | _, [] => []
  | length, call :: calls => call.piece length :: piecesOf (length + call.size length) calls

def marks (origin : UInt16) : (length : Nat) → List AssemblerCall → (String → Option Int) →
    String → Option Int
  | _, [], labels => labels
  | length, call :: calls, labels =>
    marks origin (length + call.size length) calls <|
      match call.mark with
      | none => labels
      | some name => Function.update labels name (some (origin.toNat + length))

def listing (origin : UInt16) (labels : String → UInt16) : (length : Nat) →
    List AssemblerCall → List Line
  | _, [] => []
  | length, call :: calls =>
    let rest := listing origin labels (length + call.size length) calls
    match call.meaning labels with
    | none => rest
    | some instruction =>
      ⟨origin + UInt16.ofNat length, instruction,
        origin + UInt16.ofNat (length + call.size length)⟩ :: rest

section
variable {asm : Assembler16} {origin : UInt16} {calls : List AssemblerCall} {code : Bytes}

theorem length_drafts_singleton (piece : Piece UInt8 (FixupKind × String)) :
    (drafts Call16.widthOf 0x00 [piece]).length = pieceSize piece := by
  simp [drafts, pieceSize]

theorem run_piecesOf (asm : Assembler16) (hcalls : ∀ call ∈ calls, call.isToArray = false) :
    let after := calls.foldl AssemblerCall.run asm
    after.origin = asm.origin ∧
      after.bytes = asm.bytes ++ drafts Call16.widthOf 0x00 (piecesOf asm.bytes.length calls) ∧
      after.fixups = asm.fixups ++
        (gaps Call16.widthOf asm.bytes.length (piecesOf asm.bytes.length calls)).map Call16.fixup ∧
      after.labels = marks asm.origin asm.bytes.length calls asm.labels := by
  induction calls generalizing asm with
  | nil => exact ⟨rfl, (List.append_nil _).symm, (List.append_nil _).symm, rfl⟩
  | cons call calls ih =>
    obtain ⟨hcall, hcalls⟩ := List.forall_mem_cons.mp hcalls
    have hemits := AssemblerCall.run_emits asm hcall
    obtain ⟨horigin, hbytes, hfixups, hlabels⟩ := ih (call.run asm) hcalls
    have hlength : (call.run asm).bytes.length = asm.bytes.length + call.size asm.bytes.length := by
      rw [hemits.bytes, List.length_append, length_drafts_singleton, AssemblerCall.size]
    rw [hlength] at hbytes hfixups hlabels
    rw [List.foldl_cons, piecesOf, ← List.singleton_append, drafts_append, gaps_append]
    refine ⟨horigin.trans hemits.origin, ?_, ?_, ?_⟩
    · rw [hbytes, hemits.bytes, List.append_assoc]
    · rw [hfixups, hemits.fixups, length_drafts_singleton, List.map_append]
      exact List.append_assoc _ _ _
    · cases hmark : call.mark <;>
        simp only [hlabels, hemits.labels, hemits.origin, marks, Assembler16.currentAddress, hmark]

theorem assemble_labels (hcalls : ∀ call ∈ calls, call.isToArray = false) :
    (assemble origin calls).labels = marks origin 0 calls fun _ => none :=
  (run_piecesOf (Assembler16.start origin) hcalls).2.2.2

theorem assemble_toArray (hcalls : ∀ call ∈ calls, call.isToArray = false) :
    (assemble origin calls).toArray none =
      completeAll (assemble origin calls).fill 0 (piecesOf 0 calls) := by
  obtain ⟨-, hbytes, hfixups, -⟩ := run_piecesOf (Assembler16.start origin) hcalls
  rw [← assemble] at hbytes hfixups
  generalize assemble origin calls = asm at hbytes hfixups ⊢
  have hfill := fillGaps_eq (0x00 : UInt8) (fun code position values => writeAt code position values)
    asm.fill_length writeAt_middle (piecesOf 0 calls) []
  have hpatched : asm.fixups.foldlM asm.applyFixup asm.bytes =
      completeAll asm.fill 0 (piecesOf 0 calls) := by
    rw [hfixups, hbytes]
    simp only [Assembler16.start, List.nil_append, List.length_nil, List.foldlM_map,
      Assembler16.applyFixup_eq] at hfill ⊢
    rw [hfill]
    cases completeAll asm.fill 0 (piecesOf 0 calls) <;> rfl
  rw [Assembler16.toArray, hpatched]
  exact bind_pure _

-- ---------------------------------------------------------------------------
-- The code of a listing
-- ---------------------------------------------------------------------------

theorem length_complete {piece : Piece UInt8 (FixupKind × String)}
    (h : piece.complete asm.fill position = .ok code) : code.length = pieceSize piece := by
  have hall : completeAll asm.fill position [piece] = .ok code := by
    simp only [completeAll, h, ok_bind, List.append_nil]
  rw [← length_drafts_singleton]
  exact length_completeAll asm.fill_length hall

theorem AssemblerCall.piece_reads (call : AssemblerCall) {meant : Instruction16}
    (hmeaning : call.meaning asm.labelAddress = some meant) (hoffset : call.OffsetFits)
    (h : (call.piece length).complete asm.fill position = .ok code) :
    (decode16 asm.origin).Reads position code (some meant) ∧ call.size length ≤ 6 := by
  cases call with
  | instruction call =>
    have hreads := call.piece_reads h
    have hsame := (Call16.meaningWith_eq_iff asm.labelAddress call).mpr fun reg offset heq => by
      rwa [heq] at hoffset
    rw [hsame.trans hmeaning] at hreads
    refine ⟨hreads, ?_⟩
    cases call
    case movReg8FromSiOffset reg offset =>
      simp only [size, piece, Call16.piece]
      split <;> simp [pieceSize, gap]
    all_goals simp [size, piece, Call16.piece, pieceSize, gap, Call16.widthOf]
  | _ => cases hmeaning

theorem decode16_origin (origin : UInt16) (position : Nat) (code : Bytes) :
    decode16 (origin + UInt16.ofNat position) 0 code = decode16 origin position code := by
  have hzero : origin + UInt16.ofNat position + UInt16.ofNat 0 = origin + UInt16.ofNat position :=
    UInt16.add_zero _
  unfold decode16
  rw [hzero]

def extent : (length : Nat) → List AssemblerCall → Nat
  | length, [] => length
  | length, call :: calls => extent (length + call.size length) calls

theorem le_extent (length : Nat) (calls : List AssemblerCall) : length ≤ extent length calls := by
  induction calls generalizing length with
  | nil => exact Nat.le_refl _
  | cons call calls ih => exact (Nat.le_add_right _ _).trans (ih _)

/-- The processor reads the line in the first `stop` bytes of code that is loaded at
`origin`, whatever is around it. -/
structure Line.InText (line : Line) (origin : UInt16) (code : Bytes) (stop position : Nat)
    (bytes : Bytes) : Prop where
  address : line.address = origin + UInt16.ofNat position
  next : line.next = origin + UInt16.ofNat (position + bytes.length)
  inside : position + bytes.length ≤ stop
  slice_eq : slice code position bytes.length = bytes
  short : bytes.length ≤ 6
  reads : (decode16 origin).Reads position bytes (some line.instruction)

theorem inText_of_completeAll {before rest : Bytes} {text data : List AssemblerCall}
    (h : completeAll asm.fill before.length (piecesOf before.length (text ++ data)) = .ok rest)
    (hoffsets : ∀ call ∈ text, call.OffsetFits)
    (hline : line ∈ listing asm.origin asm.labelAddress before.length text) :
    ∃ position bytes,
      line.InText asm.origin (before ++ rest) (extent before.length text) position bytes := by
  induction text generalizing before rest with
  | nil => exact absurd hline List.not_mem_nil
  | cons call text ih =>
    obtain ⟨hoffset, hoffsets⟩ := List.forall_mem_cons.mp hoffsets
    rw [List.cons_append, piecesOf, completeAll, bind_ok] at h
    obtain ⟨first, hfirst, h⟩ := h
    obtain ⟨others, hothers, h⟩ := bind_ok.mp h
    obtain rfl := Except.ok.inj h
    have hsize : first.length = call.size before.length := length_complete hfirst
    have hlater (hmem : line ∈ listing asm.origin asm.labelAddress
        (before.length + call.size before.length) text) : ∃ position bytes,
          line.InText asm.origin (before ++ (first ++ others)) (extent before.length (call :: text))
            position bytes := by
      rw [← hsize, ← List.length_append] at hmem hothers
      rw [extent, ← hsize, ← List.length_append, ← List.append_assoc]
      exact ih hothers hoffsets hmem
    rw [listing] at hline
    cases hmeaning : call.meaning asm.labelAddress with
    | none =>
      rw [hmeaning] at hline
      exact hlater hline
    | some meant =>
      rw [hmeaning] at hline
      rcases List.mem_cons.mp hline with rfl | hline
      · obtain ⟨hreads, hshort⟩ := call.piece_reads hmeaning hoffset hfirst
        refine ⟨before.length, first, rfl, ?_, ?_, ?_, hsize.trans_le hshort, hreads⟩
        · rw [hsize]
        · rw [hsize]
          exact le_extent _ _
        · rw [slice, List.drop_left, List.take_left]
      · exact hlater hline

theorem slice_of_completeAll {before rest : Bytes} {earlier later : List AssemblerCall}
    {call : AssemblerCall}
    (h : completeAll asm.fill before.length (piecesOf before.length (earlier ++ call :: later)) =
      .ok rest)
    (hdata : (call.piece (extent before.length earlier)).reference = none) :
    slice (before ++ rest) (extent before.length earlier)
      (call.piece (extent before.length earlier)).head.length =
        (call.piece (extent before.length earlier)).head := by
  induction earlier generalizing before rest with
  | nil =>
    rw [List.nil_append, piecesOf, completeAll, bind_ok] at h
    obtain ⟨first, hfirst, h⟩ := h
    obtain ⟨others, -, h⟩ := bind_ok.mp h
    obtain rfl := Except.ok.inj h
    rw [extent] at hdata ⊢
    rw [Piece.complete, hdata] at hfirst
    obtain rfl := Except.ok.inj hfirst
    rw [slice, List.drop_left, List.take_left]
  | cons before' earlier ih =>
    rw [List.cons_append, piecesOf, completeAll, bind_ok] at h
    obtain ⟨first, hfirst, h⟩ := h
    obtain ⟨others, hothers, h⟩ := bind_ok.mp h
    obtain rfl := Except.ok.inj h
    have hsize : first.length = before'.size before.length := length_complete hfirst
    rw [← hsize, ← List.length_append] at hothers
    rw [extent, ← hsize, ← List.length_append] at hdata ⊢
    rw [← List.append_assoc]
    exact ih hothers hdata

theorem slice_of_assemble {earlier later : List AssemblerCall} {call : AssemblerCall}
    (hcalls : ∀ call' ∈ earlier ++ call :: later, call'.isToArray = false)
    (h : (assemble origin (earlier ++ call :: later)).toArray expectedLength = .ok code)
    (hdata : (call.piece (extent 0 earlier)).reference = none) :
    slice code (extent 0 earlier) (call.piece (extent 0 earlier)).head.length =
      (call.piece (extent 0 earlier)).head :=
  @slice_of_completeAll _ [] code earlier later call
    ((assemble_toArray hcalls).symm.trans (Assembler16.toArray_none_of_ok _ h)) hdata

/-- What a program of the assembler says is in its code. -/
theorem inText_of_listing {text data : List AssemblerCall}
    (hcalls : ∀ call ∈ text ++ data, call.isToArray = false)
    (h : (assemble origin (text ++ data)).toArray expectedLength = .ok code)
    (hoffsets : ∀ call ∈ text, call.OffsetFits)
    (hline : line ∈ listing origin (assemble origin (text ++ data)).labelAddress 0 text) :
    ∃ position bytes, line.InText origin code (extent 0 text) position bytes := by
  have horigin : (assemble origin (text ++ data)).origin = origin :=
    (run_piecesOf (Assembler16.start origin) hcalls).1
  have hcode := (assemble_toArray hcalls).symm.trans (Assembler16.toArray_none_of_ok _ h)
  have htext := @inText_of_completeAll (assemble origin (text ++ data)) line [] code text data hcode
  rw [horigin] at htext
  exact htext hoffsets hline

end

end DragonOS.Build
