import DragonOS.Build.Mp4

/-!
# The metadata parser comes to an end

Whatever the file is, a turn of a loop that completes leaves the reader at the end of its
box, at least eight bytes further on and inside the range (`boxTurn_advances`), so a range
has few turns (`turns_few`) and no loop goes on for ever (`tryParse_scans`). A position is
a `long`, so a file has less than `2 ^ 63` bytes.
-/

namespace DragonOS.Build.Mp4MetadataParser

open Lib
open BinaryReader (enough)

-- ---------------------------------------------------------------------------
-- Numbers
-- ---------------------------------------------------------------------------

theorem foldl_bigEndian_lt (bytes : Bytes) (value bound : Nat) (h : value < bound) :
    bytes.foldl (fun value byte => value * 256 + byte.toNat) value < bound * 256 ^ bytes.length := by
  induction bytes generalizing value bound with
  | nil => simpa using h
  | cons byte bytes ih =>
    have hbyte := byte.toNat_lt
    have hnext := ih (value * 256 + byte.toNat) (bound * 256) (by omega)
    rwa [List.foldl_cons, List.length_cons, Nat.pow_succ', ← Nat.mul_assoc]

theorem bigEndian_lt (bytes : Bytes) : bigEndian bytes < 256 ^ bytes.length := by
  have h := foldl_bigEndian_lt bytes 0 1 Nat.one_pos
  rwa [Nat.one_mul] at h

theorem readBigEndian_lt (content : Bytes) (count : Nat) (reader : BinaryReader) :
    (readBigEndian content count reader).1 < 256 ^ count := by
  have hread := reader.length_read content count
  have hlength : ((reader.read content count).1 ++
      List.replicate (count - (reader.read content count).1.length) 0).length = count := by
    rw [List.length_append, List.length_replicate]
    omega
  have h := bigEndian_lt ((reader.read content count).1 ++
    List.replicate (count - (reader.read content count).1.length) 0)
  rwa [hlength] at h

theorem position_readBigEndian (content : Bytes) (count : Nat) (reader : BinaryReader) :
    (readBigEndian content count reader).2.position =
      reader.position + min count (content.length - reader.position) :=
  reader.position_read content count

theorem int64_eq (hlow : -2 ^ 63 ≤ value) (hhigh : value < 2 ^ 63) : int64 value = value :=
  Int.bmod_eq_of_le (by omega) (by omega)

theorem int64_wrap (hlow : 2 ^ 63 ≤ value) (hhigh : value < 2 ^ 64) :
    int64 value = value - 2 ^ 64 := by
  rw [int64, Int.bmod_def]
  split <;> omega

-- ---------------------------------------------------------------------------
-- A turn
-- ---------------------------------------------------------------------------

section
variable {content : Bytes} {reader after : BinaryReader} {endPosition : Int} {box : Box}

/-- The size of a box is a `long`; reading a large one moves the reader on in the file. -/
theorem readPayloadSize_bounds {size boxStart : Nat}
    (h : readPayloadSize content size boxStart endPosition reader = .ok (payloadSize, after))
    (hsize : size < 2 ^ 32) (hend : endPosition < 2 ^ 63) :
    payloadSize < 2 ^ 63 ∧ reader.position ≤ after.position ∧
      after.position ≤ max reader.position content.length := by
  unfold readPayloadSize at h
  split at h
  next =>
    obtain ⟨rfl, rfl⟩ := Prod.mk.inj (Except.ok.inj h)
    exact ⟨by omega, Nat.le_refl _, by omega⟩
  next =>
    obtain ⟨checked, hchecked, h⟩ := bind_ok.mp h
    obtain ⟨rfl, hafter⟩ := Prod.mk.inj (Except.ok.inj h)
    have hposition := (congrArg BinaryReader.position hafter).symm.trans
      (position_readBigEndian content 8 reader)
    unfold checkedLong at hchecked
    split at hchecked
    next hlt =>
      obtain rfl := Except.ok.inj hchecked
      exact ⟨by omega, by omega, by omega⟩
    next => cases hchecked
  next =>
    obtain ⟨rfl, rfl⟩ := Prod.mk.inj (Except.ok.inj h)
    exact ⟨by omega, Nat.le_refl _, by omega⟩

structure BoxRead (content : Bytes) (endPosition : Int) (reader : BinaryReader) (box : Box)
    (after : BinaryReader) : Prop where
  boxEnd : ∃ payloadSize, 8 ≤ payloadSize ∧ payloadSize < 2 ^ 63 ∧
    box.boxEnd = int64 (reader.position + payloadSize)
  inside : box.boxEnd ≤ endPosition
  position : reader.position ≤ content.length → after.position ≤ content.length
  /-- Four characters of ASCII take four bytes. -/
  named : reader.position ≤ content.length → (∀ unit ∈ box.type, unit < 0x80) →
    box.type.length = 4 → reader.position + 8 ≤ after.position

theorem readBox_some (h : readBox content endPosition reader = .ok (some box, after))
    (hend : endPosition < 2 ^ 63) : BoxRead content endPosition reader box after := by
  have hsizeLt := readBigEndian_lt content 4 reader
  have hsize := position_readBigEndian content 4 reader
  unfold readBox readUInt32BigEndian at h
  generalize readBigEndian content 4 reader = sizeRead at h hsizeLt hsize
  obtain ⟨size, behindSize⟩ := sizeRead
  obtain ⟨⟨type, middle⟩, htype, h⟩ := bind_ok.mp h
  obtain ⟨⟨payloadSize, behind⟩, hpayload, h⟩ := bind_ok.mp h
  obtain ⟨hfound, rfl⟩ := Prod.mk.inj (Except.ok.inj h)
  obtain ⟨hforward, hinside, hascii⟩ := BinaryReader.readChars_passed htype
  obtain ⟨hlarge, hbehind, hfile⟩ := readPayloadSize_bounds hpayload hsizeLt hend
  dsimp only at hsize
  by_cases hsmall : payloadSize < 8
  · rw [if_pos hsmall] at hfound
    cases hfound
  rw [if_neg hsmall] at hfound
  by_cases hbeyond : int64 (reader.position + payloadSize) > endPosition ∨
      int64 (reader.position + payloadSize) > content.length
  · rw [if_pos hbeyond] at hfound
    cases hfound
  rw [if_neg hbeyond] at hfound
  obtain rfl := Option.some.inj hfound
  refine ⟨⟨payloadSize, Int.not_lt.mp hsmall, hlarge, rfl⟩,
    Int.not_lt.mp fun hlate => hbeyond (.inl hlate), fun hstart => by omega,
    fun hstart hunits hname => ?_⟩
  have hname : type.length = 4 := hname
  have hletters := hascii hunits
  omega

section
variable {σ : Type} {body : Body σ} {state : σ} {next : BinaryReader × σ}

theorem boxTurn_again (h : boxTurn content body endPosition (reader, state) = .ok (.again next)) :
    ∃ box found result, int64 (reader.position + 8) ≤ endPosition ∧
      readBox content endPosition reader = .ok (some box, found) ∧
      body box (found, state) = .ok result ∧
      result.1.setPosition box.boxEnd = .ok next.1 ∧ next.2 = result.2 := by
  unfold boxTurn at h
  dsimp only at h
  split at h
  next hroom =>
    obtain ⟨⟨found, middle⟩, hread, h⟩ := bind_ok.mp h
    cases found with
    | none => cases h
    | some box =>
      obtain ⟨result, hbody, h⟩ := bind_ok.mp h
      obtain ⟨last, hlast, h⟩ := bind_ok.mp h
      obtain rfl := Turn.again.inj (Except.ok.inj h)
      exact ⟨box, middle, result, hroom, hread, hbody, hlast, rfl⟩
  next => cases h

/-- The loop goes on behind the box, wherever its content has been read to. -/
theorem boxTurn_advances
    (h : boxTurn content body endPosition (reader, state) = .ok (.again next))
    (hlength : content.length < 2 ^ 63) (hstart : reader.position ≤ content.length)
    (hend : endPosition ≤ content.length) :
    ∃ box after, readBox content endPosition reader = .ok (some box, after) ∧
      (next.1.position : Int) = box.boxEnd ∧ reader.position + 8 ≤ next.1.position ∧
      (next.1.position : Int) ≤ endPosition := by
  obtain ⟨box, found, result, -, hread, -, hposition, -⟩ := boxTurn_again h
  have hbox := readBox_some hread (by omega)
  obtain ⟨payloadSize, hsmall, hlarge, hboxEnd⟩ := hbox.boxEnd
  have hinside := hbox.inside
  obtain ⟨hnonneg, hnext⟩ := BinaryReader.setPosition_ok hposition
  have hsum : (reader.position : Int) + payloadSize < 2 ^ 63 := by
    by_contra hbig
    rw [int64_wrap (by omega) (by omega)] at hboxEnd
    omega
  rw [int64_eq (by omega) hsum] at hboxEnd
  refine ⟨box, found, hread, ?_⟩
  rw [hnext]
  dsimp only
  omega

theorem turns_few {count : Nat} {last : BinaryReader × σ}
    (h : Turns (boxTurn content body endPosition) count (reader, state) last)
    (hlength : content.length < 2 ^ 63) (hstart : reader.position ≤ content.length)
    (hend : endPosition ≤ content.length) (hcount : 0 < count) :
    reader.position + 8 * count ≤ endPosition := by
  have hbound : endPosition.toNat - last.1.position + 8 * count ≤
      endPosition.toNat - reader.position := by
    refine h.count_le (fun now => now.1.position ≤ content.length)
      (fun now => endPosition.toNat - now.1.position) (fun now next hnow hturn => ?_) hstart
    obtain ⟨-, -, -, -, hforward, hinside⟩ := boxTurn_advances hturn hlength hnow hend
    omega
  omega

-- ---------------------------------------------------------------------------
-- No loop goes on for ever
-- ---------------------------------------------------------------------------

def Ends {α : Type} (run : Except StreamException α) : Prop := run ≠ .error .endless

theorem ends_ok {α : Type} (value : α) : Ends (.ok value) := nofun

theorem Ends.bind {α β : Type} {run : Except StreamException α} {rest : α → Except StreamException β}
    (hrun : Ends run) (hrest : ∀ value, run = .ok value → Ends (rest value)) :
    Ends (run >>= rest) := by
  cases run with
  | error exception =>
    intro h
    exact hrun (congrArg Except.error (Except.error.inj h))
  | ok value => exact hrest value rfl

theorem setPosition_ends (value : Int) (reader : BinaryReader) : Ends (reader.setPosition value) := by
  unfold BinaryReader.setPosition
  split <;> exact nofun

theorem readByte_ends (content : Bytes) (reader : BinaryReader) : Ends (reader.readByte content) := by
  unfold BinaryReader.readByte
  split <;> exact nofun

theorem readPayloadSize_ends (size boxStart : Nat) :
    Ends (readPayloadSize content size boxStart endPosition reader) := by
  unfold readPayloadSize
  split
  · exact ends_ok _
  · refine Ends.bind ?_ fun _ _ => ends_ok _
    unfold checkedLong
    split <;> exact nofun
  · exact ends_ok _

theorem readBox_ends (content : Bytes) (endPosition : Int) (reader : BinaryReader) :
    Ends (readBox content endPosition reader) :=
  Ends.bind (BinaryReader.readChars_ne_endless _ _ _) fun _ _ =>
    Ends.bind (readPayloadSize_ends _ _) fun _ _ => ends_ok _

variable (hlength : content.length < 2 ^ 63)
include hlength

/-- The measure is what the file has left. -/
theorem eachBox_ends (hend : endPosition ≤ content.length)
    (hbody : ∀ boxStart box found state, reader.position ≤ boxStart.position →
      boxStart.position ≤ content.length → BoxRead content endPosition boxStart box found →
      Ends (body box (found, state)))
    (hstart : reader.position ≤ content.length) (state : σ) :
    Ends (eachBox content body endPosition (reader, state)) := by
  refine loop_ne_stuck
    (fun now => reader.position ≤ now.1.position ∧ now.1.position ≤ content.length)
    (fun now => content.length - now.1.position) ?_ ?_ ⟨Nat.le_refl _, hstart⟩
    (Nat.lt_succ_of_le (Nat.sub_le _ _))
  · rintro ⟨boxStart, state⟩ ⟨hforward, hfile⟩
    unfold boxTurn
    dsimp only
    split
    next =>
      refine Ends.bind (readBox_ends content endPosition boxStart) fun read hread => ?_
      obtain ⟨found, middle⟩ := read
      cases found with
      | none => exact ends_ok _
      | some box =>
        exact Ends.bind (hbody boxStart box middle state hforward hfile
          (readBox_some hread (by omega))) fun result _ =>
            Ends.bind (setPosition_ends _ _) fun _ _ => ends_ok _
    next => exact ends_ok _
  · rintro ⟨boxStart, state⟩ next ⟨hforward, hfile⟩ hturn
    obtain ⟨-, -, -, -, hnext, hinside⟩ := boxTurn_advances hturn hlength hfile hend
    dsimp only at hforward hfile ⊢
    omega

end

theorem parseMovieHeader_ends (content : Bytes) (reader : BinaryReader) :
    Ends (parseMovieHeader content reader) := by
  refine Ends.bind (readByte_ends content reader) fun version _ => ?_
  dsimp only
  split <;> exact ends_ok _

theorem parseTrackHeader_ends (content : Bytes) (reader : BinaryReader) :
    Ends (parseTrackHeader content reader) :=
  Ends.bind (readByte_ends content reader) fun _ _ => ends_ok _

variable (hlength : content.length < 2 ^ 63)
include hlength

theorem parseMedia_ends (hend : endPosition ≤ content.length)
    (hstart : reader.position ≤ content.length) (isVideo : Bool) :
    Ends (parseMedia content endPosition (reader, isVideo)) := by
  refine eachBox_ends hlength hend (fun _ box _ _ _ _ _ => ?_) hstart isVideo
  unfold mediaBox
  dsimp only
  split
  · exact Ends.bind (setPosition_ends _ _) fun _ _ =>
      Ends.bind (BinaryReader.readChars_ne_endless _ _ _) fun _ _ => ends_ok _
  · exact ends_ok _

theorem parseTrack_ends (hend : endPosition ≤ content.length)
    (hstart : reader.position ≤ content.length) (state : TrackState) :
    Ends (parseTrack content endPosition (reader, state)) := by
  refine eachBox_ends hlength hend (fun _ box _ _ _ hfile hread => ?_) hstart state
  unfold trackBox
  dsimp only
  split
  · exact Ends.bind (parseMedia_ends hlength (hread.inside.trans hend) (hread.position hfile) _)
      fun _ _ => ends_ok _
  split
  · exact Ends.bind (parseTrackHeader_ends _ _) fun _ _ => ends_ok _
  · exact ends_ok _

omit hlength in
theorem ascii_of_boxes {type : Text} (h : type = text "moov" ∨ type = text "mdia") :
    (∀ unit ∈ type, unit < 0x80) ∧ type.length = 4 := by
  have hall : type.all (· < 0x80) = true ∧ type.length = 4 := by
    rcases h with rfl | rfl <;> decide
  exact ⟨fun unit hunit => of_decide_eq_true (List.all_eq_true.mp hall.1 unit hunit), hall.2⟩

/-- A box that holds boxes has a header, so they start further on than it does. -/
theorem parseBoxRange_ends {nesting : Nat} (hend : endPosition ≤ content.length)
    (hstart : reader.position ≤ content.length)
    (hnesting : content.length - reader.position < nesting) (metadata : Mp4Metadata) :
    Ends (parseBoxRange content nesting endPosition (reader, metadata)) := by
  induction nesting generalizing reader endPosition metadata with
  | zero => omega
  | succ nesting ih =>
    refine eachBox_ends hlength hend (fun boxStart box found state hle hfile hread => ?_) hstart
      metadata
    unfold rangeBox
    dsimp only
    split
    next hholds =>
      have hname := ascii_of_boxes hholds
      have hinner := hread.named hfile hname.1 hname.2
      have hinside := hread.position hfile
      exact ih (hread.inside.trans hend) hinside (by omega) state
    split
    · exact Ends.bind (parseTrack_ends hlength (hread.inside.trans hend) (hread.position hfile) _)
        fun _ _ => ends_ok _
    split
    · exact Ends.bind (parseMovieHeader_ends _ _) fun _ _ => ends_ok _
    · exact ends_ok _

end

/-- The loops from any reader in the file up to any position in it. They end; a loop that
returns is its completed turns and the one that leaves it; and a completed turn leaves the
reader at the end of its box. -/
structure Scans (content : Bytes) : Prop where
  file : Ends (tryParse content)
  range : ∀ reader endPosition metadata, reader.position ≤ content.length →
    endPosition ≤ (content.length : Int) →
    Ends (parseBoxRange content (enough content) endPosition (reader, metadata))
  track : ∀ reader trackEnd state, reader.position ≤ content.length →
    trackEnd ≤ (content.length : Int) → Ends (parseTrack content trackEnd (reader, state))
  media : ∀ reader mediaEnd isVideo, reader.position ≤ content.length →
    mediaEnd ≤ (content.length : Int) → Ends (parseMedia content mediaEnd (reader, isVideo))
  run : ∀ (σ : Type) (body : Body σ) (endPosition : Int) (start after : BinaryReader × σ),
    eachBox content body endPosition start = .ok after →
      ∃ count last, Turns (boxTurn content body endPosition) count start last ∧
        boxTurn content body endPosition last = .ok (.leave after)
  turns : ∀ (σ : Type) (body : Body σ) (endPosition : Int) (count : Nat)
    (start after : BinaryReader × σ), start.1.position ≤ content.length →
    endPosition ≤ content.length → 0 < count →
    Turns (boxTurn content body endPosition) count start after →
      start.1.position + 8 * count ≤ endPosition
  turn : ∀ (σ : Type) (body : Body σ) (endPosition : Int) (start next : BinaryReader × σ),
    start.1.position ≤ content.length → endPosition ≤ content.length →
    boxTurn content body endPosition start = .ok (.again next) →
      ∃ box after, readBox content endPosition start.1 = .ok (some box, after) ∧
        (next.1.position : Int) = box.boxEnd ∧ start.1.position + 8 ≤ box.boxEnd ∧
        box.boxEnd ≤ endPosition

theorem tryParse_scans {content : Bytes} (hlength : content.length < 2 ^ 63) : Scans content where
  file := Ends.bind (parseBoxRange_ends hlength (Int.le_refl _) (Nat.zero_le _)
    (Nat.lt_succ_of_le (Nat.sub_le _ _)) _) fun _ _ => ends_ok _
  range reader endPosition metadata hstart hend :=
    parseBoxRange_ends hlength hend hstart (Nat.lt_succ_of_le (Nat.sub_le _ _)) metadata
  track reader trackEnd state hstart hend := parseTrack_ends hlength hend hstart state
  media reader mediaEnd isVideo hstart hend := parseMedia_ends hlength hend hstart isVideo
  run σ body endPosition start after h := by
    obtain ⟨count, last, -, hturns, hleave⟩ := loop_ok_iff.mp h
    exact ⟨count, last, hturns, hleave⟩
  turns σ body endPosition count start after hstart hend hcount hturns :=
    turns_few hturns hlength hstart hend hcount
  turn σ body endPosition start next hstart hend hturn := by
    obtain ⟨box, after, hread, hposition, hforward, hinside⟩ :=
      boxTurn_advances hturn hlength hstart hend
    exact ⟨box, after, hread, hposition, by omega, hposition ▸ hinside⟩

/-- A box whose size is smaller than the header that gives it. -/
theorem tryParse_scans_short :
    Scans [0, 0, 0, 1, 0x6D, 0x6F, 0x6F, 0x76, 0, 0, 0, 0, 0, 0, 0, 8] :=
  tryParse_scans (by decide)

end DragonOS.Build.Mp4MetadataParser
