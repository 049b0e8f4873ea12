import DragonOS.Build.BinaryReader
import Mathlib.Data.Rat.Defs

/-!
# The metadata of a video

`Mp4MetadataParser` walks the boxes of a file for three numbers: the size of the video
track and the length of the movie. Its loops share one reader, and a range of the file is
over where its box ends. The types of boxes and of handlers are read as characters.
-/

namespace DragonOS.Build

open Lib
open BinaryReader (enough)

/-- The result of a `long` operation. -/
def int64 (value : Int) : Int := value.bmod (2 ^ 64)

structure Mp4Metadata where
  width : Nat
  height : Nat
  durationSeconds : ℚ
  deriving DecidableEq

namespace Mp4MetadataParser

section
variable (content : Bytes)

-- ---------------------------------------------------------------------------
-- Numbers
-- ---------------------------------------------------------------------------

def bigEndian (bytes : Bytes) : Nat := bytes.foldl (fun value byte => value * 256 + byte.toNat) 0

def readBigEndian (count : Nat) (reader : BinaryReader) : Nat × BinaryReader :=
  let (bytes, reader) := reader.read content count
  (bigEndian (bytes ++ List.replicate (count - bytes.length) 0), reader)

def readUInt32BigEndian (reader : BinaryReader) : Nat × BinaryReader :=
  readBigEndian content 4 reader

def readUInt64BigEndian (reader : BinaryReader) : Nat × BinaryReader :=
  readBigEndian content 8 reader

-- ---------------------------------------------------------------------------
-- Boxes
-- ---------------------------------------------------------------------------

structure Box where
  type : Text
  boxEnd : Int
  deriving DecidableEq, Repr

def checkedLong (value : Nat) : Except StreamException Int :=
  if value < 2 ^ 63 then .ok value else .error .overflow

def readPayloadSize (size : Nat) (boxStart : Nat) (endPosition : Int) (reader : BinaryReader) :
    Except StreamException (Int × BinaryReader) :=
  match size with
  | 0 => .ok (endPosition - boxStart, reader)
  | 1 => do
    let (size, reader) := readUInt64BigEndian content reader
    let payloadSize ← checkedLong size
    .ok (payloadSize, reader)
  | size => .ok (size, reader)

/-- The first half of every loop; without a box the loop breaks. -/
def readBox (endPosition : Int) (reader : BinaryReader) :
    Except StreamException (Option Box × BinaryReader) := do
  let boxStart := reader.position
  let (size, reader) := readUInt32BigEndian content reader
  let (type, reader) ← reader.readChars content 4
  let (payloadSize, reader) ← readPayloadSize content size boxStart endPosition reader
  let boxEnd := int64 (boxStart + payloadSize)
  .ok (if payloadSize < 8 then none
    else if boxEnd > endPosition ∨ boxEnd > content.length then none
    else some { type, boxEnd }, reader)

/-- What a loop does with a box. It shares the reader and changes some variables. -/
abbrev Body (σ : Type) := Box → BinaryReader × σ → Except StreamException (BinaryReader × σ)

section
variable {σ : Type}

def boxTurn (body : Body σ) (endPosition : Int) :
    BinaryReader × σ → Except StreamException (Turn (BinaryReader × σ))
  | (reader, state) =>
    if int64 (reader.position + 8) ≤ endPosition then do
      let (found, reader) ← readBox content endPosition reader
      match found with
      | none => .ok (.leave (reader, state))
      | some box =>
        let (reader, state) ← body box (reader, state)
        let reader ← reader.setPosition box.boxEnd
        .ok (.again (reader, state))
    else .ok (.leave (reader, state))

/-- A box takes eight bytes or more of its range, so there are enough turns. -/
def eachBox (body : Body σ) (endPosition : Int) :
    BinaryReader × σ → Except StreamException (BinaryReader × σ) :=
  loop (boxTurn content body endPosition) .endless (enough content)

end

-- ---------------------------------------------------------------------------
-- Headers
-- ---------------------------------------------------------------------------

/-- The quotient of the two numbers; a `double` comes close to it. -/
def seconds (duration timescale : Nat) : ℚ := if timescale = 0 then 0 else duration / timescale

def parseMovieHeader (reader : BinaryReader) : Except StreamException (ℚ × BinaryReader) := do
  let (version, reader) ← reader.readByte content
  let reader := reader.readBytes content 3
  if version = 1 then
    let reader := reader.readBytes content (8 + 8)
    let (timescale, reader) := readUInt32BigEndian content reader
    let (duration, reader) := readUInt64BigEndian content reader
    .ok (seconds duration timescale, reader)
  else
    let reader := reader.readBytes content (4 + 4)
    let (timescale, reader) := readUInt32BigEndian content reader
    let (duration, reader) := readUInt32BigEndian content reader
    .ok (seconds duration timescale, reader)

/-- The bytes between the flags and the size of a track. -/
def skippedFields (version : UInt8) : Nat :=
  if version = 1 then 8 + 8 + 4 + 4 + 8 + 8 + 2 + 2 + 2 + 2 + 36
  else 4 + 4 + 4 + 4 + 4 + 8 + 2 + 2 + 2 + 2 + 36

/-- Width and height are the upper halves of two fixed point numbers. -/
def parseTrackHeader (reader : BinaryReader) :
    Except StreamException ((Nat × Nat) × BinaryReader) := do
  let (version, reader) ← reader.readByte content
  let reader := reader.readBytes content 3
  let reader := reader.readBytes content (skippedFields version)
  let (width, reader) := readUInt32BigEndian content reader
  let (height, reader) := readUInt32BigEndian content reader
  .ok ((width >>> 16, height >>> 16), reader)

-- ---------------------------------------------------------------------------
-- The three loops
-- ---------------------------------------------------------------------------

def mediaBox : Body Bool
  | box, (reader, isVideo) =>
    if box.type = text "hdlr" then do
      let reader ← reader.setPosition (reader.position + 8)
      let (handlerType, reader) ← reader.readChars content 4
      .ok (reader, handlerType = text "vide")
    else .ok (reader, isVideo)

def parseMedia (mediaEnd : Int) :
    BinaryReader × Bool → Except StreamException (BinaryReader × Bool) :=
  eachBox content (mediaBox content) mediaEnd

structure TrackState where
  metadata : Mp4Metadata
  isVideo : Bool
  deriving DecidableEq

def trackBox : Body TrackState
  | box, (reader, state) =>
    if box.type = text "mdia" then do
      let (reader, isVideo) ← parseMedia content box.boxEnd (reader, state.isVideo)
      .ok (reader, { state with isVideo })
    else if box.type = text "tkhd" then do
      let ((width, height), reader) ← parseTrackHeader content reader
      .ok (reader, { state with metadata := { state.metadata with width, height } })
    else .ok (reader, state)

def parseTrack (trackEnd : Int) :
    BinaryReader × TrackState → Except StreamException (BinaryReader × TrackState) :=
  eachBox content (trackBox content) trackEnd

def keepVideo (metadata : Mp4Metadata) (track : TrackState) : Mp4Metadata :=
  if track.isVideo then track.metadata else metadata

abbrev RangeParser :=
  Int → BinaryReader × Mp4Metadata → Except StreamException (BinaryReader × Mp4Metadata)

def rangeBox (parseBoxRange : RangeParser) : Body Mp4Metadata
  | box, (reader, metadata) =>
    if box.type = text "moov" ∨ box.type = text "mdia" then
      parseBoxRange box.boxEnd (reader, metadata)
    else if box.type = text "trak" then do
      let (reader, track) ← parseTrack content box.boxEnd (reader, { metadata, isVideo := false })
      .ok (reader, keepVideo metadata track)
    else if box.type = text "mvhd" then do
      let (durationSeconds, reader) ← parseMovieHeader content reader
      .ok (reader, { metadata with durationSeconds })
    else .ok (reader, metadata)

/-- `nesting` is how deep the calls may still go. -/
def parseBoxRange : (nesting : Nat) → RangeParser
  | 0 => fun _ _ => .error .endless
  | nesting + 1 => eachBox content (rangeBox content (parseBoxRange nesting))

def tryParse : Except StreamException (Bool × Mp4Metadata) := do
  let (_, metadata) ← parseBoxRange content (enough content) content.length
    ({ position := 0, pending := [] }, { width := 0, height := 0, durationSeconds := 0 })
  .ok (0 < metadata.width ∧ 0 < metadata.height ∧ 0 < metadata.durationSeconds, metadata)

end

end Mp4MetadataParser

end DragonOS.Build
