import DragonOS.Build.Mp4Walk

/-!
# What the metadata parser finds

A well-formed file is a list of boxes, one of them the movie, which holds a header, tracks
and other boxes; a track holds a header, a media box that names its handler, and other
boxes. The boxes stand in any order, and a box has one of three forms of size. The parser
finds the size of the video track and the length of the movie: `tryParse_movieFile`.

The other boxes have types that a loop of the parser does not look for. A loop for tracks
does not stop at `moov`, say, so `moov` is such a type there. The type of a handler may be
any four bytes in the file, but the decoder has to take them for four characters.
-/

namespace DragonOS.Build

open Lib

open BinaryReader (enough)

namespace Mp4MetadataParser

-- ---------------------------------------------------------------------------
-- Numbers
-- ---------------------------------------------------------------------------

abbrev Block (length : Nat) := { bytes : Bytes // bytes.length = length }

def bigEndianBytes : (count value : Nat) → Bytes
  | 0, _ => []
  | count + 1, value => bigEndianBytes count (value / 256) ++ [UInt8.ofNat value]

theorem length_bigEndianBytes (count value : Nat) : (bigEndianBytes count value).length = count := by
  induction count generalizing value with
  | zero => rfl
  | succ count ih => rw [bigEndianBytes, List.length_append, ih, List.length_singleton]

theorem bigEndian_bigEndianBytes {count value : Nat} (h : value < 256 ^ count) :
    bigEndian (bigEndianBytes count value) = value := by
  induction count generalizing value with
  | zero =>
    obtain rfl : value = 0 := by simpa using h
    rfl
  | succ count ih =>
    have hhigh : value / 256 < 256 ^ count := by
      rw [Nat.pow_succ] at h
      exact Nat.div_lt_of_lt_mul (by rwa [Nat.mul_comm])
    have hlast := ih hhigh
    rw [bigEndian] at hlast ⊢
    rw [bigEndianBytes, List.foldl_append, hlast, List.foldl_cons, List.foldl_nil,
      UInt8.toNat_ofNat']
    omega

-- ---------------------------------------------------------------------------
-- Reading parts of a file
-- ---------------------------------------------------------------------------

section
variable {content rest pending : Bytes} {position : Nat}

theorem drop_add {part : Bytes} {count : Nat} (h : content.drop position = part ++ rest)
    (hcount : part.length = count) : content.drop (position + count) = rest := by
  rw [← List.drop_drop, h, ← hcount, List.drop_left]

theorem drop_one {byte : UInt8} (h : content.drop position = byte :: rest) :
    content.drop (position + 1) = rest := by
  rw [← List.drop_drop, h, List.drop_one, List.tail_cons]

theorem readByte_drop {byte : UInt8} (h : content.drop position = byte :: rest) :
    BinaryReader.readByte content ⟨position, pending⟩ = .ok (byte, ⟨position + 1, pending⟩) := by
  have hbyte : content[position]? = some byte := by
    have hhead : (content.drop position)[0]? = content[position + 0]? := List.getElem?_drop
    rw [h, Nat.add_zero] at hhead
    exact hhead.symm
  simp only [BinaryReader.readByte, hbyte]

theorem read_drop {part : Bytes} {count : Nat} (h : content.drop position = part ++ rest)
    (hcount : part.length = count) :
    BinaryReader.read content count ⟨position, pending⟩ = (part, ⟨position + count, pending⟩) := by
  simp only [BinaryReader.read, slice, h, ← hcount, List.take_left]

theorem readBytes_drop {part : Bytes} {count : Nat} (h : content.drop position = part ++ rest)
    (hcount : part.length = count) :
    BinaryReader.readBytes content count ⟨position, pending⟩ = ⟨position + count, pending⟩ :=
  congrArg Prod.snd (read_drop h hcount)

theorem readChars_drop {part : Bytes} {count : Nat} (h : content.drop position = part ++ rest)
    (hcount : part.length = count) (hne : part ≠ []) (hcode : Utf8.Bytewise part) :
    BinaryReader.readChars content count ⟨position, []⟩ =
      .ok ((Utf8.decode [] part).1, ⟨position + count, []⟩) := by
  rw [← hcount]
  refine BinaryReader.readChars_bytewise ?_ hcode hne
  rw [slice, h, List.take_left]

theorem readBigEndian_drop {count value : Nat}
    (h : content.drop position = bigEndianBytes count value ++ rest) (hvalue : value < 256 ^ count) :
    readBigEndian content count ⟨position, pending⟩ = (value, ⟨position + count, pending⟩) := by
  simp only [readBigEndian, read_drop h (length_bigEndianBytes count value), length_bigEndianBytes,
    Nat.sub_self, List.replicate_zero, List.append_nil, bigEndian_bigEndianBytes hvalue]

end

-- ---------------------------------------------------------------------------
-- Types
-- ---------------------------------------------------------------------------

/-- One byte for each character of a name. -/
def IsAscii (name : String) : Prop :=
  text name = (asciiBytes name).map UInt8.toUInt16 ∧ (asciiBytes name).all (· < 0x80) = true

instance (name : String) : Decidable (IsAscii name) := inferInstanceAs (Decidable (_ ∧ _))

/-- Four bytes that are read as four characters, as those of ASCII are. -/
structure Code where
  bytes : Bytes
  length_eq : bytes.length = 4
  bytewise : Utf8.Bytewise bytes

namespace Code

def ascii (name : String)
    (h : (asciiBytes name).length = 4 ∧ Utf8.Bytewise (asciiBytes name)) : Code :=
  ⟨asciiBytes name, h.1, h.2⟩

def characters (code : Code) : Text := (Utf8.decode [] code.bytes).1

theorem ne_nil (code : Code) : code.bytes ≠ [] :=
  List.ne_nil_of_length_pos (by rw [code.length_eq]; decide)

/-- A name is read from its own bytes only. -/
theorem characters_eq_iff (code : Code) {name : String}
    (hname : IsAscii name) :
    code.characters = text name ↔ code.bytes = asciiBytes name := by
  obtain ⟨htext, hall⟩ := hname
  have hascii (byte : UInt8) (hbyte : byte ∈ asciiBytes name) : byte < 0x80 :=
    of_decide_eq_true (List.all_eq_true.mp hall byte hbyte)
  constructor
  · intro h
    have hunits : ∀ unit ∈ code.characters, unit < 0x80 := by
      rw [h, htext]
      intro unit hunit
      obtain ⟨byte, hbyte, rfl⟩ := List.mem_map.mp hunit
      exact UInt16.lt_iff_toNat_lt.mpr (UInt8.lt_iff_toNat_lt.mp (hascii byte hbyte))
    have hbytes := (Utf8.eq_map_of_ascii code.bytewise.1 hunits).symm.trans (h.trans htext)
    have hinj : Function.Injective UInt8.toUInt16 := fun a b hab =>
      UInt8.toNat_inj.mp (congrArg UInt16.toNat hab)
    exact List.map_injective_iff.mpr hinj hbytes
  · intro h
    rw [characters, h, Utf8.decode_ascii hascii, htext]

theorem ne_text {code : Code} {name : String} (h : code.bytes ≠ asciiBytes name)
    (hname : IsAscii name) : code.characters ≠ text name := fun hcharacters =>
  h ((code.characters_eq_iff hname).mp hcharacters)

end Code

-- ---------------------------------------------------------------------------
-- Boxes
-- ---------------------------------------------------------------------------

/-- How a box gives its size. Only a last box may go on to the end of its range. -/
inductive SizeForm
  | compact | large | rest
  deriving DecidableEq, Repr

structure Sized (α : Type) where
  form : SizeForm
  content : α

section
variable {α : Type} (typeOf : α → Code) (payloadOf : α → Bytes)

def Sized.header (box : Sized α) : Bytes :=
  match box.form with
  | .compact =>
    bigEndianBytes 4 (8 + (payloadOf box.content).length) ++ (typeOf box.content).bytes
  | .large =>
    bigEndianBytes 4 1 ++ (typeOf box.content).bytes ++
      bigEndianBytes 8 (16 + (payloadOf box.content).length)
  | .rest => bigEndianBytes 4 0 ++ (typeOf box.content).bytes

def Sized.bytes (box : Sized α) : Bytes := box.header typeOf payloadOf ++ payloadOf box.content

def encodeAll (boxes : List (Sized α)) : Bytes := boxes.flatMap (·.bytes typeOf payloadOf)

def WellSized : List (Sized α) → Prop
  | [] => True
  | box :: boxes =>
    (box.form = .compact → 8 + (payloadOf box.content).length < 2 ^ 32) ∧
      (box.form = .rest → boxes = []) ∧ WellSized boxes

variable {typeOf payloadOf}

theorem Sized.length_header_ge (typeOf : α → Code) (payloadOf : α → Bytes) (box : Sized α) :
    8 ≤ (box.header typeOf payloadOf).length := by
  have htype := (typeOf box.content).length_eq
  unfold Sized.header
  split <;> simp only [List.length_append, length_bigEndianBytes, htype] <;> omega

theorem length_le_encodeAll (boxes : List (Sized α)) :
    8 * boxes.length ≤ (encodeAll typeOf payloadOf boxes).length := by
  induction boxes with
  | nil => exact Nat.le_refl _
  | cons box boxes ih =>
    have hheader := box.length_header_ge typeOf payloadOf
    rw [encodeAll, List.flatMap_cons, List.length_append, Sized.bytes, List.length_append,
      List.length_cons]
    rw [encodeAll] at ih
    omega

theorem readType_drop {content after : Bytes} {position size : Nat} {type : Code}
    (h : content.drop position = bigEndianBytes 4 size ++ (type.bytes ++ after))
    (hsize : size < 2 ^ 32) :
    readUInt32BigEndian content ⟨position, []⟩ = (size, ⟨position + 4, []⟩) ∧
      BinaryReader.readChars content 4 ⟨position + 4, []⟩ =
        .ok (type.characters, ⟨position + 4 + 4, []⟩) ∧
      content.drop (position + 4 + 4) = after := by
  have htype := drop_add h (length_bigEndianBytes 4 size)
  exact ⟨readBigEndian_drop h hsize,
    readChars_drop htype type.length_eq type.ne_nil type.bytewise, drop_add htype type.length_eq⟩

theorem lookAt_drop {box : Sized α} {content after : Bytes} {position stop : Nat}
    (h : content.drop position = box.bytes typeOf payloadOf ++ after)
    (hcompact : box.form = .compact → 8 + (payloadOf box.content).length < 2 ^ 32)
    (hrest : box.form = .rest → stop = position + (box.bytes typeOf payloadOf).length)
    (hlength : content.length < 2 ^ 63) :
    lookAt content stop ⟨position, []⟩ =
      some ⟨(typeOf box.content).characters, (box.bytes typeOf payloadOf).length,
        ⟨position + (box.header typeOf payloadOf).length, []⟩⟩ := by
  have htype := (typeOf box.content).length_eq
  have hcount := congrArg List.length h
  rw [List.length_drop, List.length_append] at hcount
  obtain ⟨form, inner⟩ := box
  cases form with
  | compact =>
    have hbytes : (Sized.bytes typeOf payloadOf ⟨.compact, inner⟩).length =
        8 + (payloadOf inner).length := by
      simp only [Sized.bytes, Sized.header, List.length_append, length_bigEndianBytes, htype]
    rw [hbytes]
    simp only [Sized.bytes, Sized.header, List.append_assoc] at h
    obtain ⟨hsize, hchars, -⟩ := readType_drop h (hcompact rfl)
    simp only [lookAt, hsize, hchars]
    rw [if_neg (by omega), if_neg (by omega)]
    simp only [Sized.header, List.length_append, length_bigEndianBytes, htype, Nat.add_assoc]
  | large =>
    have hbytes : (Sized.bytes typeOf payloadOf ⟨.large, inner⟩).length =
        16 + (payloadOf inner).length := by
      simp only [Sized.bytes, Sized.header, List.length_append, length_bigEndianBytes, htype]
    rw [hbytes] at hcount ⊢
    simp only [Sized.bytes, Sized.header, List.append_assoc] at h
    obtain ⟨hsize, hchars, hlarge⟩ := readType_drop h (by decide)
    have hsize64 : readUInt64BigEndian content ⟨position + 4 + 4, []⟩ = _ :=
      readBigEndian_drop hlarge (by omega)
    simp only [lookAt, hsize, hchars, hsize64, one_ne_zero, if_false, if_true]
    simp only [Sized.header, List.length_append, length_bigEndianBytes, htype, Nat.add_assoc]
  | rest =>
    have hstop := hrest rfl
    simp only [Sized.bytes, Sized.header, List.append_assoc] at h
    obtain ⟨hsize, hchars, -⟩ := readType_drop h (by decide)
    simp only [lookAt, hsize, hchars, if_true, hstop, Nat.add_sub_cancel_left]
    simp only [Sized.header, List.length_append, length_bigEndianBytes, htype, Nat.add_assoc]

-- ---------------------------------------------------------------------------
-- The loop
-- ---------------------------------------------------------------------------

/-- What a loop does with a box that stands in the file: one step, and the decoder is left
with nothing pending. -/
def StepsAt (content : Bytes) (typeOf : α → Code) (payloadOf : α → Bytes) (body : Body σ)
    (step : σ → α → σ) (box : α) : Prop :=
  ∀ (position : Nat) (after : Bytes) (state : σ), position ≤ content.length →
    content.drop position = payloadOf box ++ after →
    ∃ stop, body ⟨(typeOf box).characters, (position + (payloadOf box).length : Nat)⟩
      (⟨position, []⟩, state) = .ok (⟨stop, []⟩, step state box)

theorem boxTurn_drop {σ : Type} {content after : Bytes} {body : Body σ} {step : σ → α → σ}
    {box : Sized α} {position stop : Nat} (hlength : content.length + 8 < 2 ^ 63)
    (h : content.drop position = box.bytes typeOf payloadOf ++ after)
    (hcompact : box.form = .compact → 8 + (payloadOf box.content).length < 2 ^ 32)
    (hrest : box.form = .rest → stop = position + (box.bytes typeOf payloadOf).length)
    (hfits : position + (box.bytes typeOf payloadOf).length ≤ stop) (hstop : stop ≤ content.length)
    (hbody : StepsAt content typeOf payloadOf body step box.content) (state : σ) :
    boxTurn content body stop (⟨position, []⟩, state) = .ok (.again
      (⟨position + (box.bytes typeOf payloadOf).length, []⟩, step state box.content)) := by
  have hheaderGe := box.length_header_ge typeOf payloadOf
  have hbytes : (box.bytes typeOf payloadOf).length =
      (box.header typeOf payloadOf).length + (payloadOf box.content).length := List.length_append
  have hholds : Holds content ⟨position, []⟩ stop _ :=
    ⟨by dsimp only; omega, lookAt_drop h hcompact hrest (by omega),
      by dsimp only [Found.Fits]; omega⟩
  have hpayload : content.drop (position + (box.header typeOf payloadOf).length) =
      payloadOf box.content ++ after := by
    refine drop_add ?_ rfl
    rw [h, Sized.bytes, List.append_assoc]
  obtain ⟨reached, hstep⟩ := hbody _ _ state (by omega) hpayload
  rw [Nat.add_assoc, ← hbytes] at hstep
  rw [boxTurn_holds hholds hstop hlength]
  exact congrArg (· >>= _) hstep

theorem eachBox_encodeAll {σ : Type} {content after : Bytes} {body : Body σ} (step : σ → α → σ)
    (hlength : content.length + 8 < 2 ^ 63) {boxes : List (Sized α)}
    (hsized : WellSized payloadOf boxes)
    (hbody : ∀ box ∈ boxes, StepsAt content typeOf payloadOf body step box.content)
    {position : Nat} (hposition : position ≤ content.length)
    (h : content.drop position = encodeAll typeOf payloadOf boxes ++ after) (state : σ) :
    ∃ last, eachBox content body (position + (encodeAll typeOf payloadOf boxes).length : Nat)
        (⟨position, []⟩, state) =
      .ok (⟨last, []⟩, boxes.foldl (fun state box => step state box.content) state) := by
  have hcount := congrArg List.length h
  rw [List.length_drop, List.length_append] at hcount
  have hfuel : boxes.length < enough content := by
    have hboxes : 8 * boxes.length ≤ (encodeAll typeOf payloadOf boxes).length :=
      length_le_encodeAll boxes
    rw [enough]
    omega
  generalize hstop : position + (encodeAll typeOf payloadOf boxes).length = stop
  unfold eachBox
  generalize enough content = fuel at hfuel
  induction boxes generalizing position fuel state with
  | nil =>
    obtain ⟨fuel, rfl⟩ := Nat.exists_eq_succ_of_ne_zero (Nat.ne_of_gt hfuel)
    have hend : position = stop := hstop
    exact ⟨position, loop_leave (boxTurn_over hlength hposition (by dsimp only; omega))⟩
  | cons box boxes ih =>
    obtain ⟨fuel, rfl⟩ := Nat.exists_eq_succ_of_ne_zero (Nat.ne_of_gt (Nat.zero_lt_of_lt hfuel))
    obtain ⟨hcompact, hrest, hsized⟩ := hsized
    have hparts : content.drop position = box.bytes typeOf payloadOf ++
        (encodeAll typeOf payloadOf boxes ++ after) := by
      rw [h, encodeAll, List.flatMap_cons, List.append_assoc]
      rfl
    have hlengths : (encodeAll typeOf payloadOf (box :: boxes)).length =
        (box.bytes typeOf payloadOf).length + (encodeAll typeOf payloadOf boxes).length := by
      rw [encodeAll, List.flatMap_cons, List.length_append]
      rfl
    have hlast (h : box.form = .rest) :
        stop = position + (box.bytes typeOf payloadOf).length := by
      rw [← hstop, hlengths, hrest h]
      rfl
    have hturn := boxTurn_drop hlength hparts hcompact hlast (by omega) (by omega)
      (hbody box List.mem_cons_self) state
    rw [loop_again hturn]
    exact ih hsized (fun other hmem => hbody other (List.mem_cons_of_mem box hmem))
      (by omega) (drop_add hparts rfl) _ (by omega) (by omega) _ (Nat.lt_of_succ_lt_succ hfuel)

end

-- ---------------------------------------------------------------------------
-- Well-formed files
-- ---------------------------------------------------------------------------

inductive MovieHeader
  | version0 (flags : Block 3) (times : Block 8) (timescale duration : UInt32) (extra : Bytes)
  | version1 (flags : Block 3) (times : Block 16) (timescale : UInt32) (duration : UInt64)
      (extra : Bytes)

def MovieHeader.payload : MovieHeader → Bytes
  | version0 flags times timescale duration extra =>
    0 :: (flags.1 ++ times.1 ++ bigEndianBytes 4 timescale.toNat ++
      bigEndianBytes 4 duration.toNat ++ extra)
  | version1 flags times timescale duration extra =>
    1 :: (flags.1 ++ times.1 ++ bigEndianBytes 4 timescale.toNat ++
      bigEndianBytes 8 duration.toNat ++ extra)

def MovieHeader.durationSeconds : MovieHeader → ℚ
  | version0 _ _ timescale duration _ => seconds duration.toNat timescale.toNat
  | version1 _ _ timescale duration _ => seconds duration.toNat timescale.toNat

inductive TrackHeader
  | version0 (flags : Block 3) (fields : Block 72) (width height : UInt32) (extra : Bytes)
  | version1 (flags : Block 3) (fields : Block 84) (width height : UInt32) (extra : Bytes)

def TrackHeader.payload : TrackHeader → Bytes
  | version0 flags fields width height extra =>
    0 :: (flags.1 ++ fields.1 ++ bigEndianBytes 4 width.toNat ++ bigEndianBytes 4 height.toNat ++
      extra)
  | version1 flags fields width height extra =>
    1 :: (flags.1 ++ fields.1 ++ bigEndianBytes 4 width.toNat ++ bigEndianBytes 4 height.toNat ++
      extra)

/-- The upper halves of width and height. -/
def TrackHeader.size : TrackHeader → Nat × Nat
  | version0 _ _ width height _ => (width.toNat / 2 ^ 16, height.toNat / 2 ^ 16)
  | version1 _ _ width height _ => (width.toNat / 2 ^ 16, height.toNat / 2 ^ 16)

inductive MediaContent
  | hdlr (reserved : Block 8) (handlerType : Block 4) (extra : Bytes)
  | other (type : Code) (payload : Bytes) (htype : type.bytes ≠ asciiBytes "hdlr")

namespace MediaContent

def type : MediaContent → Code
  | hdlr .. => .ascii "hdlr" (by decide)
  | other type .. => type

def payload : MediaContent → Bytes
  | hdlr reserved handlerType extra => reserved.1 ++ handlerType.1 ++ extra
  | other _ payload _ => payload

def handlerType? : MediaContent → Option (Block 4)
  | hdlr _ handlerType _ => some handlerType
  | other .. => none

end MediaContent

/-- A media box with one handler. -/
structure Media where
  boxes : List (Sized MediaContent)
  wellSized : WellSized MediaContent.payload boxes
  handlerType : Block 4
  oneHandler : boxes.filterMap (·.content.handlerType?) = [handlerType]

def Media.payload (media : Media) : Bytes :=
  encodeAll MediaContent.type MediaContent.payload media.boxes

def Media.isVideo (media : Media) : Bool := media.handlerType.1 = asciiBytes "vide"

inductive TrackContent
  | tkhd (header : TrackHeader)
  | mdia (media : Media)
  | other (type : Code) (payload : Bytes)
      (htype : type.bytes ≠ asciiBytes "mdia" ∧ type.bytes ≠ asciiBytes "tkhd")

namespace TrackContent

def type : TrackContent → Code
  | tkhd _ => .ascii "tkhd" (by decide)
  | mdia _ => .ascii "mdia" (by decide)
  | other type .. => type

def payload : TrackContent → Bytes
  | tkhd header => header.payload
  | mdia media => media.payload
  | other _ payload _ => payload

def header? : TrackContent → Option TrackHeader
  | tkhd header => some header
  | _ => none

def media? : TrackContent → Option Media
  | mdia media => some media
  | _ => none

end TrackContent

/-- A track with one header and one media box. -/
structure Track where
  boxes : List (Sized TrackContent)
  wellSized : WellSized TrackContent.payload boxes
  header : TrackHeader
  oneHeader : boxes.filterMap (·.content.header?) = [header]
  media : Media
  oneMedia : boxes.filterMap (·.content.media?) = [media]

def Track.payload (track : Track) : Bytes :=
  encodeAll TrackContent.type TrackContent.payload track.boxes

abbrev IsPassedOver (type : Code) : Prop :=
  type.bytes ≠ asciiBytes "moov" ∧ type.bytes ≠ asciiBytes "mdia" ∧ type.bytes ≠ asciiBytes "trak" ∧
    type.bytes ≠ asciiBytes "mvhd"

inductive MovieContent
  | mvhd (header : MovieHeader)
  | trak (track : Track)
  | other (type : Code) (payload : Bytes) (htype : IsPassedOver type)

namespace MovieContent

def type : MovieContent → Code
  | mvhd _ => .ascii "mvhd" (by decide)
  | trak _ => .ascii "trak" (by decide)
  | other type .. => type

def payload : MovieContent → Bytes
  | mvhd header => header.payload
  | trak track => track.payload
  | other _ payload _ => payload

def header? : MovieContent → Option MovieHeader
  | mvhd header => some header
  | _ => none

def track? : MovieContent → Option Track
  | trak track => some track
  | _ => none

end MovieContent

structure Movie where
  boxes : List (Sized MovieContent)
  wellSized : WellSized MovieContent.payload boxes
  header : MovieHeader
  oneHeader : boxes.filterMap (·.content.header?) = [header]
  video : Track
  oneVideo : (boxes.filterMap (·.content.track?)).filter (·.media.isVideo) = [video]

def Movie.payload (movie : Movie) : Bytes :=
  encodeAll MovieContent.type MovieContent.payload movie.boxes

inductive FileContent
  | moov (movie : Movie)
  | other (type : Code) (payload : Bytes) (htype : IsPassedOver type)

namespace FileContent

def type : FileContent → Code
  | moov _ => .ascii "moov" (by decide)
  | other type .. => type

def payload : FileContent → Bytes
  | moov movie => movie.payload
  | other _ payload _ => payload

def movie? : FileContent → Option Movie
  | moov movie => some movie
  | _ => none

end FileContent

structure MovieFile where
  boxes : List (Sized FileContent)
  wellSized : WellSized FileContent.payload boxes
  movie : Movie
  oneMovie : boxes.filterMap (·.content.movie?) = [movie]

/-- The decoder takes the type of every track's handler for four characters. -/
def MovieFile.HandlersReadable (file : MovieFile) : Prop :=
  ∀ track ∈ file.movie.boxes.filterMap (·.content.track?),
    Utf8.Bytewise track.media.handlerType.1

instance (file : MovieFile) : Decidable file.HandlersReadable :=
  inferInstanceAs (Decidable (∀ track ∈ file.movie.boxes.filterMap (·.content.track?),
    Utf8.Bytewise track.media.handlerType.1))

theorem MovieFile.handlersReadable_of_ascii {file : MovieFile}
    (h : ∀ track ∈ file.movie.boxes.filterMap (·.content.track?),
      ∀ byte ∈ track.media.handlerType.1, byte < 0x80) : file.HandlersReadable :=
  fun track htrack => Utf8.bytewise_of_ascii (h track htrack)

def MovieFile.bytes (file : MovieFile) : Bytes :=
  encodeAll FileContent.type FileContent.payload file.boxes

-- ---------------------------------------------------------------------------
-- Headers
-- ---------------------------------------------------------------------------

section
variable {content rest : Bytes} {position : Nat}

theorem parseMovieHeader_drop (header : MovieHeader)
    (h : content.drop position = header.payload ++ rest) :
    ∃ stop, parseMovieHeader content ⟨position, []⟩ = .ok (header.durationSeconds, ⟨stop, []⟩) := by
  cases header with
  | version0 flags times timescale duration extra =>
    simp only [MovieHeader.payload, List.cons_append, List.append_assoc] at h
    have hflags := drop_one h
    have htimes := drop_add hflags flags.2
    have htimescale : content.drop (position + 1 + 3 + (4 + 4)) = _ := drop_add htimes times.2
    have hduration := drop_add htimescale (length_bigEndianBytes _ _)
    have hskip : BinaryReader.readBytes content (4 + 4) ⟨position + 1 + 3, []⟩ =
        ⟨position + 1 + 3 + (4 + 4), []⟩ := readBytes_drop htimes times.2
    simp only [parseMovieHeader, readByte_drop h, ok_bind, readBytes_drop hflags flags.2, hskip,
      readUInt32BigEndian, readBigEndian_drop htimescale timescale.toNat_lt,
      readBigEndian_drop hduration duration.toNat_lt]
    exact ⟨_, rfl⟩
  | version1 flags times timescale duration extra =>
    simp only [MovieHeader.payload, List.cons_append, List.append_assoc] at h
    have hflags := drop_one h
    have htimes := drop_add hflags flags.2
    have htimescale : content.drop (position + 1 + 3 + (8 + 8)) = _ := drop_add htimes times.2
    have hduration := drop_add htimescale (length_bigEndianBytes _ _)
    have hskip : BinaryReader.readBytes content (8 + 8) ⟨position + 1 + 3, []⟩ =
        ⟨position + 1 + 3 + (8 + 8), []⟩ := readBytes_drop htimes times.2
    simp only [parseMovieHeader, readByte_drop h, ok_bind, readBytes_drop hflags flags.2, hskip,
      readUInt32BigEndian, readUInt64BigEndian, readBigEndian_drop htimescale timescale.toNat_lt,
      readBigEndian_drop hduration duration.toNat_lt]
    exact ⟨_, rfl⟩

theorem parseTrackHeader_drop (header : TrackHeader)
    (h : content.drop position = header.payload ++ rest) :
    ∃ stop, parseTrackHeader content ⟨position, []⟩ = .ok (header.size, ⟨stop, []⟩) := by
  have hfields : ∃ (version : UInt8) (flags : Block 3) (fields : Block (skippedFields version))
      (width height : UInt32) (extra : Bytes),
      header.payload = version :: (flags.1 ++ fields.1 ++ bigEndianBytes 4 width.toNat ++
        bigEndianBytes 4 height.toNat ++ extra) ∧
      header.size = (width.toNat / 2 ^ 16, height.toNat / 2 ^ 16) := by
    cases header with
    | version0 flags fields width height extra => exact ⟨0, flags, fields, width, height, extra, rfl, rfl⟩
    | version1 flags fields width height extra => exact ⟨1, flags, fields, width, height, extra, rfl, rfl⟩
  obtain ⟨version, flags, fields, width, height, extra, hpayload, hsize⟩ := hfields
  rw [hpayload] at h
  simp only [List.cons_append, List.append_assoc] at h
  have hflags := drop_one h
  have hfields := drop_add hflags flags.2
  have hwidth := drop_add hfields fields.2
  have hheight := drop_add hwidth (length_bigEndianBytes _ _)
  simp only [parseTrackHeader, readByte_drop h, ok_bind, readBytes_drop hflags flags.2,
    readBytes_drop hfields fields.2, readUInt32BigEndian, readBigEndian_drop hwidth width.toNat_lt,
    readBigEndian_drop hheight height.toNat_lt, Nat.shiftRight_eq_div_pow, hsize]
  exact ⟨_, rfl⟩

end

-- ---------------------------------------------------------------------------
-- What the loops find
-- ---------------------------------------------------------------------------

def stepSome (find : α → Option β) (step : σ → β → σ) (state : σ) (content : α) : σ :=
  match find content with
  | some found => step state found
  | none => state

/-- What a loop makes of a part of its state, when only one kind of box matters to it. -/
theorem foldl_component (step : σ → α → σ) (project : σ → τ) (find : α → Option β)
    (stepPart : τ → β → τ)
    (hstep : ∀ state content,
      project (step state content) = stepSome find stepPart (project state) content)
    (boxes : List (Sized α)) (state : σ) :
    project (boxes.foldl (fun state box => step state box.content) state) =
      (boxes.filterMap (find ·.content)).foldl stepPart (project state) := by
  induction boxes generalizing state with
  | nil => rfl
  | cons box boxes ih =>
    rw [List.foldl_cons, ih, hstep, stepSome]
    cases hfind : find box.content with
    | none => simp only [List.filterMap_cons, hfind]
    | some found => simp only [List.filterMap_cons, hfind, List.foldl_cons]

section
variable {content after : Bytes} {position : Nat}

def mediaStep (isVideo : Bool) : MediaContent → Bool
  | .hdlr _ handlerType _ => handlerType.1 = asciiBytes "vide"
  | .other .. => isVideo

theorem mediaBox_steps (inner : MediaContent)
    (hreadable : ∀ handlerType ∈ inner.handlerType?, Utf8.Bytewise handlerType.1) :
    StepsAt content MediaContent.type MediaContent.payload (mediaBox content) mediaStep inner := by
  intro position after isVideo _ h
  cases inner with
  | hdlr reserved handlerType extra =>
    have hcode : Utf8.Bytewise handlerType.1 := hreadable handlerType rfl
    simp only [MediaContent.payload, List.append_assoc] at h
    have htype : (MediaContent.type (.hdlr reserved handlerType extra)).characters = text "hdlr" :=
      (Code.characters_eq_iff _ (by decide)).mpr rfl
    have hvideo : (Utf8.decode [] handlerType.1).1 = text "vide" ↔ handlerType.1 = asciiBytes "vide" :=
      Code.characters_eq_iff ⟨handlerType.1, handlerType.2, hcode⟩ (by decide)
    have hposition : BinaryReader.setPosition (position + 8) ⟨position, []⟩ = .ok ⟨position + 8, []⟩ :=
      BinaryReader.setPosition_natCast (position + 8) _
    have hne : handlerType.1 ≠ [] := List.ne_nil_of_length_pos (by rw [handlerType.2]; decide)
    refine ⟨position + 8 + 4, ?_⟩
    simp only [mediaBox, htype, if_true, hposition, ok_bind,
      readChars_drop (drop_add h reserved.2) handlerType.2 hne hcode, mediaStep, hvideo]
  | other type payload hother =>
    have htype : type.characters ≠ text "hdlr" := Code.ne_text hother (by decide)
    exact ⟨position, if_neg htype⟩

variable (hlength : content.length + 8 < 2 ^ 63)
include hlength

theorem parseMedia_media (media : Media) (hreadable : Utf8.Bytewise media.handlerType.1)
    (hposition : position ≤ content.length)
    (h : content.drop position = media.payload ++ after) (isVideo : Bool) :
    ∃ last, parseMedia content (position + media.payload.length : Nat) (⟨position, []⟩, isVideo) =
      .ok (⟨last, []⟩, media.isVideo) := by
  have hfold : media.boxes.foldl (fun state box => mediaStep state box.content) isVideo =
      media.isVideo := by
    have hfold := foldl_component mediaStep id MediaContent.handlerType?
      (fun _ handlerType => handlerType.1 = asciiBytes "vide")
      (fun isVideo content => by cases content <;> rfl) media.boxes isVideo
    rwa [media.oneHandler] at hfold
  rw [← hfold]
  refine eachBox_encodeAll mediaStep hlength media.wellSized
    (fun box hmem => mediaBox_steps box.content fun handlerType hhandler => ?_) hposition h isVideo
  have hone : handlerType ∈ media.boxes.filterMap (·.content.handlerType?) :=
    List.mem_filterMap.mpr ⟨box, hmem, hhandler⟩
  rw [media.oneHandler, List.mem_singleton] at hone
  exact hone ▸ hreadable

end

def trackStep (state : TrackState) : TrackContent → TrackState
  | .tkhd header =>
    { state with
      metadata := { state.metadata with width := header.size.1, height := header.size.2 } }
  | .mdia media => { state with isVideo := media.isVideo }
  | .other .. => state

theorem foldl_trackStep (track : Track) (state : TrackState) :
    track.boxes.foldl (fun state box => trackStep state box.content) state =
      { metadata :=
          { state.metadata with width := track.header.size.1, height := track.header.size.2 }
        isVideo := track.media.isVideo } := by
  have hmetadata := foldl_component trackStep TrackState.metadata TrackContent.header?
    (fun metadata header =>
      { metadata with width := header.size.1, height := header.size.2 })
    (fun state content => by cases content <;> rfl) track.boxes state
  have hvideo := foldl_component trackStep TrackState.isVideo TrackContent.media?
    (fun _ media => media.isVideo) (fun state content => by cases content <;> rfl) track.boxes state
  rw [track.oneHeader] at hmetadata
  rw [track.oneMedia] at hvideo
  exact TrackState.mk.injEq .. |>.mpr ⟨hmetadata, hvideo⟩

section
variable {content after : Bytes} {position : Nat}

variable (hlength : content.length + 8 < 2 ^ 63)
include hlength

theorem trackBox_steps (inner : TrackContent)
    (hreadable : ∀ media ∈ inner.media?, Utf8.Bytewise media.handlerType.1) :
    StepsAt content TrackContent.type TrackContent.payload (trackBox content) trackStep inner := by
  intro position after state hposition h
  cases inner with
  | tkhd header =>
    obtain ⟨last, hparse⟩ := parseTrackHeader_drop header h
    have htype : (TrackContent.type (.tkhd header)).characters = text "tkhd" :=
      (Code.characters_eq_iff _ (by decide)).mpr rfl
    have hmdia : text "tkhd" ≠ text "mdia" := by decide
    refine ⟨last, ?_⟩
    simp only [trackBox, htype, hmdia, if_false, if_true, hparse, ok_bind, trackStep]
  | mdia media =>
    obtain ⟨last, hparse⟩ :=
      parseMedia_media hlength media (hreadable media rfl) hposition h state.isVideo
    have htype : (TrackContent.type (.mdia media)).characters = text "mdia" :=
      (Code.characters_eq_iff _ (by decide)).mpr rfl
    refine ⟨last, ?_⟩
    simp only [trackBox, htype, if_true, TrackContent.payload, hparse, ok_bind, trackStep]
  | other type payload hother =>
    have hmdia : type.characters ≠ text "mdia" := Code.ne_text hother.1 (by decide)
    have htkhd : type.characters ≠ text "tkhd" := Code.ne_text hother.2 (by decide)
    exact ⟨position, (if_neg hmdia).trans (if_neg htkhd)⟩

theorem parseTrack_track (track : Track) (hreadable : Utf8.Bytewise track.media.handlerType.1)
    (hposition : position ≤ content.length)
    (h : content.drop position = track.payload ++ after) (state : TrackState) :
    ∃ last, parseTrack content (position + track.payload.length : Nat) (⟨position, []⟩, state) =
      .ok (⟨last, []⟩,
        { metadata :=
            { state.metadata with width := track.header.size.1, height := track.header.size.2 }
          isVideo := track.media.isVideo }) := by
  rw [← foldl_trackStep]
  refine eachBox_encodeAll trackStep hlength track.wellSized
    (fun box hmem => trackBox_steps hlength box.content fun media hmedia => ?_) hposition h state
  have hone : media ∈ track.boxes.filterMap (·.content.media?) :=
    List.mem_filterMap.mpr ⟨box, hmem, hmedia⟩
  rw [track.oneMedia, List.mem_singleton] at hone
  exact hone ▸ hreadable

end

def movieStep (metadata : Mp4Metadata) : MovieContent → Mp4Metadata
  | .mvhd header => { metadata with durationSeconds := header.durationSeconds }
  | .trak track =>
    if track.media.isVideo then
      { metadata with width := track.header.size.1, height := track.header.size.2 }
    else metadata
  | .other .. => metadata

def Movie.metadata (movie : Movie) : Mp4Metadata where
  width := movie.video.header.size.1
  height := movie.video.header.size.2
  durationSeconds := movie.header.durationSeconds

theorem foldl_movieStep (movie : Movie) (metadata : Mp4Metadata) :
    movie.boxes.foldl (fun metadata box => movieStep metadata box.content) metadata =
      movie.metadata := by
  have hduration := foldl_component movieStep Mp4Metadata.durationSeconds MovieContent.header?
    (fun _ header => header.durationSeconds)
    (fun metadata content => by
      cases content with
      | trak track => simp only [movieStep]; split <;> rfl
      | _ => rfl) movie.boxes metadata
  have hsize := foldl_component movieStep (fun metadata : Mp4Metadata => (metadata.width, metadata.height))
    MovieContent.track? (fun size track => if track.media.isVideo then track.header.size else size)
    (fun metadata content => by
      cases content with
      | trak track => simp only [movieStep, stepSome, MovieContent.track?]; split <;> rfl
      | _ => rfl) movie.boxes metadata
  rw [movie.oneHeader] at hduration
  rw [← List.foldl_filter, movie.oneVideo] at hsize
  obtain ⟨hwidth, hheight⟩ := Prod.mk.inj hsize
  exact Mp4Metadata.mk.injEq .. |>.mpr ⟨hwidth, hheight, hduration⟩

section
variable {content after : Bytes} {position : Nat}

theorem rangeBox_passedOver {type : Code} (hother : IsPassedOver type) (parse : RangeParser)
    (boxEnd : Int) (state : BinaryReader × Mp4Metadata) :
    rangeBox content parse ⟨type.characters, boxEnd⟩ state = .ok state := by
  obtain ⟨hmoov, hmdia, htrak, hmvhd⟩ := hother
  have hboxes : ¬ (type.characters = text "moov" ∨ type.characters = text "mdia") :=
    not_or.mpr ⟨Code.ne_text hmoov (by decide), Code.ne_text hmdia (by decide)⟩
  have htrak : type.characters ≠ text "trak" := Code.ne_text htrak (by decide)
  have hmvhd : type.characters ≠ text "mvhd" := Code.ne_text hmvhd (by decide)
  exact (if_neg hboxes).trans ((if_neg htrak).trans (if_neg hmvhd))

variable (hlength : content.length + 8 < 2 ^ 63)
include hlength

theorem rangeBox_steps (parse : RangeParser) (inner : MovieContent)
    (hreadable : ∀ track ∈ inner.track?, Utf8.Bytewise track.media.handlerType.1) :
    StepsAt content MovieContent.type MovieContent.payload (rangeBox content parse) movieStep
      inner := by
  intro position after metadata hposition h
  have hmoov : text "mvhd" ≠ text "moov" ∧ text "trak" ≠ text "moov" := by decide
  have hmdia : text "mvhd" ≠ text "mdia" ∧ text "trak" ≠ text "mdia" := by decide
  have htrak : text "mvhd" ≠ text "trak" := by decide
  cases inner with
  | mvhd header =>
    obtain ⟨last, hparse⟩ := parseMovieHeader_drop header h
    have htype : (MovieContent.type (.mvhd header)).characters = text "mvhd" :=
      (Code.characters_eq_iff _ (by decide)).mpr rfl
    refine ⟨last, ?_⟩
    simp only [rangeBox, htype, hmoov.1, hmdia.1, htrak, or_self, if_false, if_true, hparse,
      ok_bind, movieStep]
  | trak track =>
    obtain ⟨last, hparse⟩ := parseTrack_track hlength track (hreadable track rfl) hposition h
      { metadata, isVideo := false }
    have htype : (MovieContent.type (.trak track)).characters = text "trak" :=
      (Code.characters_eq_iff _ (by decide)).mpr rfl
    refine ⟨last, ?_⟩
    simp only [rangeBox, htype, hmoov.2, hmdia.2, or_self, if_false, if_true,
      MovieContent.payload, hparse, ok_bind, movieStep, keepVideo]
  | other type payload hother => exact ⟨position, rangeBox_passedOver hother parse _ _⟩

theorem parseBoxRange_movie (movie : Movie)
    (hreadable : ∀ track ∈ movie.boxes.filterMap (·.content.track?),
      Utf8.Bytewise track.media.handlerType.1)
    (hposition : position ≤ content.length)
    (h : content.drop position = movie.payload ++ after) (nesting : Nat) (metadata : Mp4Metadata) :
    ∃ last, parseBoxRange content (nesting + 1) (position + movie.payload.length : Nat)
        (⟨position, []⟩, metadata) = .ok (⟨last, []⟩, movie.metadata) := by
  rw [← foldl_movieStep movie metadata]
  exact eachBox_encodeAll movieStep hlength movie.wellSized (fun box hmem =>
    rangeBox_steps hlength _ box.content fun track htrack =>
      hreadable track (List.mem_filterMap.mpr ⟨box, hmem, htrack⟩)) hposition h metadata

end

def fileStep (metadata : Mp4Metadata) : FileContent → Mp4Metadata
  | .moov movie => movie.metadata
  | .other .. => metadata

theorem foldl_fileStep (file : MovieFile) (metadata : Mp4Metadata) :
    file.boxes.foldl (fun metadata box => fileStep metadata box.content) metadata =
      file.movie.metadata := by
  have hfold := foldl_component fileStep id FileContent.movie? (fun _ movie => movie.metadata)
    (fun metadata content => by cases content <;> rfl) file.boxes metadata
  rwa [file.oneMovie] at hfold

/-- There is a box in the file, so there is a level of calls left for the movie. -/
theorem enough_movieFile (file : MovieFile) :
    ∃ nesting, enough file.bytes = nesting + 1 + 1 := by
  have hcount : 8 * file.boxes.length ≤ file.bytes.length := length_le_encodeAll file.boxes
  have hboxes : file.boxes ≠ [] := fun hnil => by
    have hone := file.oneMovie
    rw [hnil] at hone
    cases hone
  have hpos := List.length_pos_iff.mpr hboxes
  exact ⟨file.bytes.length - 1, by rw [enough]; omega⟩

theorem fileBox_steps {content : Bytes} (hlength : content.length + 8 < 2 ^ 63) (nesting : Nat)
    (inner : FileContent)
    (hreadable : ∀ movie ∈ inner.movie?, ∀ track ∈ movie.boxes.filterMap (·.content.track?),
      Utf8.Bytewise track.media.handlerType.1) :
    StepsAt content FileContent.type FileContent.payload
      (rangeBox content (parseBoxRange content (nesting + 1))) fileStep inner := by
  intro position after metadata hposition h
  cases inner with
  | moov movie =>
    obtain ⟨last, hparse⟩ :=
      parseBoxRange_movie hlength movie (hreadable movie rfl) hposition h nesting metadata
    have htype : (FileContent.type (.moov movie)).characters = text "moov" :=
      (Code.characters_eq_iff _ (by decide)).mpr rfl
    refine ⟨last, ?_⟩
    simp only [rangeBox, htype, true_or, if_true, FileContent.payload, hparse, fileStep]
  | other type payload hother => exact ⟨position, rangeBox_passedOver hother _ _ _⟩

/-- The parser reports the size of the video track and the length of the movie. -/
theorem tryParse_movieFile (file : MovieFile) (hlength : file.bytes.length + 8 < 2 ^ 63)
    (hreadable : file.HandlersReadable) :
    tryParse file.bytes =
      .ok (0 < file.movie.metadata.width ∧ 0 < file.movie.metadata.height ∧
        0 < file.movie.metadata.durationSeconds, file.movie.metadata) := by
  obtain ⟨nesting, hnesting⟩ := enough_movieFile file
  have hdrop : file.bytes.drop 0 =
      encodeAll FileContent.type FileContent.payload file.boxes ++ [] :=
    (List.append_nil _).symm
  have hsteps (box) (hmem : box ∈ file.boxes) :=
    fileBox_steps hlength nesting box.content fun movie hmovie => by
      have hone : movie ∈ file.boxes.filterMap (·.content.movie?) :=
        List.mem_filterMap.mpr ⟨box, hmem, hmovie⟩
      rw [file.oneMovie, List.mem_singleton] at hone
      exact hone ▸ hreadable
  obtain ⟨last, hparse⟩ := eachBox_encodeAll fileStep hlength file.wellSized hsteps
    (Nat.zero_le _) hdrop { width := 0, height := 0, durationSeconds := 0 }
  rw [foldl_fileStep, Nat.zero_add] at hparse
  have hrange : parseBoxRange file.bytes (enough file.bytes) file.bytes.length
      (⟨0, []⟩, { width := 0, height := 0, durationSeconds := 0 }) =
        .ok (⟨last, []⟩, file.movie.metadata) := by
    rw [hnesting]
    exact hparse
  rw [tryParse, hrange]
  rfl

def zeros (length : Nat) : Block length := ⟨List.replicate length 0, List.length_replicate⟩

def otherMedia (handlerType : Block 4) : Media where
  boxes := [⟨.rest, .hdlr (zeros 8) handlerType []⟩]
  wellSized := ⟨nofun, fun _ => rfl, trivial⟩
  handlerType
  oneHandler := rfl

def videoMedia : Media where
  boxes :=
    [⟨.compact, .other (.ascii "mdhd" (by decide)) [0x01] (by decide)⟩,
      ⟨.large, .hdlr (zeros 8) ⟨asciiBytes "vide", rfl⟩ [0x00]⟩]
  wellSized := ⟨fun _ => by decide, nofun, nofun, nofun, trivial⟩
  handlerType := ⟨asciiBytes "vide", rfl⟩
  oneHandler := rfl

def otherTrack (handlerType : Block 4) : Track where
  boxes :=
    [⟨.compact, .tkhd (.version0 (zeros 3) (zeros 72) 0 0 [])⟩,
      ⟨.rest, .mdia (otherMedia handlerType)⟩]
  wellSized := ⟨fun _ => by decide, nofun, nofun, fun _ => rfl, trivial⟩
  header := .version0 (zeros 3) (zeros 72) 0 0 []
  oneHeader := rfl
  media := otherMedia handlerType
  oneMedia := rfl

def videoTrack : Track where
  boxes :=
    [⟨.compact, .mdia videoMedia⟩,
      ⟨.compact, .tkhd (.version1 (zeros 3) (zeros 84) 0x05000000 0x02D00000 [])⟩]
  wellSized := ⟨fun _ => by decide, nofun, fun _ => by decide, nofun, trivial⟩
  header := .version1 (zeros 3) (zeros 84) 0x05000000 0x02D00000 []
  oneHeader := rfl
  media := videoMedia
  oneMedia := rfl

section
variable (handlerType : Block 4) (hother : handlerType.1 ≠ asciiBytes "vide")

def movieWith : Movie where
  boxes :=
    [⟨.large, .trak videoTrack⟩, ⟨.large, .trak (otherTrack handlerType)⟩,
      ⟨.rest, .mvhd (.version0 (zeros 3) (zeros 8) 600 1500 [])⟩]
  wellSized := ⟨nofun, nofun, nofun, nofun, nofun, fun _ => rfl, trivial⟩
  header := .version0 (zeros 3) (zeros 8) 600 1500 []
  oneHeader := rfl
  video := videoTrack
  oneVideo := by
    have hother : (otherTrack handlerType).media.isVideo ≠ true := fun h =>
      hother (of_decide_eq_true h)
    exact (List.filter_cons_of_pos rfl).trans (congrArg _ (List.filter_cons_of_neg hother))

def fileWith : MovieFile where
  boxes :=
    [⟨.compact, .other (.ascii "ftyp" (by decide)) (asciiBytes "isom") (by decide)⟩,
      ⟨.rest, .moov (movieWith handlerType hother)⟩]
  wellSized := ⟨fun _ => by decide, nofun, nofun, fun _ => rfl, trivial⟩
  movie := movieWith handlerType hother
  oneMovie := rfl

end

theorem tryParse_movieFile_short :
    let file := fileWith ⟨asciiBytes "soun", rfl⟩ (by decide)
    tryParse file.bytes = .ok (0 < file.movie.metadata.width ∧ 0 < file.movie.metadata.height ∧
        0 < file.movie.metadata.durationSeconds, file.movie.metadata) ∧
      file.movie.metadata = { width := 1280, height := 720, durationSeconds := 5 / 2 } :=
  ⟨tryParse_movieFile _ (by decide +kernel) (by decide +kernel), by decide +kernel⟩

/-- A handler whose type ends in the first byte of a longer character. The decoder waits for
the next byte, which is zero, and then has five characters. -/
theorem tryParse_movieFile_oddHandler :
    tryParse (fileWith ⟨[0x73, 0x6F, 0x75, 0xC3], rfl⟩ (by decide)).bytes = .error .argument ∧
      ¬ ∀ file : MovieFile, file.bytes.length + 8 < 2 ^ 63 →
        tryParse file.bytes =
          .ok (0 < file.movie.metadata.width ∧ 0 < file.movie.metadata.height ∧
            0 < file.movie.metadata.durationSeconds, file.movie.metadata) := by
  have hthrows : tryParse (fileWith ⟨[0x73, 0x6F, 0x75, 0xC3], rfl⟩ (by decide)).bytes =
      .error .argument := by decide +kernel
  refine ⟨hthrows, fun hreports => ?_⟩
  have hok := hreports (fileWith ⟨[0x73, 0x6F, 0x75, 0xC3], rfl⟩ (by decide)) (by decide +kernel)
  rw [hthrows] at hok
  cases hok

end Mp4MetadataParser

end DragonOS.Build
