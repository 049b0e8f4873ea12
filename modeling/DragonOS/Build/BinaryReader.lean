import DragonOS.Build.ShortName
import DragonOS.Lib.Turns
import DragonOS.Lib.Utf8

/-!
# Reading a file

A reader is a position in a file and the bytes of a character that has begun. They stay
with the decoder when the position is set. A read that comes to the end of the file is
short, but a single byte has to be there, a position has to be one, and the decoder
throws when the characters do not fit into the array that was asked for.
-/

namespace DragonOS.Build

open Lib

inductive StreamException
  | endOfStream
  | overflow
  | negativePosition
  | argument
  /-- Not an exception: the loop does not end. -/
  | endless
  deriving DecidableEq, Repr

structure BinaryReader where
  position : Nat
  pending : Bytes
  deriving DecidableEq, Repr

namespace BinaryReader

section
variable (content : Bytes)

/-- More turns than a loop makes that goes on in the file with each. -/
def enough : Nat := content.length + 1

def read (count : Nat) (reader : BinaryReader) : Bytes × BinaryReader :=
  let bytes := slice content reader.position count
  (bytes, { reader with position := reader.position + bytes.length })

def readByte (reader : BinaryReader) : Except StreamException (UInt8 × BinaryReader) :=
  match content[reader.position]? with
  | some byte => .ok (byte, { reader with position := reader.position + 1 })
  | none => .error .endOfStream

/-- The bytes are dropped. -/
def readBytes (count : Nat) (reader : BinaryReader) : BinaryReader := (reader.read content count).2

def setPosition (value : Int) (reader : BinaryReader) : Except StreamException BinaryReader :=
  if 0 ≤ value then .ok { reader with position := value.toNat } else .error .negativePosition

-- ---------------------------------------------------------------------------
-- Characters
-- ---------------------------------------------------------------------------

/-- A byte for each character, but one less when a character has begun. -/
def bytesFor (room : Nat) (pending : Bytes) : Nat :=
  if pending ≠ [] ∧ 1 < room then room - 1 else room

def getChars (room : Nat) (pending bytes : Bytes) : Except StreamException (Text × Bytes) :=
  if (Utf8.decode pending bytes).1.length ≤ room then .ok (Utf8.decode pending bytes)
  else .error .argument

def charsTurn (count : Nat) (chars : Text × BinaryReader) :
    Except StreamException (Turn (Text × BinaryReader)) :=
  let room := count - chars.1.length
  let (bytes, reader) := chars.2.read content (bytesFor room chars.2.pending)
  if room = 0 ∨ bytes = [] then .ok (.leave chars)
  else do
    let (units, pending) ← getChars room reader.pending bytes
    .ok (.again (chars.1 ++ units, { reader with pending }))

def readChars (count : Nat) (reader : BinaryReader) : Except StreamException (Text × BinaryReader) :=
  loop (charsTurn content count) .endless (enough content) ([], reader)

end

-- ---------------------------------------------------------------------------
-- Positions
-- ---------------------------------------------------------------------------

section
variable {content : Bytes} {reader : BinaryReader}

theorem length_read (content : Bytes) (count : Nat) (reader : BinaryReader) :
    (reader.read content count).1.length = min count (content.length - reader.position) := by
  rw [read, slice, List.length_take, List.length_drop]

theorem position_read (content : Bytes) (count : Nat) (reader : BinaryReader) :
    (reader.read content count).2.position =
      reader.position + min count (content.length - reader.position) :=
  congrArg (reader.position + ·) (length_read content count reader)

theorem setPosition_natCast (position : Nat) (reader : BinaryReader) :
    reader.setPosition position = .ok { reader with position } := by
  rw [setPosition, if_pos (Int.natCast_nonneg _), Int.toNat_natCast]

theorem setPosition_of_neg (h : value < 0) : reader.setPosition value = .error .negativePosition :=
  if_neg (by omega)

theorem setPosition_ok {after : BinaryReader} (h : reader.setPosition value = .ok after) :
    0 ≤ value ∧ after = { reader with position := value.toNat } := by
  unfold setPosition at h
  split at h
  next hnonneg => exact ⟨hnonneg, (Except.ok.inj h).symm⟩
  next => cases h

theorem readByte_returns_iff :
    (∃ result, reader.readByte content = .ok result) ↔ reader.position < content.length := by
  unfold readByte
  split
  next byte hbyte => exact ⟨fun _ => (List.getElem?_eq_some_iff.mp hbyte).1, fun _ => ⟨_, rfl⟩⟩
  next hnone => exact ⟨nofun, fun h => absurd (List.getElem?_eq_none_iff.mp hnone) (by omega)⟩

-- ---------------------------------------------------------------------------
-- Where the characters end
-- ---------------------------------------------------------------------------

theorem getChars_ok {room : Nat} {pending bytes rest : Bytes} {units : Text}
    (h : getChars room pending bytes = .ok (units, rest)) :
    Utf8.decode pending bytes = (units, rest) := by
  unfold getChars at h
  split at h
  next => exact Except.ok.inj h
  next => cases h

theorem charsTurn_again {chars next : Text × BinaryReader}
    (h : charsTurn content count chars = .ok (.again next)) :
    ∃ bytes units pending, bytes ≠ [] ∧
      bytes.length ≤ content.length - chars.2.position ∧
      Utf8.decode chars.2.pending bytes = (units, pending) ∧
      next = (chars.1 ++ units, { position := chars.2.position + bytes.length, pending }) := by
  unfold charsTurn at h
  dsimp only at h
  split at h
  next => cases h
  next hmore =>
    rw [not_or] at hmore
    obtain ⟨⟨units, pending⟩, hunits, h⟩ := bind_ok.mp h
    refine ⟨_, units, pending, hmore.2, ?_, getChars_ok hunits, (Turn.again.inj (Except.ok.inj h)).symm⟩
    rw [length_read]
    omega

theorem charsTurn_leave {chars after : Text × BinaryReader}
    (h : charsTurn content count chars = .ok (.leave after)) : after = chars := by
  unfold charsTurn at h
  dsimp only at h
  split at h
  next => exact (Turn.leave.inj (Except.ok.inj h)).symm
  next =>
    obtain ⟨_, -, h⟩ := bind_ok.mp h
    cases h

theorem charsTurn_ne_endless (chars : Text × BinaryReader) :
    charsTurn content count chars ≠ .error .endless := by
  unfold charsTurn getChars
  dsimp only
  split
  · exact nofun
  split <;> exact nofun

theorem readChars_ne_endless (content : Bytes) (count : Nat) (reader : BinaryReader) :
    reader.readChars content count ≠ .error .endless := by
  refine loop_ne_stuck (fun _ => True) (fun chars : Text × BinaryReader =>
    content.length - chars.2.position) (fun chars _ => charsTurn_ne_endless chars)
    (fun chars next _ h => ⟨trivial, ?_⟩) trivial (Nat.lt_succ_of_le (Nat.sub_le _ _))
  obtain ⟨bytes, units, pending, hne, hlength, -, rfl⟩ := charsTurn_again h
  have hpos := List.length_pos_iff.mpr hne
  show content.length - (chars.2.position + bytes.length) < content.length - chars.2.position
  omega

structure Passed (content : Bytes) (reader : BinaryReader) (chars : Text) (after : BinaryReader) :
    Prop where
  forward : reader.position ≤ after.position
  inside : after.position ≤ max reader.position content.length
  /-- A character of ASCII takes a byte of its own. -/
  ascii : (∀ unit ∈ chars, unit < 0x80) → reader.position + chars.length ≤ after.position

theorem readChars_passed {chars : Text} {after : BinaryReader}
    (h : reader.readChars content count = .ok (chars, after)) :
    Passed content reader chars after := by
  obtain ⟨turns, last, -, hturns, hleave⟩ := loop_ok_iff.mp h
  obtain rfl := charsTurn_leave hleave
  refine hturns.invariant (fun chars => Passed content reader chars.1 chars.2) ?_
    ⟨Nat.le_refl _, Nat.le_max_left _ _, fun _ => Nat.le_refl _⟩
  rintro ⟨before, middle⟩ _ ⟨hforward, hinside, hascii⟩ hturn
  obtain ⟨bytes, units, pending, -, hlength, hdecode, rfl⟩ := charsTurn_again hturn
  refine ⟨hforward.trans (Nat.le_add_right _ _), ?_, fun hunits => ?_⟩
  · dsimp only at hinside hlength ⊢
    omega
  · obtain ⟨hbefore, hlater⟩ := List.forall_mem_append.mp hunits
    have hfirst := hascii hbefore
    have hunits : units = (Utf8.decode middle.pending bytes).1 := (congrArg Prod.fst hdecode).symm
    have hrest := Utf8.length_decode_le_of_ascii (hunits ▸ hlater)
    rw [← hunits] at hrest
    rw [List.length_append]
    dsimp only at hfirst ⊢
    omega

/-- A character for each byte is read as it stands in the file. -/
theorem readChars_bytewise {bytes : Bytes} {position : Nat}
    (hbytes : slice content position bytes.length = bytes) (hcode : Utf8.Bytewise bytes)
    (hne : bytes ≠ []) :
    readChars content bytes.length ⟨position, []⟩ =
      .ok ((Utf8.decode [] bytes).1, ⟨position + bytes.length, []⟩) := by
  obtain ⟨hunits, hpending⟩ := hcode
  have hpos := List.length_pos_iff.mpr hne
  have hfile : bytes.length ≤ content.length := by
    have hlength := congrArg List.length hbytes
    rw [slice, List.length_take, List.length_drop] at hlength
    omega
  have hcount : bytesFor bytes.length [] = bytes.length := if_neg fun h => h.1 rfl
  have hchars : getChars bytes.length [] bytes = .ok ((Utf8.decode [] bytes).1, []) := by
    rw [getChars, if_pos hunits.le]
    exact congrArg (fun rest => Except.ok ((Utf8.decode [] bytes).1, rest)) hpending
  have hfirst : charsTurn content bytes.length ([], ⟨position, []⟩) =
      .ok (.again ((Utf8.decode [] bytes).1, ⟨position + bytes.length, []⟩)) := by
    simp only [charsTurn, read, List.length_nil, Nat.sub_zero, hcount, hbytes, Nat.ne_of_gt hpos,
      hne, or_self, if_false, hchars, ok_bind, List.nil_append]
  have hlast : charsTurn content bytes.length
      ((Utf8.decode [] bytes).1, ⟨position + bytes.length, []⟩) =
        .ok (.leave ((Utf8.decode [] bytes).1, ⟨position + bytes.length, []⟩)) := by
    simp only [charsTurn, hunits, Nat.sub_self, true_or, if_true]
  obtain ⟨fuel, hfuel⟩ : ∃ fuel, enough content = fuel + 1 + 1 :=
    ⟨content.length - 1, by rw [enough]; omega⟩
  rw [readChars, hfuel, loop_again hfirst, loop_leave hlast]

end

end BinaryReader

end DragonOS.Build
