import DragonOS.Lib.Outcome
import DragonOS.Lib.Regions

/-!
# Numbers and arrays of the builder

The builder computes with `int`, whose operations wrap unless they are checked,
and with byte arrays and spans, whose bounds are checked. Anything it can throw
is an `Exception`.
-/

namespace DragonOS.Build

open Lib

inductive Exception
  | invalidOperation (message : String)
  | overflow
  | outOfRange
  deriving DecidableEq, Repr

abbrev Bytes := List UInt8

/-- The result of an `int` operation. -/
def int32 (value : Int) : Int := value.bmod (2 ^ 32)

def divideRoundUp (value divisor : Int) : Int := (int32 (value + divisor - 1)).tdiv divisor

def throwIf (condition : Prop) [Decidable condition] (exception : Exception) :
    Except Exception Unit :=
  if condition then .error exception else .ok ()

/-- An unchecked cast to `byte`. -/
def lowByte (value : Int) : UInt8 := UInt8.ofNat (value % 256).toNat

def checkedByte (value : Int) : Except Exception UInt8 :=
  if 0 ≤ value ∧ value < 2 ^ 8 then .ok (UInt8.ofNat value.toNat) else .error .overflow

def checkedUShort (value : Int) : Except Exception UInt16 :=
  if 0 ≤ value ∧ value < 2 ^ 16 then .ok (UInt16.ofNat value.toNat) else .error .overflow

def checkedUInt (value : Int) : Except Exception UInt32 :=
  if 0 ≤ value ∧ value < 2 ^ 32 then .ok (UInt32.ofNat value.toNat) else .error .overflow

def newArray (α : Type) [OfNat α 0] (length : Int) : Except Exception (List α) :=
  if 0 ≤ length then .ok (List.replicate length.toNat 0) else .error .overflow

/-- Writes to an array or a span; nothing may reach beyond it. -/
def writeAt (target : List α) (offset : Int) (source : List α) : Except Exception (List α) :=
  if 0 ≤ offset ∧ offset + source.length ≤ target.length then
    .ok (overwrite target offset.toNat source)
  else .error .outOfRange

/-- Taking a span of an array; its content is computed afterwards. -/
def writeSlice (target : Bytes) (offset length : Int) (content : Except Exception Bytes) :
    Except Exception Bytes := do
  throwIf (¬ (0 ≤ offset ∧ offset + length ≤ target.length)) .outOfRange
  let bytes ← content
  writeAt target offset bytes

def writeFields (target : Bytes) (fields : List (Nat × Bytes)) : Except Exception Bytes :=
  fields.foldlM (fun target field => writeAt target field.1 field.2) target

def readAt (source : List α) (offset : Nat) : Except Exception α :=
  match source[offset]? with
  | some value => .ok value
  | none => .error .outOfRange

def littleEndian16 (value : UInt16) : Bytes := [value.toUInt8, (value >>> 8).toUInt8]

def littleEndian32 (value : UInt32) : Bytes :=
  [value.toUInt8, (value >>> 8).toUInt8, (value >>> 16).toUInt8, (value >>> 24).toUInt8]

def bigEndian16 (value : UInt16) : Bytes := (littleEndian16 value).reverse

def bigEndian32 (value : UInt32) : Bytes := (littleEndian32 value).reverse

/-- What `Encoding.ASCII` makes of a character, a question mark for each UTF-16
unit of one that is not ASCII. -/
def asciiChar (c : Char) : Bytes :=
  if c.toNat < 0x80 then [c.toNat.toUInt8]
  else List.replicate (if c.toNat < 0x10000 then 1 else 2) 0x3F

def asciiBytes (value : String) : Bytes := value.toList.flatMap asciiChar

def asciiPadded (length : Nat) (value : Bytes) : Bytes :=
  overwrite (List.replicate length 0x20) 0 (value.take length)

-- ---------------------------------------------------------------------------
-- Lengths
-- ---------------------------------------------------------------------------

@[simp] theorem length_asciiPadded (length : Nat) (value : Bytes) :
    (asciiPadded length value).length = length := by
  rw [asciiPadded, length_overwrite, List.length_replicate]
  rw [Nat.zero_add, List.length_replicate]
  exact List.length_take_le _ _

@[simp] theorem length_littleEndian16 (value : UInt16) : (littleEndian16 value).length = 2 := rfl

@[simp] theorem length_littleEndian32 (value : UInt32) : (littleEndian32 value).length = 4 := rfl

@[simp] theorem length_bigEndian16 (value : UInt16) : (bigEndian16 value).length = 2 := rfl

@[simp] theorem length_bigEndian32 (value : UInt32) : (bigEndian32 value).length = 4 := rfl

-- ---------------------------------------------------------------------------
-- What has not been thrown
-- ---------------------------------------------------------------------------

theorem throwIf_ok [Decidable condition] :
    throwIf condition exception = .ok done ↔ ¬ condition := by
  unfold throwIf
  split
  next h => exact ⟨nofun, fun hnot => absurd h hnot⟩
  next h => exact ⟨fun _ => h, fun _ => rfl⟩

theorem int32_eq (hlow : -2 ^ 31 ≤ value) (hhigh : value < 2 ^ 31) : int32 value = value :=
  Int.bmod_eq_of_le (by omega) (by omega)

theorem int32_wrap (hlow : 2 ^ 31 ≤ value) (hhigh : value < 2 ^ 32) :
    int32 value = value - 2 ^ 32 := by
  rw [int32, Int.bmod_def]
  split <;> omega

theorem divideRoundUp_eq (hvalue : 0 ≤ value) (hdivisor : 0 < divisor)
    (hsum : value + divisor - 1 < 2 ^ 31) :
    divideRoundUp value divisor = (value + divisor - 1) / divisor := by
  rw [divideRoundUp, int32_eq (by omega) hsum, Int.tdiv_eq_ediv_of_nonneg (by omega)]

theorem checkedByte_ok :
    checkedByte value = .ok byte ↔ 0 ≤ value ∧ value < 2 ^ 8 ∧ byte = UInt8.ofNat value.toNat := by
  unfold checkedByte
  split
  next h => exact ⟨fun hvalue => ⟨h.1, h.2, (Except.ok.inj hvalue).symm⟩,
      fun ⟨_, _, hvalue⟩ => hvalue ▸ rfl⟩
  next h => exact ⟨nofun, fun ⟨hlow, hhigh, _⟩ => absurd ⟨hlow, hhigh⟩ h⟩

theorem checkedUShort_ok :
    checkedUShort value = .ok word ↔
      0 ≤ value ∧ value < 2 ^ 16 ∧ word = UInt16.ofNat value.toNat := by
  unfold checkedUShort
  split
  next h => exact ⟨fun hvalue => ⟨h.1, h.2, (Except.ok.inj hvalue).symm⟩,
      fun ⟨_, _, hvalue⟩ => hvalue ▸ rfl⟩
  next h => exact ⟨nofun, fun ⟨hlow, hhigh, _⟩ => absurd ⟨hlow, hhigh⟩ h⟩

theorem checkedUInt_ok :
    checkedUInt value = .ok word ↔
      0 ≤ value ∧ value < 2 ^ 32 ∧ word = UInt32.ofNat value.toNat := by
  unfold checkedUInt
  split
  next h => exact ⟨fun hvalue => ⟨h.1, h.2, (Except.ok.inj hvalue).symm⟩,
      fun ⟨_, _, hvalue⟩ => hvalue ▸ rfl⟩
  next h => exact ⟨nofun, fun ⟨hlow, hhigh, _⟩ => absurd ⟨hlow, hhigh⟩ h⟩

theorem readAt_ok {source : List α} : readAt source offset = .ok value ↔
    source[offset]? = some value := by
  unfold readAt
  cases source[offset]? with
  | none => exact ⟨nofun, nofun⟩
  | some found => exact ⟨fun h => congrArg some (Except.ok.inj h), fun h => h ▸ rfl⟩

theorem newArray_ok [OfNat α 0] {array : List α} :
    newArray α length = .ok array ↔ 0 ≤ length ∧ array = List.replicate length.toNat 0 := by
  unfold newArray
  split
  next h => exact ⟨fun hvalue => ⟨h, (Except.ok.inj hvalue).symm⟩, fun ⟨_, hvalue⟩ => hvalue ▸ rfl⟩
  next h => exact ⟨nofun, fun ⟨hlength, _⟩ => absurd hlength h⟩

theorem writeAt_ok {target source after : List α} :
    writeAt target offset source = .ok after ↔
      0 ≤ offset ∧ offset + source.length ≤ target.length ∧
        after = overwrite target offset.toNat source := by
  unfold writeAt
  split
  next h => exact ⟨fun hvalue => ⟨h.1, h.2, (Except.ok.inj hvalue).symm⟩,
      fun ⟨_, _, hvalue⟩ => hvalue ▸ rfl⟩
  next h => exact ⟨nofun, fun ⟨hlow, hhigh, _⟩ => absurd ⟨hlow, hhigh⟩ h⟩

theorem length_of_writeAt {target source after : List α}
    (h : writeAt target offset source = .ok after) : after.length = target.length := by
  obtain ⟨hoffset, hbound, rfl⟩ := writeAt_ok.mp h
  exact length_overwrite (by omega)

theorem writeFields_ok {target : Bytes} {fields : List (Nat × Bytes)}
    (h : InOrder first target.length fields) :
    writeFields target fields = .ok (putRegions target fields) := by
  induction fields generalizing target first with
  | nil => rfl
  | cons field rest ih =>
    have hfit := h.2.first_le
    have hwrite : writeAt target field.1 field.2 = .ok (overwrite target field.1 field.2) :=
      writeAt_ok.mpr ⟨Int.natCast_nonneg _, by omega, by rw [Int.toNat_natCast]⟩
    rw [writeFields, List.foldlM_cons, hwrite]
    exact ih ((length_overwrite hfit).symm ▸ h.2)

theorem writeAt_middle (before old after new : List α) (h : old.length = new.length) :
    writeAt (before ++ (old ++ after)) before.length new = .ok (before ++ new ++ after) := by
  refine writeAt_ok.mpr ⟨Int.natCast_nonneg _, ?_, ?_⟩
  · simp only [List.length_append]
    omega
  · rw [Int.toNat_natCast, overwrite, List.take_left, ← h, ← List.length_append,
      ← List.append_assoc, List.drop_left]

theorem writeAt_cleared {front source : Bytes} (h : source.length ≤ rest) :
    writeAt (front ++ List.replicate rest 0) front.length source =
      .ok (front ++ source ++ List.replicate (rest - source.length) 0) := by
  obtain ⟨more, rfl⟩ := Nat.exists_eq_add_of_le h
  rw [← List.replicate_append_replicate, writeAt_middle _ _ _ _ List.length_replicate, Nat.add_sub_cancel_left]

theorem foldlM_putRegions {step : List α → β → Except Exception (List α)}
    {region : β → Nat × List α} {target : List α} {items : List β}
    (hfits : ∀ item ∈ items, (region item).1 + (region item).2.length ≤ target.length)
    (hstep : ∀ item ∈ items, ∀ state : List α, state.length = target.length →
      step state item = .ok (overwrite state (region item).1 (region item).2)) :
    items.foldlM step target = .ok (putRegions target (items.map region)) := by
  induction items generalizing target with
  | nil => rfl
  | cons item rest ih =>
    obtain ⟨hitem, hrest⟩ := List.forall_mem_cons.mp hstep
    obtain ⟨hfit, hfits⟩ := List.forall_mem_cons.mp hfits
    have hlength := length_overwrite hfit
    rw [List.foldlM_cons, hitem target rfl, ok_bind]
    refine ih (fun later hlater => ?_) fun later hlater state hstate => ?_
    · rw [hlength]
      exact hfits later hlater
    · exact hrest later hlater state (hstate.trans hlength)

end DragonOS.Build
