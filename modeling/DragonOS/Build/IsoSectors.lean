import DragonOS.Build.IsoReader

/-!
# What the image builder writes

Every record, table and sector as the bytes it consists of. A sector is cleared before it
is written, so its fields are regions of a cleared buffer, and so are the sectors themselves
regions of a cleared image.
-/

namespace DragonOS.Build

open Lib

namespace UefiIsoBuilder

-- ---------------------------------------------------------------------------
-- Lengths
-- ---------------------------------------------------------------------------

@[simp] theorem length_bothEndian16 (value : UInt16) : (bothEndian16 value).length = 4 := rfl

@[simp] theorem length_bothEndian32 (value : UInt32) : (bothEndian32 value).length = 8 := rfl

@[simp] theorem length_standardIdentifier : standardIdentifier.length = 5 := rfl

@[simp] theorem length_volumeTimestamp (timestamp : DateTime) :
    (volumeTimestamp timestamp).length = 17 := rfl

-- ---------------------------------------------------------------------------
-- Spans
-- ---------------------------------------------------------------------------

theorem writeSpan_ok {iso span : Bytes} {offset length : Nat} {body : Bytes → Except Exception Bytes}
    (hfit : offset + length ≤ iso.length) (hbody : body (slice iso offset length) = .ok span)
    (hspan : span.length = length) :
    writeSpan iso offset length body = .ok (overwrite iso offset span) := by
  have hbounds : ¬ ¬ ((0 : Int) ≤ offset ∧ (0 : Int) ≤ length ∧
      (offset : Int) + length ≤ iso.length) := by omega
  rw [writeSpan, (throwIf_ok.mpr hbounds : throwIf _ _ = .ok ()), ok_bind, Int.toNat_natCast, Int.toNat_natCast, hbody, ok_bind]
  exact writeAt_ok.mpr ⟨Int.natCast_nonneg _, by omega, by rw [Int.toNat_natCast]⟩

theorem writeSpan_cleared (front : Bytes) (body : Bytes → Except Exception Bytes) {span : Bytes}
    (hbody : body (List.replicate rest 0) = .ok span) (hspan : span.length = rest) :
    writeSpan (front ++ List.replicate rest 0) front.length
        ((front ++ List.replicate rest (0 : UInt8)).length - front.length) body =
      .ok (front ++ span) := by
  have hlength : ((front ++ List.replicate rest (0 : UInt8)).length : Int) - front.length = rest := by
    rw [List.length_append, List.length_replicate]
    omega
  have hslice : slice (front ++ List.replicate rest (0 : UInt8)) front.length rest =
      List.replicate rest 0 := by
    rw [slice, List.drop_left, List.take_of_length_le (Nat.le_of_eq List.length_replicate)]
  rw [hlength, writeSpan_ok (by simp) (by rwa [hslice]) hspan, overwrite, List.take_left, hspan,
    List.drop_eq_nil_of_le (by simp), List.append_nil]

-- ---------------------------------------------------------------------------
-- Directory records
-- ---------------------------------------------------------------------------

def Recordable (timestamp : DateTime) : Prop := 1900 ≤ timestamp.year ∧ timestamp.year < 2156

theorem checkedByte_natCast (value : Nat) (h : value < 256) :
    checkedByte value = .ok (UInt8.ofNat value) :=
  checkedByte_ok.mpr ⟨Int.natCast_nonneg _, by omega, by rw [Int.toNat_natCast]⟩

def stampBytes (timestamp : DateTime) : Bytes :=
  [UInt8.ofNat (timestamp.year - 1900), UInt8.ofNat timestamp.month, UInt8.ofNat timestamp.day,
    UInt8.ofNat timestamp.hour, UInt8.ofNat timestamp.minute, UInt8.ofNat timestamp.second, 0]

theorem directoryTimestamp_ok {timestamp : DateTime} (h : Recordable timestamp) :
    directoryTimestamp timestamp = .ok (stampBytes timestamp) := by
  obtain ⟨hlow, hhigh⟩ := h
  have hyear := checkedByte_natCast (timestamp.year - 1900) (by omega)
  have hmonth := checkedByte_natCast timestamp.month (by have := timestamp.month_le; omega)
  have hday := checkedByte_natCast timestamp.day (by have := timestamp.day_le; omega)
  have hhour := checkedByte_natCast timestamp.hour (by have := timestamp.hour_lt; omega)
  have hminute := checkedByte_natCast timestamp.minute (by have := timestamp.minute_lt; omega)
  have hsecond := checkedByte_natCast timestamp.second (by have := timestamp.second_lt; omega)
  rw [Int.natCast_sub hlow] at hyear
  rw [directoryTimestamp, show ((timestamp.year : Int) - 1900) = timestamp.year - (1900 : Nat) from rfl,
    hyear, hmonth, hday, hhour, hminute, hsecond]
  rfl

theorem recordable_of_directoryTimestamp {timestamp : DateTime}
    (h : directoryTimestamp timestamp = .ok stamp) : Recordable timestamp := by
  obtain ⟨year, hyear, -⟩ := bind_ok.mp h
  obtain ⟨hlow, hhigh, -⟩ := checkedByte_ok.mp hyear
  exact ⟨by omega, by omega⟩

def DirectoryRecord.length (record : DirectoryRecord) : Nat := recordLength record.fileIdentifier

def DirectoryRecord.fields (record : DirectoryRecord) (timestamp : DateTime) :
    List (Nat × Bytes) :=
  [(0, [UInt8.ofNat record.length]), (2, bothEndian32 record.extentLba),
    (10, bothEndian32 record.dataLength), (18, stampBytes timestamp), (25, [record.flags]), (28, bothEndian16 1),
    (32, [UInt8.ofNat record.fileIdentifier.length]), (33, record.fileIdentifier)]

def DirectoryRecord.bytes (record : DirectoryRecord) (timestamp : DateTime) : Bytes :=
  putRegions (List.replicate record.length 0) (record.fields timestamp)

theorem DirectoryRecord.inOrder_fields (record : DirectoryRecord) (timestamp : DateTime) :
    InOrder 0 (List.replicate record.length (0 : UInt8)).length (record.fields timestamp) := by
  simp only [fields, stampBytes, InOrder, List.length_replicate, List.length_cons, List.length_nil,
    length_bothEndian32, length_bothEndian16, length, recordLength]
  omega

@[simp] theorem DirectoryRecord.length_bytes (record : DirectoryRecord) (timestamp : DateTime) :
    (record.bytes timestamp).length = record.length := by
  rw [bytes, length_putRegions (record.inOrder_fields timestamp), List.length_replicate]

theorem DirectoryRecord.build_ok {record : DirectoryRecord} {timestamp : DateTime}
    (h : Recordable timestamp) (hid : record.fileIdentifier.length ≤ 221) :
    record.build timestamp = .ok (record.bytes timestamp) := by
  have hrecord : recordLength record.fileIdentifier < 256 := by
    unfold recordLength
    split <;> omega
  have harray : newArray UInt8 (recordLength record.fileIdentifier : Int) =
      .ok (List.replicate record.length 0) :=
    newArray_ok.mpr ⟨Int.natCast_nonneg _, by rw [Int.toNat_natCast]; rfl⟩
  rw [build, buildDirectoryRecord, harray, ok_bind, checkedByte_natCast _ hrecord, ok_bind,
    directoryTimestamp_ok h, ok_bind, checkedByte_natCast _ (by omega), ok_bind]
  exact writeFields_ok (record.inOrder_fields timestamp)

theorem DirectoryRecord.recordable {record : DirectoryRecord} {timestamp : DateTime} {built : Bytes}
    (h : record.build timestamp = .ok built) : Recordable timestamp := by
  obtain ⟨array, -, h⟩ := bind_ok.mp h
  obtain ⟨length, -, h⟩ := bind_ok.mp h
  obtain ⟨stamp, hstamp, -⟩ := bind_ok.mp h
  exact recordable_of_directoryTimestamp hstamp

def directoryBytes (timestamp : DateTime) (records : List DirectoryRecord) : Bytes :=
  records.flatMap (·.bytes timestamp)

theorem directoryBytes_cons (timestamp : DateTime) (record : DirectoryRecord)
    (records : List DirectoryRecord) :
    directoryBytes timestamp (record :: records) =
      record.bytes timestamp ++ directoryBytes timestamp records := rfl

theorem length_directoryBytes (timestamp : DateTime) (records : List DirectoryRecord) :
    (directoryBytes timestamp records).length = (records.map (·.length)).sum := by
  rw [directoryBytes, List.length_flatMap]
  simp only [DirectoryRecord.length_bytes]

theorem copyRecords_ok {timestamp : DateTime} {records : List DirectoryRecord} {front : Bytes}
    (h : Recordable timestamp) (hids : ∀ record ∈ records, record.fileIdentifier.length ≤ 221)
    (hfit : (records.map (·.length)).sum ≤ rest) :
    copyRecords timestamp (front ++ List.replicate rest 0) front.length records =
      .ok (front ++ directoryBytes timestamp records ++
        List.replicate (rest - (records.map (·.length)).sum) 0) := by
  induction records generalizing front rest with
  | nil => simp [copyRecords, directoryBytes]
  | cons record records ih =>
    obtain ⟨hid, hids⟩ := List.forall_mem_cons.mp hids
    rw [List.map_cons, List.sum_cons] at hfit ⊢
    rw [copyRecords, record.build_ok h hid, ok_bind,
      writeAt_cleared (by rw [DirectoryRecord.length_bytes]; omega), ok_bind, ← List.length_append,
      DirectoryRecord.length_bytes, ih hids (by omega), directoryBytes_cons]
    simp only [List.append_assoc, Nat.sub_sub]

-- ---------------------------------------------------------------------------
-- Path tables
-- ---------------------------------------------------------------------------

structure WordOrder where
  word32 : UInt32 → Bytes
  word16 : UInt16 → Bytes
  length_word32 : ∀ value, (word32 value).length = 4
  length_word16 : ∀ value, (word16 value).length = 2

def littleOrder : WordOrder := ⟨littleEndian32, littleEndian16, fun _ => rfl, fun _ => rfl⟩

def bigOrder : WordOrder := ⟨bigEndian32, bigEndian16, fun _ => rfl, fun _ => rfl⟩

section
variable (order : WordOrder)

def WordOrder.writeEntry (destination : Bytes) (entry : PathTableEntry) : Except Exception Bytes :=
  writePathTableEntry order.word32 order.word16 destination entry

def PathTableEntry.length (entry : PathTableEntry) : Nat := pathTableEntryLength entry.identifier

def PathTableEntry.bytes (entry : PathTableEntry) : Bytes :=
  [UInt8.ofNat entry.identifier.length] ++ [0] ++ order.word32 (UInt32.ofNat entry.extentLba) ++
    order.word16 entry.parentDirectoryNumber ++ entry.identifier ++
    List.replicate (entry.identifier.length % 2) 0

@[simp] theorem PathTableEntry.length_bytes (entry : PathTableEntry) :
    (entry.bytes order).length = entry.length := by
  simp only [bytes, List.length_append, List.length_singleton, List.length_replicate,
    order.length_word32, order.length_word16, length, pathTableEntryLength]

def PathTableEntry.Fits (entry : PathTableEntry) : Prop :=
  entry.identifier.length < 256 ∧ entry.extentLba < 2 ^ 32

theorem writePathTableEntry_ok {entry : PathTableEntry} (hentry : entry.Fits)
    (hfit : entry.length ≤ rest) :
    order.writeEntry (List.replicate rest 0) entry =
      .ok (entry.bytes order ++ List.replicate (rest - entry.length) 0) := by
  have hlba : checkedUInt entry.extentLba = .ok (UInt32.ofNat entry.extentLba) :=
    checkedUInt_ok.mpr ⟨Int.natCast_nonneg _, by have := hentry.2; omega, by rw [Int.toNat_natCast]⟩
  let fields : List (Nat × Bytes) :=
    [(0, [UInt8.ofNat entry.identifier.length]), (1, [0]),
      (2, order.word32 (UInt32.ofNat entry.extentLba)),
      (6, order.word16 entry.parentDirectoryNumber), (8, entry.identifier)]
  have hlength : entry.length = 8 + entry.identifier.length + entry.identifier.length % 2 := rfl
  have hinOrder : InOrder 0 (List.replicate rest (0 : UInt8)).length fields := by
    simp only [fields, InOrder, List.length_replicate, List.length_singleton, order.length_word32,
      order.length_word16]
    omega
  have hcontiguous : Contiguous ([] : Bytes).length fields := by
    simp [fields, Contiguous, order.length_word32, order.length_word16]
  have hhead : entry.bytes order =
      fields.flatMap (·.2) ++ List.replicate (entry.identifier.length % 2) 0 := by
    simp [fields, PathTableEntry.bytes]
  have hflat : (fields.flatMap (·.2)).length = 8 + entry.identifier.length := by
    simp [fields, order.length_word32, order.length_word16]
    omega
  have hfields : putRegions (List.replicate rest 0) fields =
      fields.flatMap (·.2) ++ List.replicate (rest - (8 + entry.identifier.length)) 0 := by
    have hparts : putRegions ([] ++ List.replicate rest 0) fields =
        [] ++ fields.flatMap (·.2) ++ (List.replicate rest 0).drop (fields.flatMap (·.2)).length :=
      putRegions_contiguous hcontiguous
    rwa [hflat, List.drop_replicate] at hparts
  rw [WordOrder.writeEntry, writePathTableEntry, checkedByte_natCast _ hentry.1, ok_bind, hlba, ok_bind,
    writeFields_ok hinOrder, ok_bind, hfields, hhead]
  split
  next hodd =>
    have hone : entry.identifier.length % 2 = 1 := by omega
    rw [← hflat, writeAt_cleared (by rw [List.length_singleton]; omega), hone, hlength, hone, hflat]
    rfl
  next heven =>
    have hzero : entry.identifier.length % 2 = 0 := by omega
    rw [hlength, hzero, List.replicate_zero, List.append_nil]
    rfl

def tableBytes (entries : List PathTableEntry) : Bytes := entries.flatMap (·.bytes order)

theorem tableBytes_cons (entry : PathTableEntry) (entries : List PathTableEntry) :
    tableBytes order (entry :: entries) = entry.bytes order ++ tableBytes order entries := rfl

theorem length_tableBytes (entries : List PathTableEntry) :
    (tableBytes order entries).length = (entries.map (·.length)).sum := by
  rw [tableBytes, List.length_flatMap]
  simp only [PathTableEntry.length_bytes]

theorem writePathTable_ok {entries : List PathTableEntry} {front : Bytes}
    (hentries : ∀ entry ∈ entries, entry.Fits) (hfit : (entries.map (·.length)).sum ≤ rest) :
    writePathTable order.writeEntry (front ++ List.replicate rest 0) front.length entries =
      .ok (front ++ tableBytes order entries ++
        List.replicate (rest - (entries.map (·.length)).sum) 0) := by
  induction entries generalizing front rest with
  | nil => simp [writePathTable, tableBytes]
  | cons entry entries ih =>
    obtain ⟨hentry, hentries⟩ := List.forall_mem_cons.mp hentries
    rw [List.map_cons, List.sum_cons] at hfit ⊢
    have hlength : (entry.bytes order ++ List.replicate (rest - entry.length) 0).length = rest := by
      rw [List.length_append, PathTableEntry.length_bytes, List.length_replicate]
      omega
    have hfirst : entry.length ≤ rest := Nat.le_trans (Nat.le_add_right _ _) hfit
    have hspan := writeSpan_cleared front (order.writeEntry · entry)
      (writePathTableEntry_ok order hentry hfirst) hlength
    rw [← List.append_assoc] at hspan
    rw [writePathTable, hspan, ok_bind]
    have hnext : front.length + pathTableEntryLength entry.identifier =
        (front ++ entry.bytes order).length := by
      rw [List.length_append, PathTableEntry.length_bytes]
      rfl
    rw [hnext, ih hentries (Nat.le_sub_of_add_le' hfit), tableBytes_cons]
    simp only [List.append_assoc, Nat.sub_sub]

end

end UefiIsoBuilder

end DragonOS.Build
