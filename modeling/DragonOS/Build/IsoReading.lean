import DragonOS.Build.IsoLayout

/-!
# The image is read back

What the reader makes of numbers, records, directories and path tables that the builder has
written, and of the sectors they are in.
-/

namespace DragonOS.Build

open Lib

theorem buildBootableIso_recordable {timestamp : DateTime} {efiSystemPartition bootx64 iso : Bytes}
    (h : UefiIsoBuilder.buildBootableIso timestamp efiSystemPartition bootx64 = .ok iso) :
    UefiIsoBuilder.Recordable timestamp := by
  obtain ⟨cleared, -, h⟩ := bind_ok.mp h
  obtain ⟨next, hwrite, -⟩ := bind_ok.mp h
  obtain ⟨-, -, hwrite⟩ := bind_ok.mp hwrite
  obtain ⟨sector, hbody, -⟩ := bind_ok.mp hwrite
  obtain ⟨volumeSpace, -, hbody⟩ := bind_ok.mp hbody
  obtain ⟨record, hrecord, -⟩ := bind_ok.mp hbody
  exact UefiIsoBuilder.DirectoryRecord.recordable hrecord

namespace IsoReader

open UefiIsoBuilder

-- ---------------------------------------------------------------------------
-- Numbers
-- ---------------------------------------------------------------------------

theorem littleEndianValue_littleEndian16 (value : UInt16) :
    littleEndianValue (littleEndian16 value) = value.toNat := by
  have hvalue := value.toNat_lt
  have hhigh : (value >>> 8).toUInt8.toNat = value.toNat / 2 ^ 8 % 2 ^ 8 := by
    rw [UInt16.toNat_toUInt8, UInt16.toNat_shiftRight, show (8 : UInt16).toNat % 16 = 8 from rfl,
      Nat.shiftRight_eq_div_pow]
  show value.toUInt8.toNat + 256 * ((value >>> 8).toUInt8.toNat + 256 * 0) = value.toNat
  rw [hhigh, UInt16.toNat_toUInt8]
  omega

theorem littleEndianValue_littleEndian32 (value : UInt32) :
    littleEndianValue (littleEndian32 value) = value.toNat := by
  have hvalue := value.toNat_lt
  have hpart (k : UInt32) (hk : k.toNat < 32) :
      (value >>> k).toUInt8.toNat = value.toNat / 2 ^ k.toNat % 2 ^ 8 := by
    rw [UInt32.toNat_toUInt8, UInt32.toNat_shiftRight, Nat.mod_eq_of_lt hk,
      Nat.shiftRight_eq_div_pow]
  have hbytes : littleEndianValue (littleEndian32 value) = value.toUInt8.toNat +
      256 * ((value >>> 8).toUInt8.toNat + 256 * ((value >>> 16).toUInt8.toNat +
        256 * ((value >>> 24).toUInt8.toNat + 256 * 0))) := rfl
  rw [hbytes, hpart 8 (by decide), hpart 16 (by decide), hpart 24 (by decide), UInt32.toNat_toUInt8,
    show (8 : UInt32).toNat = 8 from rfl, show (16 : UInt32).toNat = 16 from rfl,
    show (24 : UInt32).toNat = 24 from rfl]
  omega

theorem bigEndianValue_bigEndian16 (value : UInt16) :
    bigEndianValue (bigEndian16 value) = value.toNat := by
  rw [bigEndianValue, bigEndian16, List.reverse_reverse, littleEndianValue_littleEndian16]

theorem bigEndianValue_bigEndian32 (value : UInt32) :
    bigEndianValue (bigEndian32 value) = value.toNat := by
  rw [bigEndianValue, bigEndian32, List.reverse_reverse, littleEndianValue_littleEndian32]

structure WordOrder.ReadBy (order : WordOrder) (value : Bytes → Nat) : Prop where
  word32 : ∀ word, value (order.word32 word) = word.toNat
  word16 : ∀ word, value (order.word16 word) = word.toNat

theorem littleOrder_readBy : WordOrder.ReadBy littleOrder littleEndianValue :=
  ⟨littleEndianValue_littleEndian32, littleEndianValue_littleEndian16⟩

theorem bigOrder_readBy : WordOrder.ReadBy bigOrder bigEndianValue :=
  ⟨bigEndianValue_bigEndian32, bigEndianValue_bigEndian16⟩

def HoldsFields (image : Bytes) (fields : List (Nat × Bytes)) : Prop :=
  ∀ offset bytes, (offset, bytes) ∈ fields → slice image offset bytes.length = bytes

section
variable {image : Bytes} {fields : List (Nat × Bytes)} {offset : Nat}

theorem HoldsFields.byte_eq (h : HoldsFields image fields) {byte : UInt8}
    (hmem : (offset, [byte]) ∈ fields) :
    littleEndianValue (slice image offset 1) = byte.toNat := by
  have hslice : slice image offset 1 = [byte] := h _ _ hmem
  rw [hslice]
  rfl

theorem HoldsFields.word16_eq (h : HoldsFields image fields) {word : UInt16}
    (hmem : (offset, littleEndian16 word) ∈ fields) :
    littleEndianValue (slice image offset 2) = word.toNat := by
  have hslice := h _ _ hmem
  rw [length_littleEndian16] at hslice
  rw [hslice, littleEndianValue_littleEndian16]

theorem HoldsFields.word32_eq (h : HoldsFields image fields) {word : UInt32}
    (hmem : (offset, littleEndian32 word) ∈ fields) :
    littleEndianValue (slice image offset 4) = word.toNat := by
  have hslice := h _ _ hmem
  rw [length_littleEndian32] at hslice
  rw [hslice, littleEndianValue_littleEndian32]

end

section
variable {target : Bytes} {fields : List (Nat × Bytes)} {first offset : Nat}

theorem bothEndianValue_bothEndian32 (h : InOrder first target.length fields) {value : UInt32}
    (hmem : (offset, bothEndian32 value) ∈ fields) :
    bothEndianValue (putRegions target fields) offset 4 = some value.toNat := by
  have hlittle : slice (putRegions target fields) (offset + 0) 4 = littleEndian32 value :=
    slice_putRegions_inside h hmem (by simp)
  have hbig : slice (putRegions target fields) (offset + 4) 4 = bigEndian32 value :=
    slice_putRegions_inside h hmem (by simp)
  rw [Nat.add_zero] at hlittle
  rw [bothEndianValue, hlittle, hbig, bigEndianValue_bigEndian32, littleEndianValue_littleEndian32,
    if_pos rfl]

theorem bothEndianValue_bothEndian16 (h : InOrder first target.length fields) {value : UInt16}
    (hmem : (offset, bothEndian16 value) ∈ fields) :
    bothEndianValue (putRegions target fields) offset 2 = some value.toNat := by
  have hlittle : slice (putRegions target fields) (offset + 0) 2 = littleEndian16 value :=
    slice_putRegions_inside h hmem (by simp)
  have hbig : slice (putRegions target fields) (offset + 2) 2 = bigEndian16 value :=
    slice_putRegions_inside h hmem (by simp)
  rw [Nat.add_zero] at hlittle
  rw [bothEndianValue, hlittle, hbig, bigEndianValue_bigEndian16, littleEndianValue_littleEndian16,
    if_pos rfl]

theorem getElem?_field (h : InOrder first target.length fields) {byte : UInt8}
    (hmem : (offset, [byte]) ∈ fields) : (putRegions target fields)[offset]? = some byte :=
  getElem?_putRegions h hmem Nat.one_pos

theorem slice_field (h : InOrder first target.length fields) {bytes : Bytes} {length : Nat}
    (hmem : (offset, bytes) ∈ fields) (hlength : bytes.length = length) :
    slice (putRegions target fields) offset length = bytes :=
  hlength ▸ slice_putRegions h hmem

theorem isDescriptor_putRegions (h : InOrder first target.length fields) {type : UInt8}
    (htype : (0, [type]) ∈ fields) (hidentifier : (1, standardIdentifier) ∈ fields)
    (hversion : (6, [1]) ∈ fields) : isDescriptor (putRegions target fields) type = true := by
  have hslice : slice (putRegions target fields) 1 5 = standardIdentifier :=
    slice_putRegions h hidentifier
  rw [isDescriptor, getElem?_field h htype, hslice, getElem?_field h hversion]
  simp [standardIdentifier]

end

-- ---------------------------------------------------------------------------
-- Directories
-- ---------------------------------------------------------------------------

def recordOf (record : DirectoryRecord) : Record where
  lba := record.extentLba.toNat
  size := record.dataLength.toNat
  isDirectory := record.flags &&& 0x02 ≠ 0
  identifier := record.fileIdentifier

theorem length_record (record : DirectoryRecord) :
    33 + record.fileIdentifier.length ≤ record.length ∧
      record.length ≤ 34 + record.fileIdentifier.length := by
  unfold DirectoryRecord.length recordLength
  split <;> omega

theorem bothEndianValue_append (front rest : Bytes) (offset width : Nat)
    (h : offset + width + width ≤ front.length) :
    bothEndianValue (front ++ rest) offset width = bothEndianValue front offset width := by
  rw [bothEndianValue, slice_append_left rest (by omega), slice_append_left rest (by omega),
    bothEndianValue]

theorem readRecord_bytes (record : DirectoryRecord) (timestamp : DateTime) (rest : Bytes)
    (hid : record.fileIdentifier.length ≤ 221) :
    readRecord (record.bytes timestamp ++ rest) = some (recordOf record) := by
  obtain ⟨hlow, hhigh⟩ := length_record record
  have hinOrder := record.inOrder_fields timestamp
  have hlength := record.length_bytes timestamp
  have hbyte (offset : Nat) (byte : UInt8) (hmem : (offset, [byte]) ∈ record.fields timestamp)
      (hoffset : offset < 33) : (record.bytes timestamp ++ rest)[offset]? = some byte := by
    rw [List.getElem?_append_left (by omega)]
    exact getElem?_field hinOrder hmem
  have hfirst := hbyte 0 _ List.mem_cons_self (by omega)
  have hid32 := hbyte 32 (UInt8.ofNat record.fileIdentifier.length)
    (by simp [DirectoryRecord.fields]) (by omega)
  have hflags := hbyte 25 record.flags (by simp [DirectoryRecord.fields]) (by omega)
  have hlba : bothEndianValue (record.bytes timestamp) 2 4 = some record.extentLba.toNat :=
    bothEndianValue_bothEndian32 hinOrder (by simp [DirectoryRecord.fields])
  have hsize : bothEndianValue (record.bytes timestamp) 10 4 = some record.dataLength.toNat :=
    bothEndianValue_bothEndian32 hinOrder (by simp [DirectoryRecord.fields])
  have hidentifier : slice (record.bytes timestamp) 33 record.fileIdentifier.length =
      record.fileIdentifier := slice_putRegions hinOrder (by simp [DirectoryRecord.fields])
  have hlengthByte : (UInt8.ofNat record.length).toNat = record.length :=
    UInt8.toNat_ofNat_of_lt' (by rw [UInt8.size]; omega)
  have hidByte : (UInt8.ofNat record.fileIdentifier.length).toNat = record.fileIdentifier.length :=
    UInt8.toNat_ofNat_of_lt' (by rw [UInt8.size]; omega)
  rw [readRecord, hfirst, hid32, hflags, bothEndianValue_append _ _ _ _ (by omega), hlba,
    bothEndianValue_append _ _ _ _ (by omega), hsize]
  simp only [Option.bind_eq_bind, Option.bind_some, hlengthByte, hidByte, List.length_append,
    hlength, slice_append_left rest (show 33 + record.fileIdentifier.length ≤
      (record.bytes timestamp).length by omega), hidentifier]
  rw [guard, if_pos ⟨hlow, Nat.le_add_right _ _⟩]
  rfl

theorem readRecords_cleared (fuel rest : Nat) (hrest : rest < blockSize) :
    readRecords (fuel + 1) (List.replicate rest 0) = some [] := by
  cases rest with
  | zero => rfl
  | succ rest =>
    have hnext : nextSector (List.replicate (rest + 1) 0) = [] := by
      rw [nextSector, List.length_replicate, Nat.mod_eq_of_lt hrest, if_neg (Nat.succ_ne_zero _)]
      exact List.drop_eq_nil_of_le (Nat.le_of_eq List.length_replicate)
    rw [List.replicate_succ, readRecords, if_pos rfl, ← List.replicate_succ, hnext]
    cases fuel <;> rfl

theorem readRecords_directoryBytes {records : List DirectoryRecord} (timestamp : DateTime)
    {fuel rest : Nat} (hids : ∀ record ∈ records, record.fileIdentifier.length ≤ 221)
    (hfuel : records.length < fuel) (hrest : rest < blockSize) :
    readRecords fuel (directoryBytes timestamp records ++ List.replicate rest 0) =
      some (records.map recordOf) := by
  induction records generalizing fuel with
  | nil =>
    obtain ⟨fuel, rfl⟩ := Nat.exists_eq_succ_of_ne_zero (Nat.ne_of_gt hfuel)
    exact readRecords_cleared fuel rest hrest
  | cons record records ih =>
    obtain ⟨hid, hids⟩ := List.forall_mem_cons.mp hids
    obtain ⟨fuel, rfl⟩ := Nat.exists_eq_succ_of_ne_zero (Nat.ne_of_gt (Nat.zero_lt_of_lt hfuel))
    have hbytes := record.length_bytes timestamp
    obtain ⟨hlow, hhigh⟩ := length_record record
    rw [directoryBytes_cons, List.append_assoc]
    have hread := readRecord_bytes record timestamp
      (directoryBytes timestamp records ++ List.replicate rest 0) hid
    have hhead : (record.bytes timestamp)[0]? = some (UInt8.ofNat record.length) :=
      getElem?_field (record.inOrder_fields timestamp) List.mem_cons_self
    cases hsplit : record.bytes timestamp with
    | nil =>
      rw [hsplit] at hhead
      cases hhead
    | cons length bytes =>
      rw [hsplit] at hhead hread hbytes
      obtain rfl : length = UInt8.ofNat record.length := Option.some.inj hhead
      have hlength : (UInt8.ofNat record.length).toNat = record.length :=
        UInt8.toNat_ofNat_of_lt' (by rw [UInt8.size]; omega)
      have hne : UInt8.ofNat record.length ≠ 0 := fun hzero => by
        rw [hzero] at hlength
        have hnone : (0 : UInt8).toNat = 0 := rfl
        omega
      rw [List.cons_append, readRecords, if_neg hne, ← List.cons_append, hread, hlength,
        List.drop_left' hbytes, ih hids (Nat.lt_of_succ_lt_succ hfuel)]
      rfl

-- ---------------------------------------------------------------------------
-- Path tables
-- ---------------------------------------------------------------------------

def entryOf (entry : PathTableEntry) : PathEntry where
  lba := entry.extentLba
  parent := entry.parentDirectoryNumber.toNat
  identifier := entry.identifier

theorem readPathEntries_tableBytes {order : WordOrder} {value : Bytes → Nat}
    (hvalue : WordOrder.ReadBy order value) {entries : List PathTableEntry} {fuel : Nat}
    (hentries : ∀ entry ∈ entries, entry.Fits) (hfuel : entries.length < fuel) :
    readPathEntries value fuel (tableBytes order entries) = some (entries.map entryOf) := by
  induction entries generalizing fuel with
  | nil => cases fuel <;> rfl
  | cons entry entries ih =>
    obtain ⟨hentry, hentries⟩ := List.forall_mem_cons.mp hentries
    obtain ⟨fuel, rfl⟩ := Nat.exists_eq_succ_of_ne_zero (Nat.ne_of_gt (Nat.zero_lt_of_lt hfuel))
    have hlength : (UInt8.ofNat entry.identifier.length).toNat = entry.identifier.length :=
      UInt8.toNat_ofNat_of_lt' hentry.1
    have h32 := order.length_word32 (UInt32.ofNat entry.extentLba)
    have h16 := order.length_word16 entry.parentDirectoryNumber
    have hlba : (UInt32.ofNat entry.extentLba).toNat = entry.extentLba :=
      UInt32.toNat_ofNat_of_lt' hentry.2
    obtain ⟨rest, hwhole⟩ : ∃ rest, tableBytes order (entry :: entries) =
        UInt8.ofNat entry.identifier.length :: rest := ⟨_, rfl⟩
    have hall : tableBytes order (entry :: entries) =
        [UInt8.ofNat entry.identifier.length] ++ [0] ++ order.word32 (UInt32.ofNat entry.extentLba) ++
          order.word16 entry.parentDirectoryNumber ++ entry.identifier ++
          List.replicate (entry.identifier.length % 2) 0 ++ tableBytes order entries := rfl
    have hlbaField : slice (tableBytes order (entry :: entries)) 2 4 =
        order.word32 (UInt32.ofNat entry.extentLba) :=
      slice_parts ([UInt8.ofNat entry.identifier.length] ++ [0])
        (order.word16 entry.parentDirectoryNumber ++ entry.identifier ++
          List.replicate (entry.identifier.length % 2) 0 ++ tableBytes order entries)
        (hall.trans (by simp only [List.append_assoc])) rfl h32
    have hparentField : slice (tableBytes order (entry :: entries)) 6 2 =
        order.word16 entry.parentDirectoryNumber :=
      slice_parts
        ([UInt8.ofNat entry.identifier.length] ++ [0] ++ order.word32 (UInt32.ofNat entry.extentLba))
        (entry.identifier ++ List.replicate (entry.identifier.length % 2) 0 ++
          tableBytes order entries)
        (hall.trans (by simp only [List.append_assoc])) (by simp [h32]) h16
    have hidField : slice (tableBytes order (entry :: entries)) 8 entry.identifier.length =
        entry.identifier :=
      slice_parts
        ([UInt8.ofNat entry.identifier.length] ++ [0] ++ order.word32 (UInt32.ofNat entry.extentLba) ++
          order.word16 entry.parentDirectoryNumber)
        (List.replicate (entry.identifier.length % 2) 0 ++ tableBytes order entries)
        (hall.trans (by simp only [List.append_assoc])) (by simp [h32, h16]) rfl
    have hrest : (tableBytes order (entry :: entries)).drop entry.length = tableBytes order entries :=
      List.drop_left' (entry.length_bytes order)
    have hfits : ¬ rest.length < 7 + entry.identifier.length := by
      have hcount := congrArg List.length hwhole
      have hentryLength : entry.length =
        8 + entry.identifier.length + entry.identifier.length % 2 := rfl
      rw [tableBytes_cons, List.length_append, PathTableEntry.length_bytes, List.length_cons] at hcount
      omega
    have hstep : 8 + entry.identifier.length + entry.identifier.length % 2 = entry.length := rfl
    rw [hwhole, readPathEntries, hlength, if_neg hfits, ← hwhole, hstep, hrest,
      ih hentries (Nat.lt_of_succ_lt_succ hfuel), hlbaField, hparentField, hidField, hvalue.word32,
      hvalue.word16, hlba]
    rfl

-- ---------------------------------------------------------------------------
-- The validation entry
-- ---------------------------------------------------------------------------

theorem validationWord_eq (entry : Bytes) (i : Nat) (hi : i * 2 + 2 ≤ entry.length) :
    (validationWord entry i).toNat = littleEndianValue (slice entry (2 * i) 2) := by
  obtain ⟨low, hlow⟩ : ∃ low, entry[i * 2]? = some low := ⟨_, List.getElem?_eq_getElem (by omega)⟩
  obtain ⟨high, hhigh⟩ : ∃ high, entry[i * 2 + 1]? = some high :=
    ⟨_, List.getElem?_eq_getElem (by omega)⟩
  have hslice : slice entry (2 * i) 2 = [low, high] := by
    refine List.ext_getElem? fun j => ?_
    rw [getElem?_slice, Nat.mul_comm 2 i]
    rcases j with _ | _ | j
    · simpa using hlow
    · simpa using hhigh
    · simp
  have hlowValue := low.toNat_lt
  have hhighValue := high.toNat_lt
  have hmul : (high.toUInt16 * 256).toNat = high.toNat * 256 := by
    rw [UInt16.toNat_mul, UInt8.toNat_toUInt16]
    exact Nat.mod_eq_of_lt (show high.toNat * 256 < 2 ^ 16 by omega)
  rw [hslice, validationWord, List.getD_eq_getElem?_getD, List.getD_eq_getElem?_getD, hlow, hhigh,
    Option.getD_some, Option.getD_some, UInt16.toNat_add, UInt8.toNat_toUInt16, hmul,
    Nat.mod_eq_of_lt (by omega)]
  show _ = low.toNat + 256 * (high.toNat + 256 * 0)
  omega

/-- The sum of the words does not wrap. -/
theorem toNat_checksumFold (word : Nat → UInt16) (indices : List Nat) (sum : UInt32)
    (h : sum.toNat + 65535 * indices.length < 2 ^ 32) :
    (indices.foldl (fun sum i => if i = 14 then sum else sum + (word i).toUInt32) sum).toNat =
      sum.toNat + (indices.map fun i => if i = 14 then 0 else (word i).toNat).sum := by
  induction indices generalizing sum with
  | nil => rfl
  | cons i indices ih =>
    rw [List.length_cons] at h
    have hword := (word i).toNat_lt
    rw [List.foldl_cons, List.map_cons, List.sum_cons]
    split
    next => rw [ih sum (by omega), Nat.zero_add]
    next =>
      have hadd : (sum + (word i).toUInt32).toNat = sum.toNat + (word i).toNat := by
        rw [UInt32.toNat_add, UInt16.toNat_toUInt32, Nat.mod_eq_of_lt (by omega)]
      rw [ih _ (by omega), hadd, Nat.add_assoc]

theorem sum_replaceWord (values : Nat → Nat) (word : Nat) (indices : List Nat) :
    (indices.map fun i => if i = 14 then word else values i).sum =
      (indices.map fun i => if i = 14 then 0 else values i).sum + word * indices.count 14 := by
  induction indices with
  | nil => rfl
  | cons i indices ih =>
    rw [List.map_cons, List.map_cons, List.sum_cons, List.sum_cons, ih, List.count_cons]
    by_cases hi : i = 14
    · simp only [hi, if_true, beq_self_eq_true, Nat.mul_add_one]
      omega
    · simp only [hi, if_false, beq_iff_eq, Nat.add_zero]
      omega

theorem wordSum_checksum (entry : Bytes) (hlength : entry.length = 32) :
    wordSum (overwrite entry 28 (littleEndian16 (computeElToritoChecksum entry))) % 65536 = 0 := by
  have hwords : wordSum (overwrite entry 28 (littleEndian16 (computeElToritoChecksum entry))) =
      ((List.range 16).map fun i => if i = 14 then (computeElToritoChecksum entry).toNat
        else (validationWord entry i).toNat).sum := by
    rw [wordSum]
    congr 1
    refine List.map_congr_left fun i hi => ?_
    have hi := List.mem_range.mp hi
    split
    next h14 =>
      rw [h14, ← littleEndianValue_littleEndian16]
      exact congrArg littleEndianValue (slice_overwrite_self (by simp; omega))
    next h14 =>
      rw [slice_overwrite_of_disjoint (by simp; omega) (by simp; omega),
        validationWord_eq entry i (by omega)]
  have hsum := toNat_checksumFold (validationWord entry) (List.range 16) 0
    (by rw [List.length_range]; decide)
  have hlt := ((List.range 16).foldl
    (fun sum i => if i = 14 then sum else sum + (validationWord entry i).toUInt32) 0).toNat_lt
  have hzero : (0 : UInt32).toNat = 0 := rfl
  rw [hsum, hzero, Nat.zero_add] at hlt
  have honce : (List.range 16).count 14 = 1 := by decide
  rw [hwords, sum_replaceWord, honce, Nat.mul_one, computeElToritoChecksum]
  simp only [UInt32.toNat_toUInt16, UInt32.toNat_sub, hsum, hzero, Nat.zero_add]
  omega

theorem slice_overwrite_outside {target source : Bytes} {offset length : Nat}
    (hfit : offset + source.length ≤ length) (hlength : length ≤ target.length) :
    slice (overwrite target offset source) 0 length = overwrite (slice target 0 length) offset source := by
  have hslice : (slice target 0 length).length = length := length_slice (by omega)
  refine List.ext_getElem? fun i => ?_
  rw [getElem?_slice, getElem?_overwrite (by omega), getElem?_overwrite (by omega), Nat.zero_add,
    getElem?_slice, Nat.zero_add]
  split <;> split <;> first | rfl | omega

theorem bootCatalogSector_validation :
    slice bootCatalogSector 0 32 = overwrite (slice validationSector 0 32) 28
      (littleEndian16 (computeElToritoChecksum (slice validationSector 0 32))) := by
  have hinOrder := inOrder_initialFields (computeElToritoChecksum (slice validationSector 0 32))
  have hfit := hinOrder.2.first_le
  rw [bootCatalogSector, initialFields, putRegions, List.foldl_cons, ← putRegions,
    slice_putRegions_of_beside ((length_overwrite hfit).symm ▸ hinOrder.2) (by simp)]
  exact slice_overwrite_outside (by simp) (by rw [length_validationSector]; omega)

theorem isValidationEntry_bootCatalogSector :
    isValidationEntry (slice bootCatalogSector 0 32) = true := by
  have hlength : (slice validationSector 0 32).length = 32 :=
    length_slice (by rw [length_validationSector]; omega)
  have hbyte (offset : Nat) (byte : UInt8) (hmem : (offset, [byte]) ∈ validationFields)
      (hoffset : offset < 32) (hbeside : ¬ (28 ≤ offset ∧ offset < 30)) :
      (slice bootCatalogSector 0 32)[offset]? = some byte := by
    rw [bootCatalogSector_validation, getElem?_overwrite (by rw [hlength]; simp),
      length_littleEndian16, if_neg hbeside, getElem?_slice, if_pos hoffset, Nat.zero_add]
    exact getElem?_field inOrder_validationFields hmem
  have hfirst := hbyte 0 1 (by simp [validationFields]) (by omega) (by omega)
  have hsignature : slice (slice bootCatalogSector 0 32) 30 2 = [0x55, 0xAA] := by
    refine List.ext_getElem? fun i => ?_
    rw [getElem?_slice]
    rcases i with _ | _ | i
    · exact hbyte 30 0x55 (by simp [validationFields]) (by omega) (by omega)
    · exact hbyte 31 0xAA (by simp [validationFields]) (by omega) (by omega)
    · simp
  have hsum : wordSum (slice bootCatalogSector 0 32) % 65536 = 0 := by
    rw [bootCatalogSector_validation]
    exact wordSum_checksum _ hlength
  rw [isValidationEntry, hfirst, hsignature, hsum]
  rfl

-- ---------------------------------------------------------------------------
-- Sectors of the image
-- ---------------------------------------------------------------------------

section
variable {iso bytes : Bytes} {done : List (Nat × Bytes)} {length first lba : Nat}

theorem readExtent_inside (h : Written iso length first done) (hfirst : first ≤ length)
    (hmem : (lba * blockSize, bytes) ∈ done) {size : Nat} (hsize : size ≤ bytes.length) :
    readExtent iso lba size = some (slice bytes 0 size) := by
  have hbounds := (h.inOrder_length hfirst).bounds hmem
  rw [List.length_replicate] at hbounds
  have hlength := h.length_eq hfirst
  simp only at hbounds
  rw [readExtent, if_pos (by omega)]
  have hslice : slice (putRegions (List.replicate length 0) done) (lba * blockSize + 0) size =
      slice bytes 0 size := slice_putRegions_inside (h.inOrder_length hfirst) hmem (by omega)
  rw [Nat.add_zero] at hslice
  rw [h.eq, hslice]

theorem readExtent_region (h : Written iso length first done) (hfirst : first ≤ length)
    (hmem : (lba * blockSize, bytes) ∈ done) :
    readExtent iso lba bytes.length = some bytes := by
  rw [readExtent_inside h hfirst hmem (Nat.le_refl _), slice_self]

theorem readExtent_sector (h : Written iso length first done) (hfirst : first ≤ length)
    (hmem : (lba * blockSize, bytes) ∈ done) (hbytes : bytes.length = 2048) :
    readExtent iso lba blockSize = some bytes := by
  have hread := readExtent_region h hfirst hmem
  rwa [hbytes] at hread

theorem length_records_le (records : List DirectoryRecord) :
    33 * records.length ≤ (records.map (·.length)).sum := by
  induction records with
  | nil => exact Nat.le_refl _
  | cons record records ih =>
    have hlow := (length_record record).1
    rw [List.length_cons, List.map_cons, List.sum_cons]
    omega

theorem findRecord_directorySector {timestamp : DateTime} {records : List DirectoryRecord}
    {identifier : Bytes} {id : Bytes} (h : Written iso length first done) (hfirst : first ≤ length)
    (hmem : (lba * blockSize, directorySector timestamp records) ∈ done)
    (hids : ∀ record ∈ records, record.fileIdentifier.length ≤ 221)
    (hne : records ≠ []) (hsum : (records.map (·.length)).sum ≤ 2048) :
    findRecord iso { lba, size := 2048, isDirectory := true, identifier } id =
      (records.map recordOf).find? fun record => record.identifier = id := by
  have hlength := length_directorySector timestamp hsum
  have hread := readExtent_sector h hfirst hmem hlength
  have hcount := length_records_le records
  have hpos := List.length_pos_iff.mpr hne
  have hrecords := readRecords_directoryBytes timestamp hids
    (show records.length < 2048 by omega)
    (show 2048 - (records.map (·.length)).sum < blockSize by rw [blockSize]; omega)
  rw [findRecord, show (2048 : Nat) = blockSize from rfl, hread]
  simp only [guard, if_true, Option.bind_eq_bind, Option.bind_some, hlength]
  rw [directorySector, hrecords]
  rfl

theorem readPathTable_pathTableSector {order : WordOrder} {value : Bytes → Nat}
    (hvalue : WordOrder.ReadBy order value) (h : Written iso length first done)
    (hfirst : first ≤ length) (hmem : (lba * blockSize, pathTableSector order) ∈ done) :
    readPathTable iso value lba 34 = some (pathTableEntries.map entryOf) := by
  have hsum : (pathTableEntries.map (·.length)).sum = 34 := rfl
  have htable := length_tableBytes order pathTableEntries
  rw [hsum] at htable
  have hread := readExtent_inside h hfirst hmem
    (show 34 ≤ (pathTableSector order).length by rw [length_pathTableSector]; omega)
  have hslice : slice (pathTableSector order) 0 34 = tableBytes order pathTableEntries := by
    rw [pathTableSector, slice, List.drop_zero, List.take_left' htable]
  rw [readPathTable, hread, hslice]
  show readPathEntries value (tableBytes order pathTableEntries).length _ = _
  rw [htable]
  exact readPathEntries_tableBytes hvalue fits_pathTableEntries (by decide)

end

end IsoReader

end DragonOS.Build
