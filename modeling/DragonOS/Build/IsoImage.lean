import DragonOS.Build.DotNet

/-!
# The bootable ISO image

`BuildBootableIso` lays out a volume with one file, `EFI/BOOT/BOOTX64.EFI`, and with the
EFI system partition as its boot image. Everything but these two has a place that does
not depend on their sizes.
-/

namespace DragonOS.Build

open Lib

structure DateTime where
  year : Nat
  month : Nat
  day : Nat
  hour : Nat
  minute : Nat
  second : Nat
  year_le : 1 ≤ year ∧ year ≤ 9999
  month_le : 1 ≤ month ∧ month ≤ 12
  day_le : 1 ≤ day ∧ day ≤ 31
  hour_lt : hour < 24
  minute_lt : minute < 60
  second_lt : second < 60

namespace UefiIsoBuilder

def isoSectorSize : Nat := 2048
def primaryVolumeDescriptorLba : Nat := 16
def bootRecordLba : Nat := 17
def volumeDescriptorTerminatorLba : Nat := 18
def pathTableLeLba : Nat := 19
def pathTableBeLba : Nat := 20
def rootDirectoryLba : Nat := 21
def efiDirectoryLba : Nat := 22
def bootDirectoryLba : Nat := 23
def bootCatalogLba : Nat := 24
def bootImageLba : Nat := 25

-- ---------------------------------------------------------------------------
-- Fields
-- ---------------------------------------------------------------------------

def bothEndian16 (value : UInt16) : Bytes := littleEndian16 value ++ bigEndian16 value

def bothEndian32 (value : UInt32) : Bytes := littleEndian32 value ++ bigEndian32 value

def standardIdentifier : Bytes := asciiBytes "CD001"

def directoryTimestamp (timestamp : DateTime) : Except Exception Bytes := do
  let year ← checkedByte (timestamp.year - 1900)
  let month ← checkedByte timestamp.month
  let day ← checkedByte timestamp.day
  let hour ← checkedByte timestamp.hour
  let minute ← checkedByte timestamp.minute
  let second ← checkedByte timestamp.second
  pure [year, month, day, hour, minute, second, 0]

def paddedDecimal (count value : Nat) : Bytes :=
  (List.range count).reverse.map fun place => UInt8.ofNat (48 + value / 10 ^ place % 10)

def volumeTimestamp (timestamp : DateTime) : Bytes :=
  paddedDecimal 4 timestamp.year ++ paddedDecimal 2 timestamp.month ++
    paddedDecimal 2 timestamp.day ++ paddedDecimal 2 timestamp.hour ++
    paddedDecimal 2 timestamp.minute ++ paddedDecimal 2 timestamp.second ++ [48, 48] ++ [0]

-- ---------------------------------------------------------------------------
-- Directory records
-- ---------------------------------------------------------------------------

def recordLength (fileIdentifier : Bytes) : Nat :=
  33 + fileIdentifier.length + if fileIdentifier.length % 2 = 0 then 1 else 0

def buildDirectoryRecord (extentLba dataLength : UInt32) (recordingTime : DateTime) (flags : UInt8)
    (fileIdentifier : Bytes) : Except Exception Bytes := do
  let record ← newArray UInt8 (recordLength fileIdentifier)
  let length ← checkedByte (recordLength fileIdentifier)
  let timestamp ← directoryTimestamp recordingTime
  let identifierLength ← checkedByte fileIdentifier.length
  writeFields record
    [(0, [length]), (2, bothEndian32 extentLba), (10, bothEndian32 dataLength), (18, timestamp),
      (25, [flags]), (28, bothEndian16 1), (32, [identifierLength]), (33, fileIdentifier)]

/-- The arguments of `buildDirectoryRecord` but the time. -/
structure DirectoryRecord where
  extentLba : UInt32
  dataLength : UInt32
  flags : UInt8
  fileIdentifier : Bytes

def DirectoryRecord.build (record : DirectoryRecord) (recordingTime : DateTime) :
    Except Exception Bytes :=
  buildDirectoryRecord record.extentLba record.dataLength recordingTime record.flags
    record.fileIdentifier

/-- `CopyRecord` for one record after another. -/
def copyRecords (timestamp : DateTime) (sector : Bytes) :
    (offset : Nat) → List DirectoryRecord → Except Exception Bytes
  | _, [] => .ok sector
  | offset, record :: rest => do
    let bytes ← record.build timestamp
    let sector ← writeAt sector offset bytes
    copyRecords timestamp sector (offset + bytes.length) rest

-- ---------------------------------------------------------------------------
-- Sectors
-- ---------------------------------------------------------------------------

def writeSpan (iso : Bytes) (offset length : Int) (body : Bytes → Except Exception Bytes) :
    Except Exception Bytes := do
  throwIf (¬ (0 ≤ offset ∧ 0 ≤ length ∧ offset + length ≤ iso.length)) .outOfRange
  let span ← body (slice iso offset.toNat length.toNat)
  writeAt iso offset span

def writeSector (iso : Bytes) (lba : Nat) (body : Bytes → Except Exception Bytes) :
    Except Exception Bytes :=
  writeSpan iso (lba * isoSectorSize : Nat) isoSectorSize body

def directory (lba : Nat) (fileIdentifier : Bytes) : DirectoryRecord :=
  { extentLba := lba.toUInt32, dataLength := isoSectorSize.toUInt32, flags := 0x02, fileIdentifier }

def primaryVolumeFields (volumeSpace : UInt32) (rootRecord : Bytes) (timestamp : DateTime) :
    List (Nat × Bytes) :=
  [(0, [0x01]), (1, standardIdentifier), (6, [0x01]),
    (8, asciiPadded 32 (asciiBytes "BITMAP OS")), (40, asciiPadded 32 (asciiBytes "BITMAP_OS")),
    (80, bothEndian32 volumeSpace), (120, bothEndian16 1), (124, bothEndian16 1),
    (128, bothEndian16 isoSectorSize.toUInt16), (132, bothEndian32 34),
    (140, littleEndian32 pathTableLeLba.toUInt32), (148, bigEndian32 pathTableBeLba.toUInt32),
    (156, rootRecord), (318, asciiPadded 128 (asciiBytes "Bitmap OS Builder")),
    (813, volumeTimestamp timestamp), (830, volumeTimestamp timestamp),
    (847, volumeTimestamp timestamp), (864, volumeTimestamp timestamp), (881, [0x01])]

def writePrimaryVolumeDescriptor (iso : Bytes) (totalSectors : Int) (timestamp : DateTime) :
    Except Exception Bytes :=
  writeSector iso primaryVolumeDescriptorLba fun sector => do
    let volumeSpace ← checkedUInt totalSectors
    let rootRecord ← (directory rootDirectoryLba [0x00]).build timestamp
    writeFields sector (primaryVolumeFields volumeSpace rootRecord timestamp)

def bootRecordFields : List (Nat × Bytes) :=
  [(0, [0x00]), (1, standardIdentifier), (6, [0x01]),
    (7, asciiPadded 32 (asciiBytes "EL TORITO SPECIFICATION")),
    (71, littleEndian32 bootCatalogLba.toUInt32)]

def writeBootRecordVolumeDescriptor (iso : Bytes) : Except Exception Bytes :=
  writeSector iso bootRecordLba (writeFields · bootRecordFields)

def terminatorFields : List (Nat × Bytes) := [(0, [0xFF]), (1, standardIdentifier), (6, [0x01])]

def writeVolumeDescriptorTerminator (iso : Bytes) : Except Exception Bytes :=
  writeSector iso volumeDescriptorTerminatorLba (writeFields · terminatorFields)

-- ---------------------------------------------------------------------------
-- Path tables
-- ---------------------------------------------------------------------------

/-- The number that `WritePathTableEntry…` returns. -/
def pathTableEntryLength (identifier : Bytes) : Nat :=
  8 + identifier.length + identifier.length % 2

structure PathTableEntry where
  extentLba : Nat
  parentDirectoryNumber : UInt16
  identifier : Bytes
  deriving DecidableEq, Repr

def writePathTableEntry (word32 : UInt32 → Bytes) (word16 : UInt16 → Bytes) (destination : Bytes)
    (entry : PathTableEntry) : Except Exception Bytes := do
  let length ← checkedByte entry.identifier.length
  let lba ← checkedUInt entry.extentLba
  let destination ← writeFields destination
    [(0, [length]), (1, [0]), (2, word32 lba), (6, word16 entry.parentDirectoryNumber),
      (8, entry.identifier)]
  if entry.identifier.length % 2 ≠ 0 then
    writeAt destination (8 + entry.identifier.length : Nat) [0]
  else pure destination

def writePathTableEntryLittleEndian := writePathTableEntry littleEndian32 littleEndian16

def writePathTableEntryBigEndian := writePathTableEntry bigEndian32 bigEndian16

/-- Every entry is written to what is left of the table. -/
def writePathTable (writeEntry : Bytes → PathTableEntry → Except Exception Bytes) (table : Bytes) :
    (offset : Nat) → List PathTableEntry → Except Exception Bytes
  | _, [] => .ok table
  | offset, entry :: rest => do
    let table ← writeSpan table offset (table.length - offset) (writeEntry · entry)
    writePathTable writeEntry table (offset + pathTableEntryLength entry.identifier) rest

def pathTableEntries : List PathTableEntry :=
  [⟨rootDirectoryLba, 1, [0x00]⟩, ⟨efiDirectoryLba, 1, asciiBytes "EFI"⟩,
    ⟨bootDirectoryLba, 2, asciiBytes "BOOT"⟩]

def writePathTables (iso : Bytes) : Except Exception Bytes := do
  let iso ← writeSector iso pathTableLeLba fun little =>
    writePathTable writePathTableEntryLittleEndian little 0 pathTableEntries
  writeSector iso pathTableBeLba fun big =>
    writePathTable writePathTableEntryBigEndian big 0 pathTableEntries

-- ---------------------------------------------------------------------------
-- Directories
-- ---------------------------------------------------------------------------

def rootRecords : List DirectoryRecord :=
  [directory rootDirectoryLba [0x00], directory rootDirectoryLba [0x01],
    directory efiDirectoryLba (asciiBytes "EFI"),
    { extentLba := bootCatalogLba.toUInt32, dataLength := isoSectorSize.toUInt32, flags := 0x00,
      fileIdentifier := asciiBytes "BOOT.CAT;1" }]

def writeRootDirectory (iso : Bytes) (timestamp : DateTime) : Except Exception Bytes :=
  writeSector iso rootDirectoryLba (copyRecords timestamp · 0 rootRecords)

def efiRecords : List DirectoryRecord :=
  [directory efiDirectoryLba [0x00], directory rootDirectoryLba [0x01],
    directory bootDirectoryLba (asciiBytes "BOOT")]

def writeEfiDirectory (iso : Bytes) (timestamp : DateTime) : Except Exception Bytes :=
  writeSector iso efiDirectoryLba (copyRecords timestamp · 0 efiRecords)

def bootRecords (extentLba dataLength : UInt32) : List DirectoryRecord :=
  [directory bootDirectoryLba [0x00], directory efiDirectoryLba [0x01],
    { extentLba, dataLength, flags := 0x00, fileIdentifier := asciiBytes "BOOTX64.EFI;1" }]

def writeBootDirectory (iso : Bytes) (bootx64Lba bootx64Length : Int) (timestamp : DateTime) :
    Except Exception Bytes :=
  writeSector iso bootDirectoryLba fun sector => do
    let extentLba ← checkedUInt bootx64Lba
    let dataLength ← checkedUInt bootx64Length
    copyRecords timestamp sector 0 (bootRecords extentLba dataLength)

-- ---------------------------------------------------------------------------
-- The boot catalog
-- ---------------------------------------------------------------------------

def validationWord (validationEntry : Bytes) (i : Nat) : UInt16 :=
  (validationEntry.getD (i * 2) 0).toUInt16 + (validationEntry.getD (i * 2 + 1) 0).toUInt16 * 256

/-- The sum leaves the checksum's own word out. -/
def computeElToritoChecksum (validationEntry : Bytes) : UInt16 :=
  let sum : UInt32 := (List.range 16).foldl
    (fun sum i => if i = 14 then sum else sum + (validationWord validationEntry i).toUInt32) 0
  (0 - sum).toUInt16

def validationFields : List (Nat × Bytes) :=
  [(0, [0x01]), (1, [0xEF]), (4, asciiPadded 24 (asciiBytes "BITMAP OS UEFI")), (30, [0x55]),
    (31, [0xAA])]

def initialFields (checksum : UInt16) : List (Nat × Bytes) :=
  [(28, littleEndian16 checksum), (32, [0x88]), (33, [0x00]), (34, littleEndian16 0), (36, [0x00]),
    (37, [0x00]), (38, littleEndian16 1), (40, littleEndian32 bootImageLba.toUInt32)]

def writeBootCatalog (iso : Bytes) : Except Exception Bytes :=
  writeSector iso bootCatalogLba fun sector => do
    let sector ← writeFields sector validationFields
    writeFields sector (initialFields (computeElToritoChecksum (slice sector 0 32)))

-- ---------------------------------------------------------------------------
-- The image
-- ---------------------------------------------------------------------------

def buildBootableIso (timestamp : DateTime) (efiSystemPartition bootx64 : Bytes) :
    Except Exception Bytes := do
  let espSectorCount := divideRoundUp efiSystemPartition.length isoSectorSize
  let bootx64Lba := int32 (bootImageLba + espSectorCount)
  let bootx64SectorCount := divideRoundUp bootx64.length isoSectorSize
  let totalSectors := int32 (bootx64Lba + bootx64SectorCount)
  let iso ← newArray UInt8 (int32 (totalSectors * isoSectorSize))
  let iso ← writePrimaryVolumeDescriptor iso totalSectors timestamp
  let iso ← writeBootRecordVolumeDescriptor iso
  let iso ← writeVolumeDescriptorTerminator iso
  let iso ← writePathTables iso
  let iso ← writeRootDirectory iso timestamp
  let iso ← writeEfiDirectory iso timestamp
  let iso ← writeBootDirectory iso bootx64Lba bootx64.length timestamp
  let iso ← writeBootCatalog iso
  let iso ← writeAt iso (bootImageLba * isoSectorSize : Nat) efiSystemPartition
  writeAt iso (int32 (bootx64Lba * isoSectorSize)) bootx64

end UefiIsoBuilder

end DragonOS.Build
