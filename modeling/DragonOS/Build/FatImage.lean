import DragonOS.Build.FatAllocate
import DragonOS.Lib.Packed12

/-!
# The EFI system partition

`buildEfiSystemPartition` numbers the clusters of the tree, links them in the file
allocation table and writes the boot sector, two copies of the table, the root
directory and the clusters of every directory and file.
-/

namespace DragonOS.Build

open Lib

-- ---------------------------------------------------------------------------
-- The file allocation table
-- ---------------------------------------------------------------------------

def chainValue (extent : Extent) (i : Nat) (cluster : Int) : Except Exception UInt16 :=
  if i = extent.clusterCount - 1 then .ok 0xFFF else checkedUShort (int32 (cluster + 1))

def linkCluster (extent : Extent) (fatEntries : List UInt16) (i : Nat) :
    Except Exception (List UInt16) := do
  let cluster := int32 (extent.startCluster + i)
  let value ← chainValue extent i cluster
  writeAt fatEntries cluster [value]

def linkClusterChain (fatEntries : List UInt16) (extent : Extent) :
    Except Exception (List UInt16) :=
  (List.range extent.clusterCount.toNat).foldlM (linkCluster extent) fatEntries

def joinHalves (high low : UInt8) : UInt8 := (high &&& 0xF0) ||| (low &&& 0x0F)

def setFat12Entry (fat : Bytes) (index : Nat) (value : UInt16) : Except Exception Bytes := do
  let value := value &&& 0x0FFF
  let offset := index + index / 2
  if index % 2 = 0 then
    let fat ← writeAt fat offset [value.toUInt8]
    let next ← readAt fat (offset + 1)
    writeAt fat (offset + 1 : Nat) [joinHalves next (value >>> 8).toUInt8]
  else
    let first ← readAt fat offset
    let fat ← writeAt fat offset [joinHalves (value <<< 4).toUInt8 first]
    writeAt fat (offset + 1 : Nat) [(value >>> 4).toUInt8]

def writeUsedEntry (entries : List UInt16) (fat : Bytes) (i : Nat) : Except Exception Bytes := do
  let value ← readAt entries i
  if value ≠ 0 then setFat12Entry fat i value else pure fat

def writeFat12Entries (fatBytes : Bytes) (entries : List UInt16) : Except Exception Bytes := do
  let fat := List.replicate fatBytes.length 0
  let fat ← setFat12Entry fat 0 (← readAt entries 0)
  let fat ← setFat12Entry fat 1 (← readAt entries 1)
  (List.range (entries.length - 2)).foldlM (fun fat i => writeUsedEntry entries fat (2 + i)) fat

def writeFatCopies (disk : Bytes) (entries : List UInt16) : Except Exception Bytes := do
  let fatBytes ← newArray UInt8 (sectorsPerFat * bytesPerSector)
  let fatBytes ← writeFat12Entries fatBytes entries
  let fat1Offset := reservedSectors * bytesPerSector
  let fat2Offset := fat1Offset + fatBytes.length
  let disk ← writeAt disk fat1Offset fatBytes
  writeAt disk fat2Offset fatBytes

-- ---------------------------------------------------------------------------
-- The boot sector
-- ---------------------------------------------------------------------------

def bootSectorFields : List (Nat × Bytes) :=
  [(0, [0xEB]), (1, [0x3C]), (2, [0x90]), (3, asciiPadded 8 (asciiBytes "MSWIN4.1")),
    (11, littleEndian16 512), (13, [16]), (14, littleEndian16 1), (16, [2]),
    (17, littleEndian16 224), (19, littleEndian16 32768), (21, [0xF0]), (22, littleEndian16 16),
    (24, littleEndian16 18), (26, littleEndian16 2), (36, [0]), (38, [0x29]),
    (39, littleEndian32 0x12345678), (43, asciiPadded 11 (asciiBytes "DRAGON_OS")),
    (54, asciiPadded 8 (asciiBytes "FAT12")), (510, [0x55]), (511, [0xAA])]

def writeBootSector (disk : Bytes) : Except Exception Bytes :=
  bootSectorFields.foldlM (fun disk field => writeAt disk field.1 field.2) disk

-- ---------------------------------------------------------------------------
-- Directory entries
-- ---------------------------------------------------------------------------

section
variable (casing : Casing)

def asciiByte (unit : UInt16) : UInt8 := if unit < 128 then unit.toUInt8 else 0x3F

def shortNameField (length : Nat) (value : Text) : Bytes :=
  asciiPadded length ((casing.toUpper value).map asciiByte)

/-- The fields of an entry; what is between them has been cleared. -/
def directoryEntry (name extension : Text) (attributes : UInt8) (firstCluster : UInt16)
    (size : UInt32) : Bytes :=
  shortNameField casing 8 name ++ shortNameField casing 3 extension ++ [attributes] ++
    List.replicate 14 0 ++ littleEndian16 firstCluster ++ littleEndian32 size

/-- The entry `.` if the second byte of its name is a space, the entry `..` if it is a dot. -/
def specialDirectoryEntry (second : UInt8) (cluster : UInt16) : Bytes :=
  [0x2E, second] ++ List.replicate 9 0 ++ [0x10] ++ List.replicate 14 0 ++
    littleEndian16 cluster ++ List.replicate 4 0

def nodeEntry : FatNode → Except Exception Bytes
  | .directory shortName extent _ => do
    let firstCluster ← checkedUShort extent.startCluster
    pure (directoryEntry casing shortName.units [] 0x10 firstCluster 0)
  | .file shortName shortExtension extent data => do
    let firstCluster ← checkedUShort extent.startCluster
    let size ← checkedUInt data.length
    pure (directoryEntry casing shortName.units shortExtension.units 0x20 firstCluster size)

def writeNodeEntries (span : Bytes) (index : Nat) : List FatNode → Except Exception Bytes
  | [] => pure span
  | child :: rest => do
    let span ← writeSlice span (index * 32) 32 (nodeEntry casing child)
    writeNodeEntries span (index + 1) rest

-- ---------------------------------------------------------------------------
-- Clusters
-- ---------------------------------------------------------------------------

def getClusterSpan (disk : Bytes) (cluster : Int) : Except Exception Int := do
  let sector := int32 (firstDataSector + int32 (int32 (cluster - 2) * sectorsPerCluster))
  let offset := int32 (sector * bytesPerSector)
  throwIf (¬ (0 ≤ offset ∧ offset + clusterSizeBytes ≤ disk.length)) .outOfRange
  pure offset

def writeCluster (data : Bytes) (startCluster : Int) (disk : Bytes) (i : Nat) :
    Except Exception Bytes := do
  let clusterSpan ← getClusterSpan disk (int32 (startCluster + i))
  let disk ← writeAt disk clusterSpan (List.replicate clusterSizeBytes.toNat 0)
  let sourceOffset := int32 (i * clusterSizeBytes)
  if sourceOffset ≥ data.length then pure disk
  else
    let chunkLength := min clusterSizeBytes (data.length - sourceOffset)
    throwIf (¬ (0 ≤ sourceOffset ∧ sourceOffset + chunkLength ≤ data.length)) .outOfRange
    writeAt disk clusterSpan (slice data sourceOffset.toNat chunkLength.toNat)

def writeFileToClusterChain (disk data : Bytes) (extent : Extent) : Except Exception Bytes :=
  (List.range extent.clusterCount.toNat).foldlM (writeCluster data extent.startCluster) disk

def parentCluster : Option Extent → Except Exception UInt16
  | none => .ok 0
  | some parent => checkedUShort parent.startCluster

def directoryBytes (directory : FatDirectory) : Except Exception Bytes := do
  let bytes ← newArray UInt8 (int32 (directory.extent.clusterCount * clusterSizeBytes))
  let bytes ← writeSlice bytes 0 32 do
    let cluster ← checkedUShort directory.extent.startCluster
    pure (specialDirectoryEntry 0x20 cluster)
  let bytes ← writeSlice bytes 32 32 do
    let cluster ← parentCluster directory.parent
    pure (specialDirectoryEntry 0x2E cluster)
  writeNodeEntries casing bytes 2 directory.children

def writeDirectoryClusters (disk : Bytes) (directory : FatDirectory) :
    Except Exception Bytes := do
  let bytes ← directoryBytes casing directory
  writeFileToClusterChain disk bytes directory.extent

def writeRootDirectory (disk : Bytes) (root : List FatNode) : Except Exception Bytes := do
  let rootOffset := (reservedSectors + fatCount * sectorsPerFat) * bytesPerSector
  let rootSpan := List.replicate (rootDirectorySectors * bytesPerSector).toNat 0
  let rootSpan ← writeNodeEntries casing rootSpan 0 root
  writeAt disk rootOffset rootSpan

-- ---------------------------------------------------------------------------
-- The partition
-- ---------------------------------------------------------------------------

def linkAll (fatEntries : List UInt16) (root : List FatNode) : Except Exception (List UInt16) := do
  let fatEntries ← (collectDirectories none root).foldlM
    (fun fatEntries directory => linkClusterChain fatEntries directory.extent) fatEntries
  (collectFiles root).foldlM
    (fun fatEntries file => linkClusterChain fatEntries file.extent) fatEntries

def writeAll (disk : Bytes) (root : List FatNode) : Except Exception Bytes := do
  let disk ← (collectDirectories none root).foldlM (writeDirectoryClusters casing) disk
  (collectFiles root).foldlM
    (fun disk file => writeFileToClusterChain disk file.data file.extent) disk

def buildEfiSystemPartition (bootx64 : Bytes) (runtimeFiles : List RuntimePackageFile) :
    Except Exception Bytes := do
  let disk ← newArray UInt8 (totalSectors * bytesPerSector)
  let (root, nextCluster) := allocate (buildTree casing bootx64 runtimeFiles)
  throwIf (int32 (firstDataSector + int32 (int32 (nextCluster - 2) * sectorsPerCluster)) >
    totalSectors) (.invalidOperation "The EFI system partition ran out of space.")
  let fatEntries ← newArray UInt16 (int32 (nextCluster + 1))
  let fatEntries ← writeAt fatEntries 0 [0xFF0]
  let fatEntries ← writeAt fatEntries 1 [0xFFF]
  let fatEntries ← linkAll fatEntries root
  let disk ← writeBootSector disk
  let disk ← writeFatCopies disk fatEntries
  let disk ← writeRootDirectory casing disk root
  writeAll casing disk root

end

end DragonOS.Build
