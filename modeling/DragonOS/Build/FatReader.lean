import DragonOS.Build.IsoReader
import DragonOS.Lib.Chains
import DragonOS.Lib.Packed12

/-!
# Reading a FAT12 image

A reader that knows nothing of how an image was built: it takes the geometry from the BIOS
parameter block, follows chains in the first copy of the table and finds files by the
entries of the directories that lead to them.
-/

namespace DragonOS.Build

open Lib

namespace FatReader

open IsoReader (littleEndianValue)

-- ---------------------------------------------------------------------------
-- The BIOS parameter block
-- ---------------------------------------------------------------------------

structure Volume where
  bytesPerSector : Nat
  sectorsPerCluster : Nat
  reservedSectors : Nat
  fatCount : Nat
  rootEntryCount : Nat
  sectorsPerFat : Nat
  deriving DecidableEq, Repr

def readVolume (image : Bytes) : Volume where
  bytesPerSector := littleEndianValue (slice image 11 2)
  sectorsPerCluster := littleEndianValue (slice image 13 1)
  reservedSectors := littleEndianValue (slice image 14 2)
  fatCount := littleEndianValue (slice image 16 1)
  rootEntryCount := littleEndianValue (slice image 17 2)
  sectorsPerFat := littleEndianValue (slice image 22 2)

namespace Volume

def rootSector (volume : Volume) : Nat :=
  volume.reservedSectors + volume.fatCount * volume.sectorsPerFat

def dataSector (volume : Volume) : Nat :=
  volume.rootSector +
    (volume.rootEntryCount * 32 + volume.bytesPerSector - 1) / volume.bytesPerSector

variable (volume : Volume) (image : Bytes)

def firstFat : Bytes :=
  slice image (volume.reservedSectors * volume.bytesPerSector)
    (volume.sectorsPerFat * volume.bytesPerSector)

def rootDirectory : Bytes :=
  slice image (volume.rootSector * volume.bytesPerSector) (volume.rootEntryCount * 32)

def cluster (number : Nat) : Bytes :=
  slice image ((volume.dataSector + (number - 2) * volume.sectorsPerCluster) * volume.bytesPerSector)
    (volume.sectorsPerCluster * volume.bytesPerSector)

def chain (start : Nat) : Option Bytes :=
  let fat := volume.firstFat image
  (follow (entry12 fat) (0xFF8 ≤ ·) (fat.length * 2 / 3) start).map
    (·.flatMap (volume.cluster image))

end Volume

-- ---------------------------------------------------------------------------
-- Directories
-- ---------------------------------------------------------------------------

structure Entry where
  name : Bytes
  isDirectory : Bool
  firstCluster : Nat
  size : Nat
  deriving DecidableEq, Repr

def readEntry (record : Bytes) : Entry where
  name := slice record 0 11
  isDirectory := record.getD 11 0 &&& 0x10 ≠ 0
  firstCluster := littleEndianValue (slice record 26 2)
  size := littleEndianValue (slice record 28 4)

/-- A record that has not been deleted and is neither `.` nor `..` nor a label. -/
def isNamed (record : Bytes) : Bool :=
  record.getD 0 0 ≠ 0xE5 && record.getD 0 0 ≠ 0x2E && (record.getD 11 0 &&& 0x08 = 0)

/-- A record that starts with a zero is behind the last one. -/
def readRecords : (count : Nat) → Bytes → List Entry
  | 0, _ => []
  | count + 1, bytes =>
    if bytes.getD 0 0 = 0 then []
    else if isNamed (bytes.take 32) then
      readEntry (bytes.take 32) :: readRecords count (bytes.drop 32)
    else readRecords count (bytes.drop 32)

def readEntries (directory : Bytes) : List Entry := readRecords (directory.length / 32) directory

section
variable (image : Bytes)

def directoriesBelow : List Bytes → Bytes → List Bytes
  | [], directory => [directory]
  | name :: names, directory =>
    ((readEntries directory).filter fun entry => entry.isDirectory && entry.name = name).flatMap
      fun entry =>
        ((readVolume image).chain image entry.firstCluster).toList.flatMap (directoriesBelow names)

def entriesAt (names : List Bytes) : List Entry :=
  (directoriesBelow image names ((readVolume image).rootDirectory image)).flatMap readEntries

def subdirectoriesAt (names : List Bytes) (name : Bytes) : List Entry :=
  (entriesAt image names).filter fun entry => entry.isDirectory && entry.name = name

def filesAt (names : List Bytes) (name : Bytes) : List Entry :=
  (entriesAt image names).filter fun entry => !entry.isDirectory && entry.name = name

def readFile (entry : Entry) : Option Bytes :=
  ((readVolume image).chain image entry.firstCluster).map (·.take entry.size)

end

end FatReader

end DragonOS.Build
