import DragonOS.Build.IsoImage

/-!
# Reading an ISO image

A reader of ISO 9660 and of the boot record in front of it. It knows nothing of how an
image was built: it starts from the primary volume descriptor and from the boot record,
and takes every place from what it reads.
-/

namespace DragonOS.Build

open Lib

namespace IsoReader

-- ---------------------------------------------------------------------------
-- Numbers
-- ---------------------------------------------------------------------------

def littleEndianValue (bytes : Bytes) : Nat :=
  bytes.foldr (fun byte value => byte.toNat + 256 * value) 0

def bigEndianValue (bytes : Bytes) : Nat := littleEndianValue bytes.reverse

def bothEndianValue (bytes : Bytes) (offset width : Nat) : Option Nat :=
  let value := littleEndianValue (slice bytes offset width)
  if bigEndianValue (slice bytes (offset + width) width) = value then some value else none

-- ---------------------------------------------------------------------------
-- Directories
-- ---------------------------------------------------------------------------

def blockSize : Nat := 2048

structure Record where
  lba : Nat
  size : Nat
  isDirectory : Bool
  identifier : Bytes
  deriving DecidableEq, Repr

def readRecord (bytes : Bytes) : Option Record := do
  let length : UInt8 ← bytes[0]?
  let identifierLength : UInt8 ← bytes[32]?
  guard (33 + identifierLength.toNat ≤ length.toNat ∧ length.toNat ≤ bytes.length)
  let lba ← bothEndianValue bytes 2 4
  let size ← bothEndianValue bytes 10 4
  let flags : UInt8 ← bytes[25]?
  some { lba, size, isDirectory := flags &&& 0x02 ≠ 0,
         identifier := slice bytes 33 identifierLength.toNat }

/-- What is left of a directory where a sector has no more records. -/
def nextSector (bytes : Bytes) : Bytes :=
  bytes.drop (if bytes.length % blockSize = 0 then blockSize else bytes.length % blockSize)

def readRecords : (fuel : Nat) → Bytes → Option (List Record)
  | _, [] => some []
  | 0, _ => none
  | fuel + 1, length :: rest =>
    if length = 0 then readRecords fuel (nextSector (length :: rest))
    else do
      let record ← readRecord (length :: rest)
      let records ← readRecords fuel ((length :: rest).drop length.toNat)
      some (record :: records)

section
variable (iso : Bytes)

def readExtent (lba size : Nat) : Option Bytes :=
  if lba * blockSize + size ≤ iso.length then some (slice iso (lba * blockSize) size) else none

def findRecord (directory : Record) (identifier : Bytes) : Option Record := do
  guard directory.isDirectory
  let bytes ← readExtent iso directory.lba directory.size
  let records ← readRecords bytes.length bytes
  records.find? fun record => record.identifier = identifier

def follow (directory : Record) (path : List Bytes) : Option Record :=
  path.foldlM (findRecord iso) directory

-- ---------------------------------------------------------------------------
-- Volume descriptors
-- ---------------------------------------------------------------------------

structure Volume where
  size : Nat
  pathTableSize : Nat
  littlePathTable : Nat
  bigPathTable : Nat
  root : Record
  deriving DecidableEq, Repr

def isDescriptor (sector : Bytes) (type : UInt8) : Bool :=
  sector[0]? = some type && slice sector 1 5 = asciiBytes "CD001" && sector[6]? = some 1

def primaryVolume : Option Volume := do
  let sector ← readExtent iso 16 blockSize
  guard (isDescriptor sector 1)
  let size ← bothEndianValue sector 80 4
  let logicalBlockSize ← bothEndianValue sector 128 2
  guard (logicalBlockSize = blockSize)
  let pathTableSize ← bothEndianValue sector 132 4
  let root ← readRecord (slice sector 156 34)
  some
    { size, pathTableSize
      littlePathTable := littleEndianValue (slice sector 140 4)
      bigPathTable := bigEndianValue (slice sector 148 4)
      root }

-- ---------------------------------------------------------------------------
-- Path tables
-- ---------------------------------------------------------------------------

structure PathEntry where
  lba : Nat
  parent : Nat
  identifier : Bytes
  deriving DecidableEq, Repr

section
variable (value : Bytes → Nat)

def readPathEntries : (fuel : Nat) → Bytes → Option (List PathEntry)
  | _, [] => some []
  | 0, _ => none
  | fuel + 1, length :: rest =>
    if rest.length < 7 + length.toNat then none
    else do
      let entries ← readPathEntries fuel
        ((length :: rest).drop (8 + length.toNat + length.toNat % 2))
      some
        ({ lba := value (slice (length :: rest) 2 4), parent := value (slice (length :: rest) 6 2)
           identifier := slice (length :: rest) 8 length.toNat } :: entries)

def readPathTable (lba size : Nat) : Option (List PathEntry) := do
  let bytes ← readExtent iso lba size
  readPathEntries value bytes.length bytes

end

/-- Directories are numbered from 1, the root is its own parent. -/
def findEntry (entries : List PathEntry) (number : Nat) (identifier : Bytes) : Option Nat :=
  (entries.findIdx? fun entry => entry.parent = number ∧ entry.identifier = identifier).map (· + 1)

def followEntries (entries : List PathEntry) (path : List Bytes) : Option Nat := do
  let number ← path.foldlM (findEntry entries) 1
  let entry ← entries[number - 1]?
  some entry.lba

-- ---------------------------------------------------------------------------
-- Booting
-- ---------------------------------------------------------------------------

def bootCatalog : Option Nat := do
  let sector ← readExtent iso 17 blockSize
  guard (isDescriptor sector 0 ∧ slice sector 7 23 = asciiBytes "EL TORITO SPECIFICATION")
  some (littleEndianValue (slice sector 71 4))

def wordSum (entry : Bytes) : Nat :=
  ((List.range 16).map fun i => littleEndianValue (slice entry (2 * i) 2)).sum

def isValidationEntry (entry : Bytes) : Bool :=
  entry[0]? = some 1 && slice entry 30 2 = [0x55, 0xAA] && wordSum entry % 65536 = 0

def bootImage (catalog : Nat) : Option Nat := do
  let sector ← readExtent iso catalog blockSize
  guard (isValidationEntry (slice sector 0 32) ∧ sector[32]? = some 0x88)
  some (littleEndianValue (slice sector 40 4))

-- ---------------------------------------------------------------------------
-- All of it
-- ---------------------------------------------------------------------------

structure Layout where
  volume : Volume
  littleEntries : List PathEntry
  bigEntries : List PathEntry
  efi : Record
  boot : Record
  loader : Record
  catalogFile : Record
  catalog : Nat
  image : Nat
  deriving DecidableEq, Repr

def readLayout : Option Layout := do
  let volume ← primaryVolume iso
  let littleEntries ← readPathTable iso littleEndianValue volume.littlePathTable volume.pathTableSize
  let bigEntries ← readPathTable iso bigEndianValue volume.bigPathTable volume.pathTableSize
  let efi ← follow iso volume.root [asciiBytes "EFI"]
  let boot ← follow iso volume.root [asciiBytes "EFI", asciiBytes "BOOT"]
  let loader ← follow iso volume.root
    [asciiBytes "EFI", asciiBytes "BOOT", asciiBytes "BOOTX64.EFI;1"]
  let catalogFile ← follow iso volume.root [asciiBytes "BOOT.CAT;1"]
  let catalog ← bootCatalog iso
  let image ← bootImage iso catalog
  some { volume, littleEntries, bigEntries, efi, boot, loader, catalogFile, catalog, image }

end

def blocks (size : Nat) : Nat := (size + blockSize - 1) / blockSize

/-- Where the parts of a volume lie, as their first block and the number of blocks. -/
def Layout.extents (layout : Layout) (imageSize : Nat) : List (Nat × Nat) :=
  [(16, 1), (17, 1), (18, 1),
    (layout.volume.littlePathTable, blocks layout.volume.pathTableSize),
    (layout.volume.bigPathTable, blocks layout.volume.pathTableSize),
    (layout.volume.root.lba, blocks layout.volume.root.size),
    (layout.efi.lba, blocks layout.efi.size), (layout.boot.lba, blocks layout.boot.size),
    (layout.catalog, 1), (layout.image, blocks imageSize),
    (layout.loader.lba, blocks layout.loader.size)]

def DisjointExtents (first second : Nat × Nat) : Prop :=
  first.1 + first.2 ≤ second.1 ∨ second.1 + second.2 ≤ first.1

end IsoReader

end DragonOS.Build
