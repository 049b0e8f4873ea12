import DragonOS.Build.IsoReading

/-!
# The EFI application

The builder wraps a section of code in a PE32+ file. A loader that takes everything from
the headers maps the section to where the headers say, and jumps into it at the given
offset (`buildEfiApplication_loads`).
-/

namespace DragonOS.Build

open Lib
open IsoReader (littleEndianValue)

-- ---------------------------------------------------------------------------
-- The builder
-- ---------------------------------------------------------------------------

def littleEndian64 (value : UInt64) : Bytes :=
  littleEndian32 value.toUInt32 ++ littleEndian32 (value >>> 32).toUInt32

/-- In a checked context a sum must be an `int`. -/
def checkedInt (value : Int) : Except Exception Int :=
  if -2 ^ 31 ≤ value ∧ value < 2 ^ 31 then .ok value else .error .overflow

namespace PortableExecutableBuilder

def fileAlignment : Int := 0x200
def sectionAlignment : Int := 0x1000
def sectionRva : Int := 0x1000
def headersSize : Int := 0x200

def alignUp (value alignment : Int) : Int :=
  int32 ((int32 (value + alignment - 1)).tdiv alignment * alignment)

def peOffset : Nat := 0x80
def fileHeader : Nat := peOffset + 4
def optionalHeader : Nat := fileHeader + 20
def sectionHeader : Nat := optionalHeader + 0xF0

/-- `WriteAscii` clears the field first. -/
def asciiField (length : Nat) (value : String) : Bytes := fillTo 0 length (asciiBytes value)

def headerFields (rawSectionSize entryPoint imageSize sectionLength : UInt32) : List (Nat × Bytes) :=
  [(0, asciiBytes "M"), (1, asciiBytes "Z"), (0x3C, littleEndian32 0x80),
    (peOffset, asciiBytes "P"), (peOffset + 1, asciiBytes "E"), (peOffset + 2, [0]),
    (peOffset + 3, [0]),
    (fileHeader, littleEndian16 0x8664), (fileHeader + 2, littleEndian16 1),
    (fileHeader + 16, littleEndian16 0xF0), (fileHeader + 18, littleEndian16 0x22),
    (optionalHeader, littleEndian16 0x20B), (optionalHeader + 2, [1]), (optionalHeader + 3, [0]),
    (optionalHeader + 4, littleEndian32 rawSectionSize),
    (optionalHeader + 16, littleEndian32 entryPoint), (optionalHeader + 20, littleEndian32 0x1000),
    (optionalHeader + 24, littleEndian64 0x100000), (optionalHeader + 32, littleEndian32 0x1000),
    (optionalHeader + 36, littleEndian32 0x200), (optionalHeader + 40, littleEndian16 2),
    (optionalHeader + 48, littleEndian16 2), (optionalHeader + 56, littleEndian32 imageSize),
    (optionalHeader + 60, littleEndian32 0x200), (optionalHeader + 68, littleEndian16 10),
    (optionalHeader + 70, littleEndian16 0), (optionalHeader + 72, littleEndian64 0x100000),
    (optionalHeader + 80, littleEndian64 0x1000), (optionalHeader + 88, littleEndian64 0x100000),
    (optionalHeader + 96, littleEndian64 0x1000), (optionalHeader + 108, littleEndian32 16),
    (sectionHeader, asciiField 8 ".text"), (sectionHeader + 8, littleEndian32 sectionLength),
    (sectionHeader + 12, littleEndian32 0x1000), (sectionHeader + 16, littleEndian32 rawSectionSize),
    (sectionHeader + 20, littleEndian32 0x200), (sectionHeader + 36, littleEndian32 0x60000020)]

def buildEfiApplication (sectionBytes : Bytes) (entryPointOffset : Int) : Except Exception Bytes := do
  let rawSectionSize := alignUp sectionBytes.length fileAlignment
  let imageSize := alignUp (int32 (sectionRva + sectionBytes.length)) sectionAlignment
  let image ← newArray UInt8 (int32 (headersSize + rawSectionSize))
  let entryPoint ← checkedInt (sectionRva + entryPointOffset)
  let image ← writeFields image (headerFields (← checkedUInt rawSectionSize) (← checkedUInt entryPoint)
    (← checkedUInt imageSize) (← checkedUInt sectionBytes.length))
  writeAt image headersSize sectionBytes

end PortableExecutableBuilder

-- ---------------------------------------------------------------------------
-- A loader
-- ---------------------------------------------------------------------------

namespace PeLoader

structure SectionHeader where
  virtualSize : Nat
  virtualAddress : Nat
  sizeOfRawData : Nat
  pointerToRawData : Nat
  deriving DecidableEq, Repr

structure Headers where
  sizeOfCode : Nat
  addressOfEntryPoint : Nat
  baseOfCode : Nat
  sectionAlignment : Nat
  fileAlignment : Nat
  sizeOfImage : Nat
  sizeOfHeaders : Nat
  sectionTable : Nat
  sections : List SectionHeader
  deriving DecidableEq, Repr

section
variable (file : Bytes)

def word16 (offset : Nat) : Nat := littleEndianValue (slice file offset 2)

def word32 (offset : Nat) : Nat := littleEndianValue (slice file offset 4)

def readSection (offset : Nat) : SectionHeader where
  virtualSize := word32 file (offset + 8)
  virtualAddress := word32 file (offset + 12)
  sizeOfRawData := word32 file (offset + 16)
  pointerToRawData := word32 file (offset + 20)

def readHeaders : Option Headers := do
  guard (slice file 0 2 = asciiBytes "MZ")
  let signature := word32 file 0x3C
  guard (slice file signature 4 = asciiBytes "PE" ++ [0, 0])
  let fileHeader := signature + 4
  guard (word16 file fileHeader = 0x8664)
  let optionalHeader := fileHeader + 20
  guard (word16 file optionalHeader = 0x20B)
  let sectionTable := optionalHeader + word16 file (fileHeader + 16)
  some
    { sizeOfCode := word32 file (optionalHeader + 4)
      addressOfEntryPoint := word32 file (optionalHeader + 16)
      baseOfCode := word32 file (optionalHeader + 20)
      sectionAlignment := word32 file (optionalHeader + 32)
      fileAlignment := word32 file (optionalHeader + 36)
      sizeOfImage := word32 file (optionalHeader + 56)
      sizeOfHeaders := word32 file (optionalHeader + 60)
      sectionTable
      sections := (List.range (word16 file (fileHeader + 2))).map fun i =>
        readSection file (sectionTable + i * 40) }

/-- What a section has in the file goes to its address; the rest of it is cleared. -/
def mapSection (image : Bytes) (header : SectionHeader) : Bytes :=
  overwrite image header.virtualAddress
    (slice file header.pointerToRawData (min header.virtualSize header.sizeOfRawData))

def mapImage (headers : Headers) : Bytes :=
  headers.sections.foldl (mapSection file)
    (overwrite (List.replicate headers.sizeOfImage 0) 0 (slice file 0 headers.sizeOfHeaders))

end

end PeLoader

-- ---------------------------------------------------------------------------
-- What is built
-- ---------------------------------------------------------------------------

namespace PortableExecutableBuilder

def aligned (value alignment : Nat) : Nat := (value + alignment - 1) / alignment * alignment

theorem alignUp_eq (value alignment : Nat) (hpositive : 0 < alignment)
    (hsmall : value + alignment < 2 ^ 31) : alignUp value alignment = aligned value alignment := by
  have hsum : int32 ((value : Int) + alignment - 1) = ((value + alignment - 1 : Nat) : Int) := by
    rw [int32_eq (by omega) (by omega)]
    omega
  have hround : aligned value alignment ≤ value + alignment - 1 := Nat.div_mul_le_self _ _
  have hquotient : ((value + alignment - 1 : Nat) : Int).tdiv alignment * alignment =
      aligned value alignment := by
    rw [← Int.ofNat_tdiv, ← Int.natCast_mul, aligned]
  rw [alignUp, hsum, hquotient, int32_eq (by omega) (by omega)]

theorem le_aligned (value : Nat) (hpositive : 0 < alignment) : value ≤ aligned value alignment := by
  have hdiv := Nat.div_add_mod (value + alignment - 1) alignment
  have hmod := Nat.mod_lt (value + alignment - 1) hpositive
  rw [Nat.mul_comm, ← aligned] at hdiv
  omega

theorem dvd_aligned (value alignment : Nat) : alignment ∣ aligned value alignment :=
  Nat.dvd_mul_left _ _

theorem inOrder_headerFields (rawSectionSize entryPoint imageSize sectionLength : UInt32) :
    InOrder 0 0x200 (headerFields rawSectionSize entryPoint imageSize sectionLength) := by
  simp [headerFields, InOrder, peOffset, fileHeader, optionalHeader, sectionHeader, asciiBytes,
    asciiChar, littleEndian64, asciiField]

section
variable (sectionBytes : Bytes) (entryPointOffset : Nat)

def fileRegions : List (Nat × Bytes) :=
  headerFields (UInt32.ofNat (aligned sectionBytes.length 0x200))
    (UInt32.ofNat (0x1000 + entryPointOffset))
    (UInt32.ofNat (aligned (0x1000 + sectionBytes.length) 0x1000))
    (UInt32.ofNat sectionBytes.length) ++ [(0x200, sectionBytes)]

def clearedFile : Bytes := List.replicate (0x200 + aligned sectionBytes.length 0x200) 0

def efiApplication : Bytes :=
  putRegions (clearedFile sectionBytes) (fileRegions sectionBytes entryPointOffset)

end

section
variable {sectionBytes : Bytes} {entryPointOffset : Nat}

theorem length_clearedFile :
    (clearedFile sectionBytes).length = 0x200 + aligned sectionBytes.length 0x200 :=
  List.length_replicate

theorem inOrder_fileRegions : InOrder 0 (clearedFile sectionBytes).length
    (fileRegions sectionBytes entryPointOffset) := by
  have hle := @le_aligned 0x200 sectionBytes.length (by decide)
  refine (inOrder_headerFields ..).append ⟨Nat.le_refl _, ?_⟩
  rw [length_clearedFile]
  exact Nat.add_le_add_left hle _

theorem buildEfiApplication_eq (hlength : sectionBytes.length ≤ 2 ^ 30)
    (hentry : entryPointOffset < sectionBytes.length) :
    buildEfiApplication sectionBytes entryPointOffset =
      .ok (efiApplication sectionBytes entryPointOffset) := by
  have hraw := alignUp_eq sectionBytes.length 0x200 (by decide) (by omega)
  have hsize := alignUp_eq (0x1000 + sectionBytes.length) 0x1000 (by decide) (by omega)
  have hrawLe : aligned sectionBytes.length 0x200 ≤ sectionBytes.length + 0x200 - 1 :=
    Nat.div_mul_le_self _ _
  have hsizeLe : aligned (0x1000 + sectionBytes.length) 0x1000 ≤
      0x1000 + sectionBytes.length + 0x1000 - 1 := Nat.div_mul_le_self _ _
  have hend : int32 (sectionRva + sectionBytes.length) = ((0x1000 + sectionBytes.length : Nat) : Int) := by
    rw [int32_eq (by rw [sectionRva]; omega) (by rw [sectionRva]; omega), sectionRva]
    omega
  have hfile : int32 (headersSize + (aligned sectionBytes.length 0x200 : Nat)) =
      ((0x200 + aligned sectionBytes.length 0x200 : Nat) : Int) := by
    rw [int32_eq (by rw [headersSize]; omega) (by rw [headersSize]; omega), headersSize]
    omega
  have hinOrder := @inOrder_fileRegions sectionBytes entryPointOffset
  unfold buildEfiApplication
  simp only [fileAlignment, sectionAlignment, hend]
  rw [show (0x200 : Int) = ((0x200 : Nat) : Int) from rfl, hraw,
    show (0x1000 : Int) = ((0x1000 : Nat) : Int) from rfl, hsize, hfile]
  refine bind_ok.mpr ⟨clearedFile sectionBytes, newArray_ok.mpr ⟨Int.natCast_nonneg _, rfl⟩, ?_⟩
  refine bind_ok.mpr ⟨((0x1000 + entryPointOffset : Nat) : Int), ?_, ?_⟩
  · rw [checkedInt, sectionRva, if_pos (by omega)]
    rfl
  refine bind_ok.mpr ⟨_, checkedUInt_ok.mpr ⟨Int.natCast_nonneg _, by omega, rfl⟩, ?_⟩
  refine bind_ok.mpr ⟨_, checkedUInt_ok.mpr ⟨Int.natCast_nonneg _, by omega, rfl⟩, ?_⟩
  refine bind_ok.mpr ⟨_, checkedUInt_ok.mpr ⟨Int.natCast_nonneg _, by omega, rfl⟩, ?_⟩
  refine bind_ok.mpr ⟨_, checkedUInt_ok.mpr ⟨Int.natCast_nonneg _, by omega, rfl⟩, ?_⟩
  simp only [Int.toNat_natCast]
  refine bind_ok.mpr ⟨_, writeFields_ok hinOrder.left, ?_⟩
  have hlength := length_putRegions hinOrder.left
  have hle := @le_aligned 0x200 sectionBytes.length (by decide)
  refine writeAt_ok.mpr ⟨by decide, ?_, ?_⟩
  · rw [hlength, length_clearedFile, headersSize]
    omega
  · rw [efiApplication, fileRegions, putRegions_append]
    rfl

-- ---------------------------------------------------------------------------
-- What is loaded
-- ---------------------------------------------------------------------------

open PeLoader
open IsoReader (HoldsFields)

theorem slice_append {buffer first second : Bytes} {offset next : Nat}
    (hfirst : slice buffer offset first.length = first)
    (hsecond : slice buffer next second.length = second) (hnext : next = offset + first.length) :
    slice buffer offset (first ++ second).length = first ++ second := by
  rw [List.length_append, slice_add, hfirst, ← hnext, hsecond]

section
variable {file : Bytes} {rawSectionSize entryPoint imageSize sectionLength : UInt32}

theorem signatures_headerFields
    (h : HoldsFields file (headerFields rawSectionSize entryPoint imageSize sectionLength)) :
    slice file 0 2 = asciiBytes "MZ" ∧ slice file 0x80 4 = asciiBytes "PE" ++ [0, 0] := by
  have hbyte (offset : Nat) (byte : UInt8) (hmem : (offset, [byte]) ∈
      headerFields rawSectionSize entryPoint imageSize sectionLength) :
      slice file offset [byte].length = [byte] := h _ _ hmem
  have hzeros := slice_append (hbyte 0x82 0 (by simp [headerFields, peOffset]))
    (hbyte 0x83 0 (by simp [headerFields, peOffset])) rfl
  have hletters := slice_append
    (hbyte 0x81 0x45 (by simp [headerFields, peOffset, asciiBytes, asciiChar])) hzeros rfl
  exact ⟨slice_append (hbyte 0 0x4D (by simp [headerFields, asciiBytes, asciiChar]))
      (hbyte 1 0x5A (by simp [headerFields, asciiBytes, asciiChar])) rfl,
    slice_append (hbyte 0x80 0x50 (by simp [headerFields, peOffset, asciiBytes, asciiChar]))
      hletters rfl⟩

theorem readSection_headerFields
    (h : HoldsFields file (headerFields rawSectionSize entryPoint imageSize sectionLength)) :
    readSection file sectionHeader =
      { virtualSize := sectionLength.toNat
        virtualAddress := 0x1000
        sizeOfRawData := rawSectionSize.toNat
        pointerToRawData := 0x200 } := by
  have hvirtual : word32 file (sectionHeader + 8) = sectionLength.toNat :=
    h.word32_eq (by simp [headerFields])
  have haddress : word32 file (sectionHeader + 12) = (0x1000 : UInt32).toNat :=
    h.word32_eq (by simp [headerFields])
  have hraw : word32 file (sectionHeader + 16) = rawSectionSize.toNat :=
    h.word32_eq (by simp [headerFields])
  have hpointer : word32 file (sectionHeader + 20) = (0x200 : UInt32).toNat :=
    h.word32_eq (by simp [headerFields])
  rw [readSection, hvirtual, haddress, hraw, hpointer]
  rfl

theorem readHeaders_headerFields
    (h : HoldsFields file (headerFields rawSectionSize entryPoint imageSize sectionLength)) :
    readHeaders file = some
      { sizeOfCode := rawSectionSize.toNat
        addressOfEntryPoint := entryPoint.toNat
        baseOfCode := 0x1000
        sectionAlignment := 0x1000
        fileAlignment := 0x200
        sizeOfImage := imageSize.toNat
        sizeOfHeaders := 0x200
        sectionTable := sectionHeader
        sections := [readSection file sectionHeader] } := by
  obtain ⟨hmz, hsignature⟩ := signatures_headerFields h
  have hpe : word32 file 0x3C = (0x80 : UInt32).toNat := h.word32_eq (by simp [headerFields])
  have hmachine : word16 file fileHeader = (0x8664 : UInt16).toNat := h.word16_eq (by simp [headerFields])
  have hcount : word16 file (fileHeader + 2) = (1 : UInt16).toNat := h.word16_eq (by simp [headerFields])
  have hlength : word16 file (fileHeader + 16) = (0xF0 : UInt16).toNat :=
    h.word16_eq (by simp [headerFields])
  have hmagic : word16 file optionalHeader = (0x20B : UInt16).toNat :=
    h.word16_eq (by simp [headerFields])
  have hcode : word32 file (optionalHeader + 4) = rawSectionSize.toNat :=
    h.word32_eq (by simp [headerFields])
  have hentry : word32 file (optionalHeader + 16) = entryPoint.toNat :=
    h.word32_eq (by simp [headerFields])
  have hbase : word32 file (optionalHeader + 20) = (0x1000 : UInt32).toNat :=
    h.word32_eq (by simp [headerFields])
  have hsectionAlignment : word32 file (optionalHeader + 32) = (0x1000 : UInt32).toNat :=
    h.word32_eq (by simp [headerFields])
  have hfileAlignment : word32 file (optionalHeader + 36) = (0x200 : UInt32).toNat :=
    h.word32_eq (by simp [headerFields])
  have himage : word32 file (optionalHeader + 56) = imageSize.toNat :=
    h.word32_eq (by simp [headerFields])
  have hheaders : word32 file (optionalHeader + 60) = (0x200 : UInt32).toNat :=
    h.word32_eq (by simp [headerFields])
  have hfileHeader : (0x80 : UInt32).toNat + 4 = fileHeader := rfl
  have hoptionalHeader : fileHeader + 20 = optionalHeader := rfl
  have hsection : optionalHeader + (0xF0 : UInt16).toNat = sectionHeader := rfl
  rw [show 0x80 = (0x80 : UInt32).toNat from rfl] at hsignature
  unfold readHeaders
  simp only [hmz, hpe, hsignature, hfileHeader, hmachine, hoptionalHeader, hmagic, hlength, hsection,
    hcode, hentry, hbase, hsectionAlignment, hfileAlignment, himage, hheaders, hcount]
  rfl

end

theorem holdsFields_efiApplication : HoldsFields (efiApplication sectionBytes entryPointOffset)
    (fileRegions sectionBytes entryPointOffset) :=
  fun _ _ hmem => slice_putRegions inOrder_fileRegions hmem

def sectionOf (sectionBytes : Bytes) : SectionHeader where
  virtualSize := sectionBytes.length
  virtualAddress := 0x1000
  sizeOfRawData := aligned sectionBytes.length 0x200
  pointerToRawData := 0x200

def headersOf (sectionBytes : Bytes) (entryPointOffset : Nat) : Headers where
  sizeOfCode := aligned sectionBytes.length 0x200
  addressOfEntryPoint := 0x1000 + entryPointOffset
  baseOfCode := 0x1000
  sectionAlignment := 0x1000
  fileAlignment := 0x200
  sizeOfImage := aligned (0x1000 + sectionBytes.length) 0x1000
  sizeOfHeaders := 0x200
  sectionTable := 0x188
  sections := [sectionOf sectionBytes]

theorem readHeaders_efiApplication (hlength : sectionBytes.length ≤ 2 ^ 30)
    (hentry : entryPointOffset < sectionBytes.length) :
    readHeaders (efiApplication sectionBytes entryPointOffset) =
      some (headersOf sectionBytes entryPointOffset) := by
  have hrawLe : aligned sectionBytes.length 0x200 ≤ sectionBytes.length + 0x200 - 1 :=
    Nat.div_mul_le_self _ _
  have hsizeLe : aligned (0x1000 + sectionBytes.length) 0x1000 ≤
      0x1000 + sectionBytes.length + 0x1000 - 1 := Nat.div_mul_le_self _ _
  have hword (value : Nat) (hvalue : value < 2 ^ 32) : (UInt32.ofNat value).toNat = value :=
    UInt32.toNat_ofNat_of_lt' hvalue
  have hfields : HoldsFields (efiApplication sectionBytes entryPointOffset) (headerFields _ _ _ _) :=
    fun offset bytes hmem => holdsFields_efiApplication offset bytes (List.mem_append_left _ hmem)
  rw [readHeaders_headerFields hfields, readSection_headerFields hfields, hword _ (by omega), hword _ (by omega),
    hword _ (by omega), hword _ (by omega)]
  rfl

theorem length_efiApplication : (efiApplication sectionBytes entryPointOffset).length =
    0x200 + aligned sectionBytes.length 0x200 :=
  (length_putRegions inOrder_fileRegions).trans length_clearedFile

theorem mapImage_efiApplication :
    mapImage (efiApplication sectionBytes entryPointOffset) (headersOf sectionBytes entryPointOffset) =
      overwrite (overwrite (List.replicate (aligned (0x1000 + sectionBytes.length) 0x1000) 0) 0
        (slice (efiApplication sectionBytes entryPointOffset) 0 0x200)) 0x1000 sectionBytes := by
  have hraw : min sectionBytes.length (aligned sectionBytes.length 0x200) = sectionBytes.length :=
    Nat.min_eq_left (le_aligned _ (by decide))
  have hsection : slice (efiApplication sectionBytes entryPointOffset) 0x200 sectionBytes.length =
      sectionBytes :=
    holdsFields_efiApplication _ _ (List.mem_append_right _ (List.mem_singleton_self _))
  rw [mapImage, headersOf, List.foldl_cons, List.foldl_nil, mapSection, sectionOf]
  simp only [hraw, hsection]

theorem length_headersImage : (overwrite
    (List.replicate (aligned (0x1000 + sectionBytes.length) 0x1000) (0 : UInt8)) 0
      (slice (efiApplication sectionBytes entryPointOffset) 0 0x200)).length =
        aligned (0x1000 + sectionBytes.length) 0x1000 := by
  have hsize := @le_aligned 0x1000 (0x1000 + sectionBytes.length) (by decide)
  have hslice : (slice (efiApplication sectionBytes entryPointOffset) 0 0x200).length = 0x200 :=
    length_slice (by rw [length_efiApplication]; omega)
  rw [length_overwrite, List.length_replicate]
  rw [hslice, List.length_replicate]
  omega

end

end PortableExecutableBuilder

section
open PeLoader PortableExecutableBuilder

/-- The headers describe one layout of the file and of the image, and the section is where
they say. -/
structure Loads (sectionBytes : Bytes) (entryPointOffset : Nat) (file : Bytes) (headers : Headers)
    (header : SectionHeader) : Prop where
  sections : headers.sections = [header]
  size : (mapImage file headers).length = headers.sizeOfImage
  mapped : ∀ k < sectionBytes.length, (mapImage file headers)[0x1000 + k]? = sectionBytes[k]?
  entry : headers.addressOfEntryPoint = header.virtualAddress + entryPointOffset
  entryInside : entryPointOffset < min header.virtualSize header.sizeOfRawData
  tableInside : headers.sectionTable + 40 * headers.sections.length ≤ headers.sizeOfHeaders
  rawBehindHeaders : headers.sizeOfHeaders ≤ header.pointerToRawData
  rawInside : header.pointerToRawData + header.sizeOfRawData ≤ file.length
  mappedBehindHeaders : headers.sizeOfHeaders ≤ header.virtualAddress
  mappedInside : header.virtualAddress + header.virtualSize ≤ headers.sizeOfImage
  fileAligned : ∀ value ∈ [headers.sizeOfHeaders, headers.sizeOfCode, header.sizeOfRawData,
    header.pointerToRawData], headers.fileAlignment ∣ value
  imageAligned : ∀ value ∈ [headers.sizeOfImage, headers.baseOfCode, header.virtualAddress],
    headers.sectionAlignment ∣ value

theorem buildEfiApplication_loads (sectionBytes : Bytes) (entryPointOffset : Nat)
    (hlength : sectionBytes.length ≤ 2 ^ 30) (hentry : entryPointOffset < sectionBytes.length) :
    ∃ file headers header, buildEfiApplication sectionBytes entryPointOffset = .ok file ∧
      readHeaders file = some headers ∧ Loads sectionBytes entryPointOffset file headers header := by
  have hraw := @le_aligned 0x200 sectionBytes.length (by decide)
  have hsize := @le_aligned 0x1000 (0x1000 + sectionBytes.length) (by decide)
  have himage := @length_headersImage sectionBytes entryPointOffset
  refine ⟨_, headersOf sectionBytes entryPointOffset, sectionOf sectionBytes,
    buildEfiApplication_eq hlength hentry, readHeaders_efiApplication hlength hentry, ?_⟩
  have hfits : 0x1000 + sectionBytes.length ≤ (overwrite
      (List.replicate (aligned (0x1000 + sectionBytes.length) 0x1000) (0 : UInt8)) 0
        (slice (efiApplication sectionBytes entryPointOffset) 0 0x200)).length := by
    rwa [himage]
  constructor
  case sections => rfl
  case size => rw [mapImage_efiApplication, length_overwrite hfits, himage]; rfl
  case mapped =>
    intro k hk
    rw [mapImage_efiApplication, getElem?_overwrite hfits, if_pos (by omega), Nat.add_sub_cancel_left]
  case entry => rfl
  case entryInside =>
    rw [sectionOf, Nat.min_eq_left hraw]
    exact hentry
  case tableInside =>
    show 0x188 + 40 * 1 ≤ 0x200
    decide
  case rawBehindHeaders => exact Nat.le_refl _
  case rawInside => rw [length_efiApplication]; rfl
  case mappedBehindHeaders =>
    show 0x200 ≤ 0x1000
    decide
  case mappedInside => exact hsize
  case fileAligned =>
    simp only [List.forall_mem_cons, List.not_mem_nil, false_implies, implies_true, and_true]
    exact ⟨Nat.dvd_refl _, dvd_aligned _ _, dvd_aligned _ _, Nat.dvd_refl _⟩
  case imageAligned =>
    simp only [List.forall_mem_cons, List.not_mem_nil, false_implies, implies_true, and_true]
    exact ⟨dvd_aligned _ _, Nat.dvd_refl _, Nat.dvd_refl _⟩

theorem buildEfiApplication_loads_ret :
    ∃ file headers header, buildEfiApplication [0x90, 0xC3] 1 = .ok file ∧
      readHeaders file = some headers ∧ Loads [0x90, 0xC3] 1 file headers header :=
  buildEfiApplication_loads [0x90, 0xC3] 1 (by decide) (by decide)

end

end DragonOS.Build
