import DragonOS.Build.FatKeeping

/-!
# Names as they are stored

Sanitizing a name again changes nothing, so a directory is found again under its name and
under its short name. A legal short name of a file is stored as it is if it has an extension;
the other ones are given one, `X` (`storesItself_iff`).
-/

namespace DragonOS.Build

open Lib

/-- A legal short name of a file, over the letters and the digits that the builder keeps. -/
structure LegalName where
  name : ShortPart 8
  extension : Option (ShortPart 3)
  deriving DecidableEq

def LegalName.text (legal : LegalName) : Text :=
  match legal.extension with
  | none => legal.name.units
  | some extension => legal.name.units ++ period :: extension.units

/-- The name as it belongs in a record: without an extension, its field is blank. -/
def LegalName.field (legal : LegalName) : Bytes :=
  legal.name.field ++ (legal.extension.map ShortPart.field).getD (List.replicate 3 0x20)

section
variable (casing : Casing)

/-- `addFile` adds a file whose records have the name as it is. -/
def StoresItself (legal : LegalName) : Prop :=
  ∀ (data : Bytes) (children : List FatNode), ∃ kept shortName shortExtension extent,
    addFile casing legal.text data children =
      kept ++ [.file shortName shortExtension extent data] ∧
    ∀ firstCluster size, slice (directoryEntry casing shortName.units shortExtension.units 0x20
      firstCluster size) 0 11 = legal.field

structure Sanitized (maxLength : Nat) [NeZero maxLength] (rawName : Text) : Prop where
  stays : sanitize casing (sanitize casing rawName maxLength).units maxLength =
    sanitize casing rawName maxLength
  ne_nil : (sanitize casing rawName maxLength).units ≠ []
  length_le : (sanitize casing rawName maxLength).units.length ≤ maxLength
  allowed : ∀ unit ∈ (sanitize casing rawName maxLength).units,
    (65 ≤ unit ∧ unit ≤ 90) ∨ (48 ≤ unit ∧ unit ≤ 57)

/-- What is done to the directory of a name, and then to that of its short name or of the name
again, is done to one directory. -/
def FoundAgain (rawName : Text) : Prop :=
  ∀ again, again = rawName ∨ again = (normalizeName casing rawName).units →
    ∀ (children : List FatNode) (first second : List FatNode → List FatNode),
      getOrAddDirectory casing again second (getOrAddDirectory casing rawName first children) =
        getOrAddDirectory casing rawName (second ∘ first) children

end

section
variable {casing : Casing}

theorem sanitized (maxLength : Nat) [NeZero maxLength] (rawName : Text) :
    Sanitized casing maxLength rawName where
  stays := sanitize_units _
  ne_nil := (sanitize casing rawName maxLength).ne_nil
  length_le := (sanitize casing rawName maxLength).length_le
  allowed unit hunit := by
    have hallowed := (sanitize casing rawName maxLength).allowed unit hunit
    simpa only [isNameUnit, Bool.or_eq_true, Bool.and_eq_true, decide_eq_true_eq] using hallowed

theorem isDirectoryNamed_updateChildren {child : FatNode} (change : List FatNode → List FatNode) :
    (child.updateChildren change).isDirectoryNamed casing name = child.isDirectoryNamed casing name := by
  cases child <;> rfl

theorem updateChildren_updateChildren (child : FatNode) (first second : List FatNode → List FatNode) :
    (child.updateChildren first).updateChildren second = child.updateChildren (second ∘ first) := by
  cases child <;> rfl

theorem getOrAddDirectory_again (hagain : normalizeName casing again = normalizeName casing rawName)
    (children : List FatNode) (first second : List FatNode → List FatNode) :
    getOrAddDirectory casing again second (getOrAddDirectory casing rawName first children) =
      getOrAddDirectory casing rawName (second ∘ first) children := by
  induction children with
  | nil =>
    have hnamed : (newDirectory casing (normalizeName casing rawName) (first [])).isDirectoryNamed
        casing (normalizeName casing again) := by
      rw [isDirectoryNamed_iff, newDirectory, normalizeName_units, hagain]
      exact ⟨_, _, rfl⟩
    rw [getOrAddDirectory, getOrAddDirectory, getOrAddDirectory, if_pos hnamed]
    rfl
  | cons child rest ih =>
    by_cases hnamed : child.isDirectoryNamed casing (normalizeName casing rawName)
    · rw [getOrAddDirectory, getOrAddDirectory, if_pos hnamed, if_pos hnamed, getOrAddDirectory,
        hagain, isDirectoryNamed_updateChildren, if_pos hnamed, updateChildren_updateChildren]
    · rw [getOrAddDirectory, getOrAddDirectory, if_neg hnamed, if_neg hnamed, getOrAddDirectory,
        hagain, if_neg hnamed, ih]

theorem foundAgain (rawName : Text) : FoundAgain casing rawName := by
  rintro again (rfl | rfl)
  · exact getOrAddDirectory_again rfl
  · exact getOrAddDirectory_again (normalizeName_units _)

-- ---------------------------------------------------------------------------
-- The parts of a legal name
-- ---------------------------------------------------------------------------

theorem ShortPart.ne_of_mem (part : ShortPart limit) (hunit : unit ∈ part.units) :
    unit ≠ period ∧ unit ≠ 58 ∧ isDirectorySeparator unit = false := by
  have hallowed := part.allowed unit hunit
  refine ⟨?_, ?_, ?_⟩
  · rintro rfl
    exact absurd hallowed (by decide)
  · rintro rfl
    exact absurd hallowed (by decide)
  · by_contra hseparator
    simp only [isDirectorySeparator, Bool.not_eq_false, Bool.or_eq_true, decide_eq_true_eq]
      at hseparator
    rcases hseparator with rfl | rfl <;> exact absurd hallowed (by decide)

theorem dropDrive_eq {path : Text} (h : ∀ unit ∈ path, unit ≠ 58) : dropDrive path = path := by
  unfold dropDrive
  split
  next drive rest => exact absurd rfl (h 58 (by simp))
  next => rfl

theorem getExtension_units (name : ShortPart limit) : getExtension name.units = [] := by
  have hlast : name.units.reverse.takeWhile
      (fun unit => unit ≠ period && !isDirectorySeparator unit) = name.units.reverse := by
    refine List.takeWhile_eq_self_iff.mpr fun unit hunit => ?_
    obtain ⟨hperiod, -, hseparator⟩ := name.ne_of_mem (List.mem_reverse.mp hunit)
    simp [hperiod, hseparator]
  simp only [getExtension, hlast]
  simp

theorem getExtension_append (front : Text) (extension : ShortPart limit) :
    getExtension (front ++ period :: extension.units) = period :: extension.units := by
  have hkept : ∀ unit ∈ extension.units.reverse,
      (decide (unit ≠ period) && !isDirectorySeparator unit) = true := by
    intro unit hunit
    obtain ⟨hperiod, -, hseparator⟩ := extension.ne_of_mem (List.mem_reverse.mp hunit)
    simp [hperiod, hseparator]
  have hreverse : (front ++ period :: extension.units).reverse =
      extension.units.reverse ++ period :: front.reverse := by simp
  have hlast : (front ++ period :: extension.units).reverse.takeWhile
      (fun unit => unit ≠ period && !isDirectorySeparator unit) = extension.units.reverse := by
    rw [hreverse, List.takeWhile_append_of_pos hkept, List.takeWhile_cons_of_neg (by simp),
      List.append_nil]
  simp only [getExtension, hlast]
  rw [if_pos, List.reverse_reverse]
  refine ⟨?_, fun h => extension.ne_nil (List.reverse_eq_nil_iff.mp h)⟩
  rw [hreverse, List.drop_left]
  rfl

theorem getFileNameWithoutExtension_units (name : ShortPart limit) :
    getFileNameWithoutExtension name.units = name.units := by
  have hdrop : name.units.reverse.dropWhile (· ≠ period) = [] := by
    refine List.dropWhile_eq_nil_iff.mpr fun unit hunit => ?_
    exact decide_eq_true (name.ne_of_mem (List.mem_reverse.mp hunit)).1
  rw [getFileNameWithoutExtension, dropDrive_eq fun unit hunit => (name.ne_of_mem hunit).2.1]
  simp only [hdrop]

theorem getFileNameWithoutExtension_append (name extension : Text)
    (hname : ∀ unit ∈ name, unit ≠ 58) (hextension : ∀ unit ∈ extension, unit ≠ period ∧ unit ≠ 58) :
    getFileNameWithoutExtension (name ++ period :: extension) = name := by
  have hdrive : ∀ unit ∈ name ++ period :: extension, unit ≠ 58 := by
    intro unit hunit
    rcases List.mem_append.mp hunit with hfront | hbehind
    · exact hname unit hfront
    · rcases List.mem_cons.mp hbehind with rfl | hlast
      · decide
      · exact (hextension unit hlast).2
  have hdrop : (name ++ period :: extension).reverse.dropWhile (· ≠ period) =
      period :: name.reverse := by
    have hreverse : (name ++ period :: extension).reverse =
        extension.reverse ++ period :: name.reverse := by simp
    rw [hreverse, List.dropWhile_append_of_pos, List.dropWhile_cons_of_neg (by simp)]
    exact fun unit hunit => decide_eq_true (hextension unit (List.mem_reverse.mp hunit)).1
  rw [getFileNameWithoutExtension, dropDrive_eq hdrive]
  simp only [hdrop, List.reverse_reverse]

theorem normalizeFile_text (legal : LegalName) : normalizeFile casing legal.text =
    ⟨legal.name, legal.extension.getD (sanitize casing [] 3)⟩ := by
  cases legal with
  | mk name extension =>
    cases extension with
    | none =>
      simp only [LegalName.text, normalizeFile, getExtension_units,
        getFileNameWithoutExtension_units, sanitize_units]
      rfl
    | some extension =>
      have hstem := getFileNameWithoutExtension_append name.units extension.units
        (fun unit hunit => (name.ne_of_mem hunit).2.1)
        (fun unit hunit => ⟨(extension.ne_of_mem hunit).1, (extension.ne_of_mem hunit).2.1⟩)
      have htrim : (period :: extension.units).dropWhile (· = period) = extension.units := by
        rw [List.dropWhile_cons_of_pos (by simp)]
        obtain ⟨unit, units, hunits⟩ := List.exists_cons_of_ne_nil extension.ne_nil
        have hfirst := (extension.ne_of_mem (hunits ▸ List.mem_cons_self)).1
        rw [hunits, List.dropWhile_cons_of_neg (by simpa using hfirst)]
      simp only [LegalName.text, normalizeFile, getExtension_append, hstem, htrim, sanitize_units]
      rfl

theorem slice_directoryEntry (name : ShortPart 8) (extension : ShortPart 3) (attributes : UInt8)
    (firstCluster : UInt16) (size : UInt32) :
    slice (directoryEntry casing name.units extension.units attributes firstCluster size) 0 11 =
      name.field ++ extension.field := by
  have hrecord := congrArg FatReader.Entry.name (@readEntry_directoryEntry casing
    name.units extension.units attributes firstCluster size)
  simpa only [FatReader.readEntry, shortNameField_units] using hrecord

theorem field_sanitize_nil : (sanitize casing [] 3).field = [0x58, 0x20, 0x20] := by
  rw [sanitize_of_ascii casing (by decide)]
  decide

theorem addFile_text (legal : LegalName) (data : Bytes) (children : List FatNode) :
    addFile casing legal.text data children =
      children.filter (fun child => !child.isFileNamed casing
        ⟨legal.name, legal.extension.getD (sanitize casing [] 3)⟩) ++
      [.file legal.name (legal.extension.getD (sanitize casing [] 3)) ⟨0, 0⟩ data] := by
  simp only [addFile, normalizeFile_text]

theorem storesItself_iff {legal : LegalName} :
    StoresItself casing legal ↔ legal.extension.isSome := by
  constructor
  · intro h
    obtain ⟨kept, shortName, shortExtension, extent, hadded, hfield⟩ := h [] []
    rw [addFile_text] at hadded
    have hnode := List.append_inj_right' hadded rfl
    obtain ⟨rfl, rfl, -, -⟩ := FatNode.file.inj (List.singleton_inj.mp hnode)
    have hrecord := hfield 0 0
    rw [slice_directoryEntry, LegalName.field, List.append_cancel_left_eq] at hrecord
    by_contra hnone
    rw [Option.not_isSome_iff_eq_none] at hnone
    rw [hnone, Option.getD_none, field_sanitize_nil] at hrecord
    exact absurd hrecord (by decide)
  · intro hsome data children
    obtain ⟨extension, hextension⟩ := Option.isSome_iff_exists.mp hsome
    refine ⟨_, _, _, _, addFile_text legal data children, fun firstCluster size => ?_⟩
    rw [slice_directoryEntry, LegalName.field, hextension]
    rfl

/-- Names are sanitized once and for all, and directories are found again. Of the files, those
with an extension are stored under their legal short names. -/
theorem shortNames_kept (casing : Casing) :
    (∀ rawName, Sanitized casing 8 rawName ∧ Sanitized casing 3 rawName) ∧
      (∀ rawName, FoundAgain casing rawName) ∧
      ∀ legal, StoresItself casing legal ↔ legal.extension.isSome :=
  ⟨fun rawName => ⟨sanitized 8 rawName, sanitized 3 rawName⟩, foundAgain,
    fun _ => storesItself_iff⟩

def readme : LegalName where
  name := ⟨text "README", by decide, by decide, List.all_eq_true.mp (by decide)⟩
  extension := none

theorem readme_notItself : ¬ StoresItself asciiCasing readme := by
  rw [storesItself_iff]
  decide

end

end DragonOS.Build
