import DragonOS.Build.DotNet
import Mathlib.Data.List.DropRight

/-!
# Short names

A path of the package becomes a path of 8.3 names: it is split at its separators,
every segment is upper-cased, and what is neither a letter nor a digit is dropped.
`ShortPart` is what that leaves: a name or an extension that is never empty.
-/

namespace DragonOS.Build

/-- A string, as its UTF-16 code units. -/
abbrev Text := List UInt16

def text (literal : String) : Text := literal.toList.map fun c => UInt16.ofNat c.toNat

-- ---------------------------------------------------------------------------
-- Casing
-- ---------------------------------------------------------------------------

def asciiUpper (unit : UInt16) : UInt16 := if 97 ≤ unit ∧ unit ≤ 122 then unit - 32 else unit

/-- `ToUpperInvariant` is a table of Unicode; of it, only the part for ASCII matters here. -/
structure Casing where
  toUpper : Text → Text
  ascii : ∀ value : Text, (∀ unit ∈ value, unit < 128) → toUpper value = value.map asciiUpper

def asciiCasing : Casing where
  toUpper value := value.map asciiUpper
  ascii _ _ := rfl

variable (casing : Casing)

def Casing.equalsIgnoreCase (left right : Text) : Prop := casing.toUpper left = casing.toUpper right

instance : Decidable (casing.equalsIgnoreCase left right) :=
  inferInstanceAs (Decidable (casing.toUpper left = casing.toUpper right))

-- ---------------------------------------------------------------------------
-- Sanitizing
-- ---------------------------------------------------------------------------

def isNameUnit (unit : UInt16) : Bool :=
  (65 ≤ unit && unit ≤ 90) || (48 ≤ unit && unit ≤ 57)

structure ShortPart (limit : Nat) where
  units : Text
  ne_nil : units ≠ []
  length_le : units.length ≤ limit
  allowed : ∀ unit ∈ units, isNameUnit unit
  deriving DecidableEq

/-- The loop of `Sanitize` over the upper-cased name. -/
def appendAllowed (maxLength : Nat) (builder : Text) : Text → Text
  | [] => builder
  | unit :: rest =>
    let builder := if isNameUnit unit then builder ++ [unit] else builder
    if builder.length = maxLength then builder else appendAllowed maxLength builder rest

theorem appendAllowed_eq (hbuilder : builder.length < maxLength) :
    appendAllowed maxLength builder value =
      builder ++ (value.filter isNameUnit).take (maxLength - builder.length) := by
  induction value generalizing builder with
  | nil => simp [appendAllowed]
  | cons unit rest ih =>
    rw [appendAllowed]
    by_cases hunit : isNameUnit unit
    · have hleft : maxLength - builder.length = (maxLength - (builder.length + 1)) + 1 := by omega
      rw [if_pos hunit, List.filter_cons_of_pos hunit, hleft, List.take_succ_cons]
      split
      next hfull =>
        rw [List.length_append, List.length_singleton] at hfull
        rw [hfull, Nat.sub_self, List.take_zero]
      next hfull =>
        rw [List.length_append, List.length_singleton] at hfull
        rw [ih (by rw [List.length_append, List.length_singleton]; omega), List.length_append,
          List.length_singleton, List.append_assoc, List.singleton_append]
    · rw [if_neg hunit, if_neg (by omega), List.filter_cons_of_neg hunit, ih hbuilder]

def sanitize (rawName : Text) (maxLength : Nat) [NeZero maxLength] : ShortPart maxLength :=
  let builder := appendAllowed maxLength [] (casing.toUpper rawName)
  have hbuilder : builder = ((casing.toUpper rawName).filter isNameUnit).take maxLength :=
    appendAllowed_eq (Nat.pos_of_neZero maxLength)
  if hempty : builder = [] then
    ⟨text "X", by decide, Nat.pos_of_neZero maxLength, List.forall_mem_singleton.mpr (by decide)⟩
  else
    ⟨builder, hempty, by rw [hbuilder]; exact List.length_take_le _ _, fun unit hunit => by
      rw [hbuilder] at hunit
      exact (List.mem_filter.mp (List.mem_of_mem_take hunit)).2⟩

-- ---------------------------------------------------------------------------
-- Paths
-- ---------------------------------------------------------------------------

def isDirectorySeparator (unit : UInt16) : Bool := unit = 92 || unit = 47

def isWhiteSpace (unit : UInt16) : Bool :=
  (9 ≤ unit && unit ≤ 13) || unit = 0x20 || unit = 0x85 || unit = 0xA0 || unit = 0x1680 ||
    (0x2000 ≤ unit && unit ≤ 0x200A) || unit = 0x2028 || unit = 0x2029 || unit = 0x202F ||
    unit = 0x205F || unit = 0x3000

def trim (value : Text) : Text := (value.dropWhile isWhiteSpace).rdropWhile isWhiteSpace

def splitPath (relativePath : Text) : List Text :=
  ((relativePath.splitOnP isDirectorySeparator).map trim).filter (· ≠ [])

def period : UInt16 := 46

def getExtension (path : Text) : Text :=
  let last := path.reverse.takeWhile fun unit => unit ≠ period && !isDirectorySeparator unit
  if (path.reverse.drop last.length).head? = some period ∧ last ≠ [] then period :: last.reverse
  else []

/-- A segment such as `C:NAME` still starts with a drive. -/
def dropDrive : Text → Text
  | drive :: 58 :: rest =>
    if (65 ≤ drive && drive ≤ 90) || (97 ≤ drive && drive ≤ 122) then rest else drive :: 58 :: rest
  | path => path

def getFileNameWithoutExtension (path : Text) : Text :=
  let fileName := dropDrive path
  match fileName.reverse.dropWhile (· ≠ period) with
  | [] => fileName
  | _ :: before => before.reverse

@[ext]
structure ShortNameParts where
  name : ShortPart 8
  extension : ShortPart 3
  deriving DecidableEq

def normalizeName (rawName : Text) : ShortPart 8 := sanitize casing rawName 8

def normalizeFile (rawName : Text) : ShortNameParts where
  name := sanitize casing (getFileNameWithoutExtension rawName) 8
  extension := sanitize casing ((getExtension rawName).dropWhile (· = period)) 3

@[ext]
structure FatPath where
  directories : List (ShortPart 8)
  file : ShortNameParts
  deriving DecidableEq

def FatPath.below (path : FatPath) (name : ShortPart 8) : FatPath where
  directories := name :: path.directories
  file := path.file

def normalizeSegments : List Text → Option FatPath
  | [] => none
  | [rawName] => some ⟨[], normalizeFile casing rawName⟩
  | rawName :: rest => (normalizeSegments rest).map (·.below (normalizeName casing rawName))

def normalizePath (relativePath : Text) : Option FatPath :=
  normalizeSegments casing (splitPath relativePath)

-- ---------------------------------------------------------------------------
-- A short name stays what it is
-- ---------------------------------------------------------------------------

variable {casing}

theorem ShortPart.ext_units {left right : ShortPart limit} (h : left.units = right.units) :
    left = right := by
  cases left
  cases right
  cases h
  rfl

theorem isNameUnit_bounds (h : isNameUnit unit) : 48 ≤ unit.toNat ∧ unit.toNat ≤ 90 ∧
    ¬ (97 ≤ unit ∧ unit ≤ 122) := by
  simp only [isNameUnit, Bool.or_eq_true, Bool.and_eq_true, decide_eq_true_eq, UInt16.le_iff_toNat_le,
    UInt16.reduceToNat] at h ⊢
  omega

theorem ShortPart.toUpper_units (part : ShortPart limit) :
    casing.toUpper part.units = part.units := by
  rw [casing.ascii part.units fun unit hunit => ?_]
  · refine (List.map_congr_left fun unit hunit => ?_).trans (List.map_id _)
    exact if_neg (isNameUnit_bounds (part.allowed unit hunit)).2.2
  · have := isNameUnit_bounds (part.allowed unit hunit)
    exact UInt16.lt_iff_toNat_lt.mpr (show unit.toNat < 128 by omega)

theorem ShortPart.equalsIgnoreCase_iff {left right : ShortPart limit} :
    casing.equalsIgnoreCase left.units right.units ↔ left = right := by
  rw [Casing.equalsIgnoreCase, left.toUpper_units, right.toUpper_units]
  exact ⟨ShortPart.ext_units, fun h => h ▸ rfl⟩

theorem FatPath.below_eq {path : FatPath} {file : ShortNameParts} :
    path.below name = ⟨name' :: names, file⟩ ↔ name = name' ∧ path = ⟨names, file⟩ := by
  cases path
  simp only [FatPath.below, FatPath.mk.injEq, List.cons.injEq, and_assoc]

theorem sanitize_units [NeZero maxLength] (part : ShortPart maxLength) :
    sanitize casing part.units maxLength = part := by
  have hkept : appendAllowed maxLength [] (casing.toUpper part.units) = part.units := by
    rw [appendAllowed_eq (Nat.pos_of_neZero maxLength), part.toUpper_units,
      List.filter_eq_self.mpr part.allowed, List.nil_append, List.length_nil, Nat.sub_zero,
      List.take_of_length_le part.length_le]
  refine ShortPart.ext_units ?_
  simp only [sanitize, hkept, part.ne_nil, ↓reduceDIte]

/-- The second normalisation in the constructor of a directory changes nothing. -/
theorem normalizeName_units (name : ShortPart 8) : normalizeName casing name.units = name :=
  sanitize_units name

end DragonOS.Build
