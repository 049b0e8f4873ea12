import DragonOS.Build.FatReading
import Mathlib.Data.List.Perm.Subperm
import Mathlib.Data.List.ReduceOption

/-!
# An entry for every file

The partition keeps the loader and every file of the package when their short paths are
apart and no file is so long that its clusters are miscounted, and only then
(`buildEfiSystemPartition_keepsAll_iff`). Paths that differ need not have short paths that do.
-/

namespace DragonOS.Build

open Lib FatReader

-- ---------------------------------------------------------------------------
-- Places
-- ---------------------------------------------------------------------------

/-- Where a reader looks for a file: the names of the directories on the way, and its own. -/
structure Place where
  directories : List Bytes
  name : Bytes
  deriving DecidableEq

def FatPath.place (path : FatPath) : Place where
  directories := path.directories.map directoryField
  name := path.file.field

def loaderPlace : Place where
  directories := [asciiBytes "EFI        ", asciiBytes "BOOT       "]
  name := asciiBytes "BOOTX64 EFI"

def Place.Holds (place : Place) (image data : Bytes) : Prop :=
  ∃ entry ∈ filesAt image place.directories place.name, readFile image entry = some data

/-- The loader is at its place, and every file has a place of its own. -/
structure KeepsAll (bootx64 : Bytes) (runtimeFiles : List RuntimePackageFile) (image : Bytes) :
    Prop where
  loader : loaderPlace.Holds image bootx64
  files : ∃ places : List Place, (loaderPlace :: places).Nodup ∧
    List.Forall₂ (fun place runtimeFile => place.Holds image runtimeFile.data) places runtimeFiles

def AllShorter (limit : Nat) (bootx64 : Bytes) (runtimeFiles : List RuntimePackageFile) : Prop :=
  bootx64.length < limit ∧ ∀ runtimeFile ∈ runtimeFiles, runtimeFile.data.length < limit

instance : Decidable (AllShorter limit bootx64 runtimeFiles) :=
  inferInstanceAs (Decidable (_ ∧ _))

section
variable (casing : Casing)

def loaderPath : Text := text "EFI\\BOOT\\BOOTX64.EFI"

def DistinctPaths (runtimeFiles : List RuntimePackageFile) : Prop :=
  (loaderPath :: runtimeFiles.map (·.relativePath)).Pairwise fun first second =>
    ¬ casing.equalsIgnoreCase first second

instance : Decidable (DistinctPaths casing runtimeFiles) :=
  inferInstanceAs (Decidable (List.Pairwise _ _))

/-- The short paths of the loader and of the files; a path of separators alone has none. -/
def shortPaths (runtimeFiles : List RuntimePackageFile) : List (Option FatPath) :=
  normalizeSegments casing bootSegments ::
    runtimeFiles.map fun runtimeFile => normalizePath casing runtimeFile.relativePath

def KeptApart (runtimeFiles : List RuntimePackageFile) : Prop :=
  none ∉ shortPaths casing runtimeFiles ∧ (shortPaths casing runtimeFiles).Nodup

instance : Decidable (KeptApart casing runtimeFiles) :=
  inferInstanceAs (Decidable (_ ∧ _))

end

-- ---------------------------------------------------------------------------
-- Short paths
-- ---------------------------------------------------------------------------

section
variable {casing : Casing} {bootx64 : Bytes} {runtimeFiles : List RuntimePackageFile}

theorem FatPath.place_injective : Function.Injective FatPath.place := by
  intro first second h
  obtain ⟨hdirectories, hfile⟩ := Place.mk.injEq .. ▸ h
  refine FatPath.ext ?_ (ShortNameParts.field_inj.mp hfile)
  exact List.map_injective_iff.mpr (fun _ _ => directoryField_inj.mp) hdirectories

theorem sanitize_of_ascii (casing : Casing) [NeZero maxLength] {rawName : Text}
    (h : rawName.all (· < 128) = true) :
    sanitize casing rawName maxLength = sanitize asciiCasing rawName maxLength := by
  have hupper : casing.toUpper rawName = asciiCasing.toUpper rawName :=
    casing.ascii rawName fun unit hunit => of_decide_eq_true (List.all_eq_true.mp h unit hunit)
  simp only [sanitize, hupper]

theorem normalizeSegments_boot :
    ∃ path, normalizeSegments casing bootSegments = some path ∧ path.place = loaderPlace := by
  have hboot : normalizeSegments casing bootSegments = normalizeSegments asciiCasing bootSegments := by
    simp only [bootSegments, normalizeSegments, normalizeName, normalizeFile]
    rw [sanitize_of_ascii casing (by decide), sanitize_of_ascii casing (by decide),
      sanitize_of_ascii casing (by decide), sanitize_of_ascii casing (by decide)]
  rw [hboot]
  exact ⟨_, rfl, by decide⟩

theorem map_fst_packageFiles : (packageFiles casing bootx64 runtimeFiles).map Prod.fst =
    (shortPaths casing runtimeFiles).reduceOption := by
  obtain ⟨path, hpath, -⟩ := @normalizeSegments_boot casing
  simp [packageFiles, shortPaths, hpath, List.reduceOption, List.map_filterMap, List.filterMap_map,
    Function.comp_def]

theorem lastWritten_of_mem {files : List (FatPath × Bytes)} (hnodup : (files.map Prod.fst).Nodup)
    (hmem : (path, data) ∈ files) : lastWritten files path = some data := by
  obtain ⟨before, after, rfl⟩ := List.append_of_mem hmem
  refine List.lookup_eq_some_iff.mpr ⟨after.reverse, before.reverse, by simp, fun other hother => ?_⟩
  rw [List.map_append, List.map_cons, List.nodup_middle, List.nodup_cons] at hnodup
  refine bne_iff_ne.mpr fun heq => hnodup.1 (List.mem_append_right _ ?_)
  exact List.mem_map.mpr ⟨other, List.mem_reverse.mp hother, heq.symm⟩

theorem mem_of_lastWritten {files : List (FatPath × Bytes)} (h : lastWritten files path = some data) :
    path ∈ files.map Prod.fst := by
  obtain ⟨before, after, hfiles, -⟩ := List.lookup_eq_some_iff.mp h
  have hmem : (path, data) ∈ files := List.mem_reverse.mp (by rw [hfiles]; simp)
  exact List.mem_map_of_mem hmem

-- ---------------------------------------------------------------------------
-- What is kept
-- ---------------------------------------------------------------------------

theorem Readable.holds {root : List FatNode} {image data : Bytes} (h : Readable image root)
    (hfits : ∀ file ∈ collectFiles root,
      file.data.length ≤ file.extent.clusterCount.toNat * 8192)
    {path : FatPath} (hat : fileAt path root = some data) : path.place.Holds image data := by
  obtain ⟨entry, hentry, -, hread⟩ := h.filesAt_eq hfits hat
  exact ⟨entry, hentry ▸ List.mem_singleton_self entry, hread⟩

theorem Readable.path_of_holds {root : List FatNode} {image data : Bytes} {place : Place}
    (h : Readable image root) (hholds : place.Holds image data) :
    ∃ (path : FatPath) (file : FatFile), path.place = place ∧ fileAt path root = some file.data ∧
      file ∈ collectFiles root ∧ data.length ≤ file.extent.clusterCount.toNat * 8192 := by
  obtain ⟨entry, hentry, hread⟩ := hholds
  obtain ⟨hmem, hnamed⟩ := List.mem_filter.mp hentry
  simp only [Bool.and_eq_true, Bool.not_eq_true', decide_eq_true_eq] at hnamed
  obtain ⟨path, file, hat, hcollected, hnames, rfl⟩ := h.file_of_entry hmem hnamed.1
  refine ⟨path, file, ?_, hat, hcollected, ?_⟩
  · rw [FatPath.place, ← hnames]
    exact congrArg (Place.mk place.directories) hnamed.2
  · obtain ⟨content, hchain, rfl⟩ := Option.map_eq_some_iff.mp hread
    have hcontent := (h.files file hcollected).symm.trans hchain
    rw [← Option.some.inj hcontent]
    exact (List.length_take_le' _ _).trans_eq (length_fillTo ..)

theorem Roomy.clusters_le {root : List FatNode} (h : Roomy root)
    (hmem : file ∈ collectFiles (allocate root).1) :
    file.extent.clusterCount.toNat * 8192 ≤ 2045 * 8192 := by
  obtain ⟨chain, -, hextent, hlow, hhigh⟩ := h.chain (file_extent_mem hmem)
  rw [hextent, extentOf, Int.toNat_natCast]
  omega

theorem AllShorter.contents (h : AllShorter limit bootx64 runtimeFiles) (casing : Casing) :
    ∀ data ∈ fileContents (buildTree casing bootx64 runtimeFiles), data.length < limit := by
  intro data hdata
  obtain rfl | ⟨runtimeFile, hmem, rfl⟩ := mem_fileContents_buildTree hdata
  · exact h.1
  · exact h.2 runtimeFile hmem

theorem forall₂_places {image : Bytes} {paths : List FatPath}
    (hpaths : runtimeFiles.map (fun runtimeFile => normalizePath casing runtimeFile.relativePath) =
      paths.map some)
    (hholds : ∀ runtimeFile ∈ runtimeFiles, ∀ path,
      normalizePath casing runtimeFile.relativePath = some path →
        path.place.Holds image runtimeFile.data) :
    List.Forall₂ (fun place runtimeFile => place.Holds image runtimeFile.data)
      (paths.map FatPath.place) runtimeFiles := by
  induction runtimeFiles generalizing paths with
  | nil =>
    obtain rfl := List.map_eq_nil_iff.mp hpaths.symm
    exact .nil
  | cons runtimeFile rest ih =>
    obtain ⟨path, paths, rfl, hpath, hrest⟩ := List.map_eq_cons_iff.mp hpaths.symm
    obtain ⟨hfirst, hothers⟩ := List.forall_mem_cons.mp hholds
    exact .cons (hfirst path hpath.symm) (ih hrest.symm hothers)

theorem exists_paths {keys : List (Option FatPath)} (h : none ∉ keys) :
    ∃ paths : List FatPath, keys = paths.map some := by
  refine ⟨keys.reduceOption, ?_⟩
  induction keys with
  | nil => rfl
  | cons key rest ih =>
    obtain ⟨hkey, hrest⟩ := not_or.mp (mt List.mem_cons.mpr h)
    obtain ⟨path, rfl⟩ := Option.ne_none_iff_exists'.mp (Ne.symm hkey)
    rw [List.reduceOption_cons_of_some, List.map_cons, ← ih hrest]

theorem keepsAll_of_keptApart {image : Bytes} {root : List FatNode}
    (hreadable : Readable image root)
    (hfits : ∀ file ∈ collectFiles root,
      file.data.length ≤ file.extent.clusterCount.toNat * 8192)
    (hroot : ∀ path, fileAt path root = lastWritten (packageFiles casing bootx64 runtimeFiles) path)
    (hapart : KeptApart casing runtimeFiles) : KeepsAll bootx64 runtimeFiles image := by
  obtain ⟨loader, hloader, hplace⟩ := @normalizeSegments_boot casing
  obtain ⟨paths, hpaths⟩ := exists_paths hapart.1
  have hnodup : paths.Nodup := (hpaths ▸ hapart.2).of_map
  have hkeys : (packageFiles casing bootx64 runtimeFiles).map Prod.fst = paths := by
    rw [map_fst_packageFiles, hpaths, List.reduceOption, List.filterMap_map]
    exact List.filterMap_some
  have hholds (path : FatPath) (data : Bytes)
      (hmem : (path, data) ∈ packageFiles casing bootx64 runtimeFiles) :
      path.place.Holds image data := by
    refine hreadable.holds hfits ?_
    rw [hroot]
    exact lastWritten_of_mem (hkeys ▸ hnodup) hmem
  rw [shortPaths, hloader] at hpaths
  obtain ⟨_, paths, rfl, hfirst, hothers⟩ := List.map_eq_cons_iff.mp hpaths.symm
  obtain rfl := Option.some.inj hfirst
  refine ⟨hplace ▸ hholds _ bootx64 ?_, paths.map FatPath.place, ?_,
    forall₂_places hothers.symm fun runtimeFile hmem path hpath => hholds path _ ?_⟩
  · simp [packageFiles, hloader]
  · rw [← hplace, ← List.map_cons]
    exact hnodup.map FatPath.place_injective
  · refine List.mem_append_right _ (List.mem_filterMap.mpr ⟨runtimeFile, hmem, ?_⟩)
    rw [hpath, Option.map_some]

/-- As many places as there are files leave no two files with one short path. -/
theorem keptApart_of_places {places : List Place} (hnodup : places.Nodup)
    (hplaces : ∀ place ∈ places, ∃ path ∈ (shortPaths casing runtimeFiles).reduceOption,
      path.place = place)
    (hlength : places.length = (shortPaths casing runtimeFiles).length) :
    KeptApart casing runtimeFiles := by
  have hsubset : places ⊆ (shortPaths casing runtimeFiles).reduceOption.map FatPath.place := by
    intro place hplace
    obtain ⟨path, hpath, rfl⟩ := hplaces place hplace
    exact List.mem_map_of_mem hpath
  have hsubperm := List.subperm_of_subset hnodup hsubset
  have hall : ¬ (shortPaths casing runtimeFiles).reduceOption.length <
      (shortPaths casing runtimeFiles).length := by
    have hle := hsubperm.length_le
    rw [List.length_map, hlength] at hle
    exact Nat.not_lt.mpr hle
  have hnone := mt List.reduceOption_length_lt_iff.mpr hall
  have hperm := hsubperm.perm_of_length_le
    (by rw [List.length_map, hlength]; exact List.reduceOption_length_le _)
  refine ⟨hnone, ?_⟩
  obtain ⟨paths, hpaths⟩ := exists_paths hnone
  have hreduced : (shortPaths casing runtimeFiles).reduceOption = paths := by
    rw [hpaths, List.reduceOption, List.filterMap_map]
    exact List.filterMap_some
  rw [hpaths]
  exact (hreduced ▸ (hperm.nodup_iff.mp hnodup).of_map).map (Option.some_injective _)

theorem keepsAll_iff {image : Bytes} (harrays : AllShorter (2 ^ 31) bootx64 runtimeFiles)
    (himage : buildEfiSystemPartition casing bootx64 runtimeFiles = .ok image) :
    KeepsAll bootx64 runtimeFiles image ↔
      KeptApart casing runtimeFiles ∧ AllShorter (2 ^ 31 - 8191) bootx64 runtimeFiles := by
  obtain ⟨hroomy, hreadable⟩ := buildEfiSystemPartition_readable (harrays.contents casing) himage
  have hroot (path : FatPath) : fileAt path (allocate (buildTree casing bootx64 runtimeFiles)).1 =
      lastWritten (packageFiles casing bootx64 runtimeFiles) path :=
    fileAt_allocate.trans fileAt_buildTree
  have hfound {place : Place} {data : Bytes} (hholds : place.Holds image data) :
      (∃ path ∈ (shortPaths casing runtimeFiles).reduceOption, path.place = place) ∧
        data.length < 2 ^ 31 - 8191 := by
    obtain ⟨path, file, hplace, hat, hcollected, hlength⟩ := hreadable.path_of_holds hholds
    have hclusters := hroomy.clusters_le hcollected
    rw [hroot] at hat
    refine ⟨⟨path, ?_, hplace⟩, by omega⟩
    rw [← map_fst_packageFiles]
    exact mem_of_lastWritten hat
  constructor
  · rintro ⟨hloader, places, hnodup, hfiles⟩
    refine ⟨keptApart_of_places hnodup ?_ ?_, (hfound hloader).2, fun runtimeFile hmem => ?_⟩
    · refine List.forall_mem_cons.mpr ⟨(hfound hloader).1, fun place hplace => ?_⟩
      obtain ⟨i, hi, rfl⟩ := List.mem_iff_getElem.mp hplace
      exact (hfound (hfiles.get hi (hfiles.length_eq ▸ hi))).1
    · rw [List.length_cons, hfiles.length_eq, shortPaths, List.length_cons, List.length_map]
    · obtain ⟨i, hi, rfl⟩ := List.mem_iff_getElem.mp hmem
      exact (hfound (hfiles.get (hfiles.length_eq ▸ hi) hi)).2
  · rintro ⟨hapart, hsmall⟩
    refine keepsAll_of_keptApart hreadable (length_le_clusters fun data hdata => ?_) hroot hapart
    have hdata := hsmall.contents casing data hdata
    omega

end

/-- The builder refuses the package or keeps every file, unless two short paths are the
same, a path has no name, or the length of a file wraps. -/
theorem buildEfiSystemPartition_keepsAll_iff (casing : Casing) (bootx64 : Bytes)
    (runtimeFiles : List RuntimePackageFile)
    (harrays : AllShorter (2 ^ 31) bootx64 runtimeFiles) :
    (∀ image, buildEfiSystemPartition casing bootx64 runtimeFiles = .ok image →
      KeepsAll bootx64 runtimeFiles image) ↔
    2045 < neededClusters (buildTree casing bootx64 runtimeFiles) ∨
      224 < (buildTree casing bootx64 runtimeFiles).length ∨
      KeptApart casing runtimeFiles ∧ AllShorter (2 ^ 31 - 8191) bootx64 runtimeFiles := by
  constructor
  · intro h
    by_cases hclusters : 2045 < neededClusters (buildTree casing bootx64 runtimeFiles)
    · exact .inl hclusters
    by_cases hentries : 224 < (buildTree casing bootx64 runtimeFiles).length
    · exact .inr (.inl hentries)
    obtain ⟨fat, -, himage⟩ := buildEfiSystemPartition_ok
      ⟨Nat.not_lt.mp hclusters, harrays.contents casing⟩ (Nat.not_lt.mp hentries)
    exact .inr (.inr ((keepsAll_iff harrays himage).mp (h _ himage)))
  · intro h image himage
    obtain ⟨hclusters, hentries⟩ := buildEfiSystemPartition_room himage
    obtain hmany | hmany | hkept := h
    · exact absurd hclusters (Nat.not_le.mpr hmany)
    · exact absurd hentries (Nat.not_le.mpr hmany)
    · exact (keepsAll_iff harrays himage).mpr hkept

theorem buildEfiSystemPartition_keepsAll_note :
    ∃ image, buildEfiSystemPartition asciiCasing [0xEB] [noteFile] = .ok image ∧
      KeepsAll [0xEB] [noteFile] image := by
  obtain ⟨image, himage⟩ := buildEfiSystemPartition_note
  refine ⟨image, himage, (buildEfiSystemPartition_keepsAll_iff asciiCasing [0xEB] [noteFile]
    (by decide)).mpr (.inr (.inr ⟨by decide +kernel, by decide⟩)) image himage⟩

-- ---------------------------------------------------------------------------
-- Two reports
-- ---------------------------------------------------------------------------

/-- The dash is dropped from the first name. -/
def reportFiles : List RuntimePackageFile :=
  [⟨text "DRAGON\\FILES\\REPORT-1.TXT", [0x31]⟩, ⟨text "DRAGON\\FILES\\REPORT1.TXT", [0x32]⟩]

theorem smallFiles_reports : SmallFiles [0xEB] reportFiles :=
  ⟨by decide, by decide⟩

theorem reportFiles_notKept : DistinctPaths asciiCasing reportFiles ∧
    ∃ image, buildEfiSystemPartition asciiCasing [0xEB] reportFiles = .ok image ∧
      ¬ KeepsAll [0xEB] reportFiles image := by
  have hroomy : Roomy (buildTree asciiCasing [0xEB] reportFiles) :=
    smallFiles_reports.roomy (by decide +kernel)
  obtain ⟨fat, -, himage⟩ := buildEfiSystemPartition_ok hroomy (by decide +kernel)
  refine ⟨by decide +kernel, _, himage, fun hkept => ?_⟩
  have hapart := ((keepsAll_iff (by decide) himage).mp hkept).1
  exact absurd hapart (by decide +kernel)

end DragonOS.Build
