import DragonOS.Build.RuntimeCollect
import DragonOS.Lib.PathTree

/-!
# The staging directory

`ImapiIsoBuilder.Build` writes the loader and the runtime files below `iso-root` before it
makes an image of that directory. What a path means there depends on its names only, and
on them regardless of case.
-/

namespace DragonOS.Build

open Lib

-- ---------------------------------------------------------------------------
-- Paths on disk
-- ---------------------------------------------------------------------------

def pathSegments (path : Text) : List Text := (path.splitOnP isDirectorySeparator).filter (· ≠ [])

/-- A path that `Path.Combine` does not put below another. -/
def isPathRooted : Text → Bool
  | first :: 58 :: _ => (65 ≤ first && first ≤ 90) || (97 ≤ first && first ≤ 122) ||
      isDirectorySeparator first
  | first :: _ => isDirectorySeparator first
  | [] => false

section
variable (casing : PathCasing)

def location (path : Text) : List Text := (pathSegments path).map casing.toUpper

namespace ImapiIsoBuilder

def bootDir : Text := text "EFI\\BOOT"

def bootx64Path : Text := text "EFI\\BOOT\\BOOTX64.EFI"

/-- A rooted path leaves `iso-root` as it is. -/
def stageFile (tree : PathTree Text Bytes) (runtimeFile : RuntimePackageFile) :
    Except Refusal (PathTree Text Bytes) :=
  if isPathRooted runtimeFile.relativePath then .ok tree
  else tree.putFile (location casing runtimeFile.relativePath) runtimeFile.data

def stage (bootx64 : Bytes) (runtimeFiles : List RuntimePackageFile) :
    Except Refusal (PathTree Text Bytes) := do
  let tree ← PathTree.empty.createDirectory (location casing bootDir)
  let tree ← tree.writeFile (location casing bootx64Path) bootx64
  runtimeFiles.foldlM (stageFile casing) tree

end ImapiIsoBuilder

end

-- ---------------------------------------------------------------------------
-- Where the paths of the package lead
-- ---------------------------------------------------------------------------

section
variable {casing : PathCasing}

theorem pathSegments_backslash (before after : Text) :
    pathSegments (before ++ backslash :: after) = pathSegments before ++ pathSegments after := by
  rw [pathSegments, List.splitOnP_append_cons _ _ (by decide), List.filter_append]
  rfl

theorem pathSegments_diskName (name : DiskName) : pathSegments name.units = [name.units] := by
  have hplain (unit : UInt16) (hunit : unit ∈ name.units) : isDirectorySeparator unit = false :=
    Bool.eq_false_iff.mpr (name.plain unit hunit)
  rw [pathSegments, List.splitOnP_eq_singleton hplain, List.filter_cons_of_pos (by simpa using name.ne_nil),
    List.filter_nil]

theorem pathSegments_joinPath (directories : List DiskName) (name : DiskName) :
    pathSegments (joinPath directories name) =
      directories.map (·.units) ++ [name.units] := by
  induction directories with
  | nil => exact pathSegments_diskName name
  | cons directory directories ih =>
    rw [joinPath, List.foldr_cons, ← joinPath, pathSegments_backslash, pathSegments_diskName, ih]
    rfl

def upperName (casing : PathCasing) (name : DiskName) : Text := casing.toUpper name.units

theorem location_joinPath (directories : List DiskName) (name : DiskName) :
    location casing (joinPath directories name) =
      directories.map (upperName casing) ++ [upperName casing name] := by
  rw [location, pathSegments_joinPath, List.map_append, List.map_map]
  rfl

theorem toUpper_joinPath (directories : List DiskName) (name : DiskName) :
    casing.toUpper (joinPath directories name) =
      (directories.map (upperName casing)).foldr (fun directory rest => directory ++ backslash :: rest)
        (upperName casing name) := by
  induction directories with
  | nil => rfl
  | cons directory directories ih =>
    rw [joinPath, List.foldr_cons, ← joinPath, casing.toUpper_backslash, ih]
    rfl

theorem toUpper_eq_of_location {first second : List DiskName} {firstName secondName : DiskName}
    (h : location casing (joinPath first firstName) = location casing (joinPath second secondName)) :
    casing.toUpper (joinPath first firstName) = casing.toUpper (joinPath second secondName) := by
  rw [location_joinPath, location_joinPath] at h
  obtain ⟨hdirectories, hname⟩ := List.append_inj' h rfl
  rw [toUpper_joinPath, toUpper_joinPath, hdirectories, (List.cons.inj hname).1]

namespace DragonRuntimeBuilder

def dragonName : DiskName := ⟨text "DRAGON", by decide, List.any_eq_false.mp rfl⟩

def filesName : DiskName := ⟨text "FILES", by decide, List.any_eq_false.mp rfl⟩

def manifestName : DiskName := ⟨text "MANIFEST.TXT", by decide, List.any_eq_false.mp rfl⟩

def kindName (casing : PathCasing) (kind : RuntimeKind) : DiskName where
  units := casing.toUpper kind.text
  ne_nil := by
    rw [(toUpper_kind kind).1]
    cases kind <;> decide
  plain := by
    rw [(toUpper_kind kind).1]
    cases kind <;> exact List.any_eq_false.mp rfl

theorem upperName_kindName (kind : RuntimeKind) :
    upperName casing (kindName casing kind) = kind.text.map asciiUpper := by
  show casing.toUpper (casing.toUpper kind.text) = _
  rw [(toUpper_kind kind).1, (toUpper_kind kind).2]

theorem replaceSlashes_append (before after : Text) :
    replaceSlashes (before ++ after) = replaceSlashes before ++ replaceSlashes after :=
  List.map_append

theorem replaceSlashes_joinPath (directories : List DiskName) (name : DiskName) :
    replaceSlashes (joinPath directories name) = joinPath directories name := by
  have hname (name : DiskName) : replaceSlashes name.units = name.units := by
    refine (List.map_congr_left fun unit hunit => if_neg ?_).trans (List.map_id _)
    rintro rfl
    exact name.plain 47 hunit (by decide)
  induction directories with
  | nil => exact hname name
  | cons directory directories ih =>
    rw [joinPath, List.foldr_cons, ← joinPath, replaceSlashes_append, hname]
    exact congrArg (fun rest => directory.units ++ backslash :: rest) ih

theorem dragonFilePath_eq (file : DragonFile) :
    dragonFilePath file = joinPath (dragonName :: filesName :: file.directories) file.name := by
  rw [dragonFilePath, DragonFile.relativePath, replaceSlashes_joinPath]
  rfl

theorem upperName_dragonName : upperName casing dragonName = text "DRAGON" :=
  casing.toUpper_of_all rfl

theorem upperName_filesName : upperName casing filesName = text "FILES" :=
  casing.toUpper_of_all rfl

theorem upperName_manifestName : upperName casing manifestName = text "MANIFEST.TXT" :=
  casing.toUpper_of_all rfl

theorem Placed.eq_joinPath (h : Placed casing kind path) :
    (∃ name : DiskName, period ∈ name.units ∧
      path = joinPath [dragonName, kindName casing kind] name) ∨
    ∃ folder name : DiskName, kind = .dll ∧ period ∉ upperName casing folder ∧
      path = joinPath [dragonName, kindName casing kind, folder] name := by
  cases h with
  | flat name hname => exact .inl ⟨name, hname, rfl⟩
  | nested folder name hkind hfolder => exact .inr ⟨folder, name, hkind, hfolder, rfl⟩

theorem Placed.location (h : Placed casing kind path) :
    ∃ rest, location casing path = text "DRAGON" :: kind.text.map asciiUpper :: rest := by
  rcases h.eq_joinPath with ⟨name, -, rfl⟩ | ⟨folder, name, -, -, rfl⟩
  all_goals
    rw [location_joinPath]
    simp only [List.map_cons, List.cons_append, upperName_dragonName, upperName_kindName]
    exact ⟨_, rfl⟩

/-- A file that lies flat is no folder: its name has a period. -/
theorem placed_apart (hfirst : Placed casing first path) (hsecond : Placed casing second other)
    (hne : location casing path ≠ location casing other) :
    Apart (location casing path) (location casing other) := by
  have hname (name folder : DiskName) (hname : period ∈ name.units)
      (hfolder : period ∉ upperName casing folder) :
      upperName casing name ≠ upperName casing folder := fun heq =>
    hfolder (heq ▸ casing.mem_toUpper (by decide) (by decide) hname)
  rcases hfirst.eq_joinPath with ⟨name, hperiod, rfl⟩ | ⟨folder, name, -, hfolder, rfl⟩ <;>
    rcases hsecond.eq_joinPath with ⟨otherName, hother, rfl⟩ | ⟨other, otherName, -, hother, rfl⟩ <;>
    rw [location_joinPath, location_joinPath] at hne ⊢ <;>
    simp only [List.map_cons, List.map_nil, List.cons_append, List.nil_append] at hne ⊢
  · exact ⟨fun hstart => hne (hstart.eq_of_length rfl),
      fun hstart => hne (hstart.eq_of_length rfl).symm⟩
  · refine ⟨fun hstart => ?_, fun hstart => absurd hstart.length_le (by simp)⟩
    simp only [List.cons_prefix_cons] at hstart
    exact hname name other hperiod hother hstart.2.2.1
  · refine ⟨fun hstart => absurd hstart.length_le (by simp), fun hstart => ?_⟩
    simp only [List.cons_prefix_cons] at hstart
    exact hname otherName folder hother hfolder hstart.2.2.1
  · exact ⟨fun hstart => hne (hstart.eq_of_length rfl),
      fun hstart => hne (hstart.eq_of_length rfl).symm⟩

-- ---------------------------------------------------------------------------
-- Paths that do not get in each other's way
-- ---------------------------------------------------------------------------

/-- What Windows guarantees of what is listed: no two names of a directory are the same
ignoring case, and a file is not a directory that others lie in. -/
structure Listed (casing : PathCasing) (project : Project) : Prop where
  names : ∀ directory ∈ sourceDirectories project, NamesDiffer casing directory
  dragonPaths : (project.dragonFiles.getD []).Pairwise fun first second =>
    ¬ casing.equalsIgnoreCase first.relativePath second.relativePath
  noDirectory : ∀ first ∈ project.dragonFiles.getD [], ∀ second ∈ project.dragonFiles.getD [],
    ¬ location casing first.relativePath <+: second.directories.map (upperName casing)

structure Separate (casing : PathCasing) (first second : RuntimePackageFile) : Prop where
  differ : ¬ casing.equalsIgnoreCase first.relativePath second.relativePath
  apart : Apart (location casing first.relativePath) (location casing second.relativePath)

theorem placed_separate {first second : RuntimePackageFile}
    (hfirst : Placed casing kind first.relativePath)
    (hsecond : Placed casing other second.relativePath)
    (hne : casing.toUpper first.relativePath ≠ casing.toUpper second.relativePath) :
    Separate casing first second := by
  refine ⟨hne, placed_apart hfirst hsecond fun hlocation => hne ?_⟩
  rcases hfirst.eq_joinPath with ⟨name, -, heq⟩ | ⟨folder, name, -, -, heq⟩ <;>
    rcases hsecond.eq_joinPath with ⟨name', -, heq'⟩ | ⟨folder', name', -, -, heq'⟩ <;>
    rw [heq, heq'] at hlocation ⊢ <;> exact toUpper_eq_of_location hlocation

theorem dragonFile_separate {first second : DragonFile}
    (hne : ¬ casing.equalsIgnoreCase first.relativePath second.relativePath)
    (hfirst : ¬ location casing first.relativePath <+: second.directories.map (upperName casing))
    (hsecond : ¬ location casing second.relativePath <+: first.directories.map (upperName casing)) :
    Separate casing { relativePath := dragonFilePath first, data := first.data }
      { relativePath := dragonFilePath second, data := second.data } := by
  have hproper (file other : DragonFile)
      (hdirectory : ¬ location casing file.relativePath <+: other.directories.map (upperName casing))
      (hlocation : location casing file.relativePath ≠ location casing other.relativePath) :
      ¬ location casing file.relativePath <+: location casing other.relativePath := fun hstart => by
    have hlast := (prefix_dropLast_iff (by simp [DragonFile.relativePath, location_joinPath])).mpr
      ⟨hstart, hlocation⟩
    rw [DragonFile.relativePath, DragonFile.relativePath, location_joinPath other.directories,
      List.dropLast_concat] at hlast
    exact hdirectory hlast
  have hlocation : location casing first.relativePath ≠ location casing second.relativePath :=
    fun heq => hne (toUpper_eq_of_location heq)
  have hapart : Apart (location casing first.relativePath) (location casing second.relativePath) :=
    ⟨hproper first second hfirst hlocation, hproper second first hsecond hlocation.symm⟩
  refine ⟨fun heq => hne ?_, ?_⟩
  · rw [Casing.equalsIgnoreCase, dragonFilePath, dragonFilePath, toUpper_dragonPath,
      toUpper_dragonPath, DragonFile.relativePath, DragonFile.relativePath,
      replaceSlashes_joinPath, replaceSlashes_joinPath] at heq
    have hrest := List.append_cancel_left (List.cons.inj (List.append_cancel_left heq)).2
    exact (List.cons.inj hrest).2
  · rw [DragonFile.relativePath, DragonFile.relativePath, location_joinPath, location_joinPath] at hapart
    simp only [dragonFilePath_eq, location_joinPath]
    exact hapart.append_left [upperName casing dragonName, upperName casing filesName]

theorem separate_of_second_ne {first second : RuntimePackageFile} {kind other : Text}
    (hlocation : location casing first.relativePath = text "DRAGON" :: kind :: rest)
    (hother : location casing second.relativePath = text "DRAGON" :: other :: otherRest)
    (hkind : kind ≠ other)
    (hdiffer : casing.toUpper first.relativePath ≠ casing.toUpper second.relativePath) :
    Separate casing first second := by
  refine ⟨hdiffer, ?_⟩
  rw [hlocation, hother]
  exact (apart_of_head_ne hkind _ _).append_left [text "DRAGON"]

variable (casing) in
theorem location_dragonFilePath (file : DragonFile) :
    ∃ rest, location casing (dragonFilePath file) = text "DRAGON" :: text "FILES" :: rest := by
  rw [dragonFilePath_eq, location_joinPath]
  simp only [List.map_cons, List.cons_append, upperName_dragonName, upperName_filesName]
  exact ⟨_, rfl⟩

theorem location_manifestPath :
    location casing manifestPath = [text "DRAGON", text "MANIFEST.TXT"] := by
  rw [show manifestPath = joinPath [dragonName] manifestName from rfl, location_joinPath]
  simp only [List.map_cons, List.map_nil, upperName_dragonName, upperName_manifestName]
  rfl

theorem toUpper_manifestPath_ne (kind rest : Text) :
    casing.toUpper (dragonPath kind rest) ≠ casing.toUpper manifestPath := fun heq => by
  rw [toUpper_dragonPath, manifestPath, casing.toUpper_backslash] at heq
  have hrest := (List.cons.inj (List.append_cancel_left heq)).2
  have hmem : backslash ∈ casing.toUpper (text "MANIFEST.TXT") :=
    hrest ▸ List.mem_append_right _ List.mem_cons_self
  rw [casing.toUpper_of_all rfl] at hmem
  revert hmem
  decide

theorem toUpper_dragonFilePath_ne (kind : RuntimeKind) (rest : Text) (file : DragonFile) :
    casing.toUpper (dragonPath (casing.toUpper kind.text) rest) ≠
      casing.toUpper (dragonFilePath file) := fun heq => by
  have hfiles : casing.toUpper (text "FILES") = text "FILES" := casing.toUpper_of_all rfl
  have hplain : backslash ∉ casing.toUpper (text "FILES") := by
    rw [hfiles]
    decide
  have hkinds := dragonPath_kind (backslash_not_mem_kind kind) hplain heq
  rw [(toUpper_kind kind).1, (toUpper_kind kind).2, hfiles] at hkinds
  revert hkinds
  cases kind <;> decide

theorem build_separate {manifest : List RuntimePackageFile → Bytes} {project : Project}
    {files : List RuntimePackageFile} (hlisted : Listed casing project)
    (h : build casing manifest project = .ok files) : files.Pairwise (Separate casing) := by
  obtain ⟨collected, data, rfl, hdistinct, hplaced⟩ := build_ok hlisted.names h
  rw [List.pairwise_append, List.pairwise_append]
  refine ⟨⟨?_, ?_, ?_⟩, List.pairwise_singleton _ _, ?_⟩
  · refine (List.pairwise_map.mp hdistinct).imp_of_mem fun hfirst hsecond hne => ?_
    obtain ⟨kind, hfirst⟩ := hplaced _ hfirst
    obtain ⟨other, hsecond⟩ := hplaced _ hsecond
    exact placed_separate hfirst hsecond hne
  · refine List.pairwise_map.mpr (hlisted.dragonPaths.imp_of_mem fun hfirst hsecond hne => ?_)
    exact dragonFile_separate hne (hlisted.noDirectory _ hfirst _ hsecond)
      (hlisted.noDirectory _ hsecond _ hfirst)
  · intro first hfirst second hsecond
    obtain ⟨kind, hkind⟩ := hplaced first hfirst
    obtain ⟨file, -, rfl⟩ := List.mem_map.mp hsecond
    obtain ⟨rest, hlocation⟩ := hkind.location
    obtain ⟨otherRest, hother⟩ := location_dragonFilePath casing file
    obtain ⟨below, heq⟩ := hkind.eq_dragonPath
    exact separate_of_second_ne hlocation hother (by cases kind <;> decide)
      (heq ▸ toUpper_dragonFilePath_ne kind below file)
  · intro first hfirst second hsecond
    obtain rfl := List.mem_singleton.mp hsecond
    rcases List.mem_append.mp hfirst with hfirst | hfirst
    · obtain ⟨kind, hkind⟩ := hplaced first hfirst
      obtain ⟨rest, hlocation⟩ := hkind.location
      obtain ⟨below, heq⟩ := hkind.eq_dragonPath
      exact separate_of_second_ne hlocation location_manifestPath (by cases kind <;> decide)
        (heq ▸ toUpper_manifestPath_ne _ below)
    · obtain ⟨file, -, rfl⟩ := List.mem_map.mp hfirst
      obtain ⟨rest, hlocation⟩ := location_dragonFilePath casing file
      exact separate_of_second_ne hlocation location_manifestPath (by decide)
        (toUpper_manifestPath_ne _ _)

theorem build_dragon {manifest : List RuntimePackageFile → Bytes} {project : Project}
    {files : List RuntimePackageFile} (hlisted : Listed casing project)
    (h : build casing manifest project = .ok files) (file : RuntimePackageFile) (hfile : file ∈ files) :
    (∃ rest, file.relativePath = text "DRAGON" ++ rest) ∧
      ∃ rest, location casing file.relativePath = text "DRAGON" :: rest := by
  obtain ⟨collected, data, rfl, -, hplaced⟩ := build_ok hlisted.names h
  rcases List.mem_append.mp hfile with hfile | hfile
  · rcases List.mem_append.mp hfile with hfile | hfile
    · obtain ⟨kind, hkind⟩ := hplaced file hfile
      obtain ⟨below, heq⟩ := hkind.eq_dragonPath
      obtain ⟨rest, hlocation⟩ := hkind.location
      exact ⟨⟨_, heq⟩, _, hlocation⟩
    · obtain ⟨dragonFile, -, rfl⟩ := List.mem_map.mp hfile
      obtain ⟨rest, hlocation⟩ := location_dragonFilePath casing dragonFile
      exact ⟨⟨_, rfl⟩, _, hlocation⟩
  · obtain rfl := List.mem_singleton.mp hfile
    exact ⟨⟨_, rfl⟩, _, location_manifestPath⟩

end DragonRuntimeBuilder

namespace ImapiIsoBuilder

open DragonRuntimeBuilder

def efiName : DiskName := ⟨text "EFI", by decide, List.any_eq_false.mp rfl⟩

def bootName : DiskName := ⟨text "BOOT", by decide, List.any_eq_false.mp rfl⟩

def bootx64Name : DiskName := ⟨text "BOOTX64.EFI", by decide, List.any_eq_false.mp rfl⟩

theorem location_bootx64Path : location casing bootx64Path =
    [upperName casing efiName, upperName casing bootName, upperName casing bootx64Name] :=
  location_joinPath [efiName, bootName] bootx64Name

theorem location_bootDir : location casing bootDir = (location casing bootx64Path).dropLast := by
  rw [location_bootx64Path]
  exact location_joinPath [efiName] bootName

theorem bootx64Path_differs (rest : Text) :
    casing.toUpper (text "DRAGON" ++ rest) ≠ casing.toUpper bootx64Path := fun heq => by
  have hfront : bootx64Path = text "EFI" ++ text "\\BOOT\\BOOTX64.EFI" := rfl
  rw [hfront, casing.toUpper_append (by simp [text]), casing.toUpper_append (by simp [text])] at heq
  exact absurd (List.cons.inj heq).1 (by decide)

/-- The loader is put into a directory with nothing else in it. -/
theorem stage_eq (bootx64 : Bytes) (runtimeFiles : List RuntimePackageFile) :
    stage casing bootx64 runtimeFiles =
      PathTree.empty.putFile (location casing bootx64Path) bootx64 >>=
        fun tree => runtimeFiles.foldlM (stageFile casing) tree := by
  rw [stage, location_bootDir, PathTree.putFile, bind_assoc]

theorem foldlM_stageFile {runtimeFiles : List RuntimePackageFile} (tree : PathTree Text Bytes)
    (h : ∀ file ∈ runtimeFiles, ∃ rest, file.relativePath = text "DRAGON" ++ rest) :
    runtimeFiles.foldlM (stageFile casing) tree =
      (runtimeFiles.map fun file => (location casing file.relativePath, file.data)).foldlM
        (fun tree file => tree.putFile file.1 file.2) tree := by
  induction runtimeFiles generalizing tree with
  | nil => rfl
  | cons file files ih =>
    obtain ⟨⟨rest, hfile⟩, hfiles⟩ := List.forall_mem_cons.mp h
    have hput : stageFile casing tree file =
        tree.putFile (location casing file.relativePath) file.data := by
      rw [stageFile, if_neg]
      rw [hfile]
      exact Bool.false_ne_true
    rw [List.foldlM_cons, List.map_cons, List.foldlM_cons, hput]
    exact congrArg _ (funext fun next => ih next hfiles)

theorem stage_build {manifest : List RuntimePackageFile → Bytes} {project : Project}
    {files : List RuntimePackageFile} (hlisted : Listed casing project)
    (h : build casing manifest project = .ok files) (bootx64 : Bytes) :
    ∃ tree, stage casing bootx64 files = .ok tree ∧
      (∀ file ∈ files, tree (location casing file.relativePath) = some (.file file.data)) ∧
      tree (location casing bootx64Path) = some (.file bootx64) := by
  have hdragon := build_dragon hlisted h
  have hboot : location casing bootx64Path ≠ [] := by
    rw [location_bootx64Path]
    exact List.cons_ne_nil _ _
  have hne : upperName casing efiName ≠ text "DRAGON" := by
    rw [upperName, casing.toUpper_of_all rfl]
    decide
  obtain ⟨first, hput, hfirst⟩ := PathTree.holds_empty.putFile hboot bootx64 nofun
  have hpaths : ∀ file ∈ files.map fun file => (location casing file.relativePath, file.data),
      file.1 ≠ [] := fun file hfile => by
    obtain ⟨packageFile, hmem, rfl⟩ := List.mem_map.mp hfile
    obtain ⟨-, rest, hlocation⟩ := hdragon packageFile hmem
    rw [hlocation]
    exact List.cons_ne_nil _ _
  have hapart : ([(location casing bootx64Path, bootx64)] ++
      files.map fun file => (location casing file.relativePath, file.data)).Pairwise
        fun first second => Apart first.1 second.1 := by
    refine List.pairwise_cons.mpr ⟨fun file hfile => ?_, List.pairwise_map.mpr
      ((build_separate hlisted h).imp fun hseparate => hseparate.apart)⟩
    obtain ⟨packageFile, hmem, rfl⟩ := List.mem_map.mp hfile
    obtain ⟨-, rest, hlocation⟩ := hdragon packageFile hmem
    rw [hlocation, location_bootx64Path]
    exact apart_of_head_ne hne _ _
  obtain ⟨tree, hfiles, htree⟩ := hfirst.putFiles hpaths hapart
  refine ⟨tree, by rw [stage_eq, hput, ok_bind, foldlM_stageFile first fun file hfile =>
    (hdragon file hfile).1, hfiles], fun file hfile => ?_, ?_⟩
  · exact (htree.file_iff _ _).mpr (List.mem_append_right _ (List.mem_map_of_mem hfile))
  · exact (htree.file_iff _ _).mpr (List.mem_append_left _ (List.mem_singleton.mpr rfl))

/-- The loop over the suffixes ends whatever is registered (a set holds fewer than 2^31
paths), and only a parser of the summaries can stop the build; what is built has paths that
all differ, and staging it keeps every file. -/
theorem stage_runtimeFiles :
    (∀ (kind originalName : Text) (registry : Registry), registry.length < 2 ^ 32 →
      ∃ result, suffixLoop casing kind originalName registry allSuffixes 2 = .ok result) ∧
    ∀ (manifest : List RuntimePackageFile → Bytes) (project : Project),
      ((∀ directory ∈ sourceDirectories project, Parses directory.listing) →
        ((sourceDirectories project).map fun directory => directory.listing.length).sum < 2 ^ 32 →
        ∃ files, build casing manifest project = .ok files) ∧
      ∀ (files : List RuntimePackageFile) (bootx64 : Bytes), Listed casing project →
        build casing manifest project = .ok files →
        (files.Pairwise fun first second =>
          ¬ casing.equalsIgnoreCase first.relativePath second.relativePath) ∧
        (∀ file ∈ files, ¬ casing.equalsIgnoreCase file.relativePath bootx64Path) ∧
        ∃ tree, stage casing bootx64 files = .ok tree ∧
          (∀ file ∈ files, tree (location casing file.relativePath) = some (.file file.data)) ∧
          tree (location casing bootx64Path) = some (.file bootx64) := by
  refine ⟨fun kind originalName registry hcount => suffixLoop_returns casing kind originalName le_rfl hcount 2,
    fun manifest project => ⟨fun hparse hcount => build_returns casing manifest hparse hcount,
      fun files bootx64 hlisted h => ⟨?_, fun file hfile => ?_, stage_build hlisted h bootx64⟩⟩⟩
  · exact (build_separate hlisted h).imp fun hseparate => hseparate.differ
  · obtain ⟨⟨rest, hpath⟩, -⟩ := build_dragon hlisted h file hfile
    rw [hpath]
    exact bootx64Path_differs rest

def upperLibrary : DiskName := ⟨text "A.DLL", by decide, List.any_eq_false.mp rfl⟩

def lowerLibrary : DiskName := ⟨text "a.dll", by decide, List.any_eq_false.mp rfl⟩

/-- The same library in two directories. -/
def sameLibrary : Project where
  rootName := text "project"
  root := [{ name := lowerLibrary, data := [1] }]
  modules := some [{ name := upperLibrary, data := [2] }]
  plugins := none
  dlls := none
  assetsName := text "assets"
  assets := none
  dragonFiles := some [{ directories := [], name := lowerLibrary, data := [3] }]

def sameLibraryFiles : List RuntimePackageFile :=
  [{ relativePath := text "DRAGON\\DLL\\a.dll", data := [1] },
    { relativePath := text "DRAGON\\DLL\\modules\\A.DLL", data := [2] },
    { relativePath := text "DRAGON\\FILES\\a.dll", data := [3] },
    { relativePath := text "DRAGON\\MANIFEST.TXT", data := [] }]

theorem stage_runtimeFiles_sameLibrary :
    build asciiPathCasing (fun _ => []) sameLibrary = .ok sameLibraryFiles ∧
      ∃ tree, stage asciiPathCasing [4] sameLibraryFiles = .ok tree ∧
        (∀ file ∈ sameLibraryFiles,
          tree (location asciiPathCasing file.relativePath) = some (.file file.data)) ∧
        tree (location asciiPathCasing bootx64Path) = some (.file [4]) := by
  have hbuild : build asciiPathCasing (fun _ => []) sameLibrary = .ok sameLibraryFiles := rfl
  refine ⟨hbuild, ((stage_runtimeFiles.2 _ _).2 _ _ ⟨?_, ?_, ?_⟩ hbuild).2.2⟩
  · intro directory hdirectory files hfiles
    simp only [sourceDirectories, sameLibrary, List.mem_cons, List.not_mem_nil, or_false] at hdirectory
    rcases hdirectory with rfl | rfl | rfl | rfl | rfl | rfl <;> cases hfiles <;>
      exact List.pairwise_singleton _ _
  · exact List.pairwise_singleton _ _
  · intro first hfirst second hsecond
    obtain rfl := List.mem_singleton.mp hfirst
    obtain rfl := List.mem_singleton.mp hsecond
    decide

end ImapiIsoBuilder

end

end DragonOS.Build
