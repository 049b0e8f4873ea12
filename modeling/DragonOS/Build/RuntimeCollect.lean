import DragonOS.Build.RuntimePaths
import DragonOS.Lib.Outcome

/-!
# Collecting the runtime files

What a package path looks like: the name of the file below the directory of its kind, or,
for a library, below the name of the folder it came from. Every collected file gets a path
that no earlier file has, and only the folders `modules`, `plugins` and `dlls` are named.
-/

namespace DragonOS.Build

open Lib

-- ---------------------------------------------------------------------------
-- Names
-- ---------------------------------------------------------------------------

theorem mem_of_mem_getExtension (h : unit ∈ getExtension path) : unit ∈ path := by
  unfold getExtension at h
  simp only at h
  split at h
  next hperiod =>
    rcases List.mem_cons.mp h with rfl | hlast
    · have hhead := List.mem_of_mem_head? hperiod.1
      exact List.mem_reverse.mp (List.mem_of_mem_drop hhead)
    · exact List.mem_reverse.mp ((List.takeWhile_sublist _).subset (List.mem_reverse.mp hlast))
  next => cases h

theorem period_mem_getExtension (h : getExtension path ≠ []) : period ∈ getExtension path := by
  unfold getExtension at h ⊢
  simp only at h ⊢
  split at h
  next hperiod =>
    rw [if_pos hperiod]
    exact List.mem_cons_self
  next => exact absurd rfl h

theorem mem_of_mem_dropDrive (h : unit ∈ dropDrive path) : unit ∈ path := by
  unfold dropDrive at h
  split at h
  · split at h
    · exact List.mem_cons_of_mem _ (List.mem_cons_of_mem _ h)
    · exact h
  · exact h

theorem mem_of_mem_getFileNameWithoutExtension (h : unit ∈ getFileNameWithoutExtension path) :
    unit ∈ path := by
  unfold getFileNameWithoutExtension at h
  simp only at h
  split at h
  next => exact mem_of_mem_dropDrive h
  next last before hrest =>
    have hmem : unit ∈ (dropDrive path).reverse.dropWhile (· ≠ period) :=
      hrest ▸ List.mem_cons_of_mem _ (List.mem_reverse.mp h)
    exact mem_of_mem_dropDrive (List.mem_reverse.mp ((List.dropWhile_sublist _).subset hmem))

def SourceDirectory.listing (directory : SourceDirectory) : List SourceFile :=
  directory.files.getD []

namespace DragonRuntimeBuilder

variable {casing : PathCasing}

theorem suffixText_plain (suffix : Int32) : ∀ unit ∈ suffixText suffix, ¬ isDirectorySeparator unit := by
  intro unit hunit hseparator
  rcases suffixText_units suffix unit hunit with rfl | ⟨hlow, hhigh⟩
  · exact absurd hseparator (by decide)
  · simp only [isDirectorySeparator, Bool.or_eq_true, decide_eq_true_eq] at hseparator
    rcases hseparator with rfl | rfl
    · exact absurd hhigh (by decide)
    · exact absurd hlow (by decide)

def suffixName (name : DiskName) (suffix : Int32) : DiskName where
  units := getFileNameWithoutExtension name.units ++ 95 :: (suffixText suffix ++
    getExtension name.units)
  ne_nil := List.append_ne_nil_of_right_ne_nil _ (List.cons_ne_nil _ _)
  plain unit hunit := by
    rcases List.mem_append.mp hunit with hstem | hrest
    · exact name.plain unit (mem_of_mem_getFileNameWithoutExtension hstem)
    · rcases List.mem_cons.mp hrest with rfl | hrest
      · decide
      · rcases List.mem_append.mp hrest with hsuffix | hextension
        · exact suffixText_plain suffix unit hsuffix
        · exact name.plain unit (mem_of_mem_getExtension hextension)

-- ---------------------------------------------------------------------------
-- The paths of collected files
-- ---------------------------------------------------------------------------

/-- A folder whose name is not that of a file with an extension. -/
def FolderNamed (casing : PathCasing) (sourceFolderName : Text) : Prop :=
  ∃ folder : DiskName, folder.units = sourceFolderName ∧ period ∉ casing.toUpper folder.units

def flatPath (casing : PathCasing) (kind : RuntimeKind) (name : DiskName) : Text :=
  dragonPath (casing.toUpper kind.text) name.units

inductive Placed (casing : PathCasing) (kind : RuntimeKind) : Text → Prop
  | flat (name : DiskName) (hname : period ∈ name.units) :
      Placed casing kind (flatPath casing kind name)
  | nested (folder name : DiskName) (hkind : kind = .dll)
      (hfolder : period ∉ casing.toUpper folder.units) :
      Placed casing kind (dragonPath (casing.toUpper kind.text)
        (folder.units ++ backslash :: name.units))

theorem buildRuntimeVirtualPath_ok {kind : RuntimeKind} {name : DiskName} {path folder : Text}
    {registry next : Registry}
    (h : buildRuntimeVirtualPath casing (casing.toUpper kind.text) name.units folder registry =
      .ok (path, next))
    (hextension : getExtension name.units ≠ [])
    (hfolder : kind = .dll ∧ FolderNamed casing folder ∨
      registry.add casing (flatPath casing kind name) ≠ none) :
    registry.add casing path = some next ∧ Placed casing kind path ∧
      (registry.add casing (flatPath casing kind name) ≠ none →
        path = flatPath casing kind name) := by
  have hperiod := period_mem_getExtension hextension
  have hsuffix (h : suffixLoop casing (casing.toUpper kind.text) name.units registry allSuffixes 2 =
      .ok (path, next)) : registry.add casing path = some next ∧ Placed casing kind path := by
    obtain ⟨⟨suffix, rfl⟩, hadd⟩ := suffixLoop_ok h
    exact ⟨hadd, .flat (suffixName name suffix) (List.mem_append_right _
      (List.mem_cons_of_mem _ (List.mem_append_right _ hperiod)))⟩
  unfold buildRuntimeVirtualPath at h
  cases hflat : registry.add casing (flatPath casing kind name) with
  | some added =>
    simp only [show registry.add casing (dragonPath (casing.toUpper kind.text) name.units) =
      some added from hflat] at h
    cases h
    exact ⟨hflat, .flat name (mem_of_mem_getExtension hperiod), fun _ => rfl⟩
  | none =>
    simp only [show registry.add casing (dragonPath (casing.toUpper kind.text) name.units) =
      none from hflat] at h
    refine (and_assoc.mp ⟨?_, fun hnew => absurd rfl hnew⟩)
    split at h
    next => exact hsuffix h
    next =>
      rcases hfolder with ⟨hkind, folderName, rfl, hfolder⟩ | hnew
      · cases hnested : registry.add casing (dragonPath (casing.toUpper kind.text)
          (folderName.units ++ backslash :: name.units)) with
        | some added =>
          simp only [hnested] at h
          cases h
          exact ⟨hnested, .nested folderName name hkind hfolder⟩
        | none =>
          simp only [hnested] at h
          exact hsuffix h
      · exact absurd hflat hnew

theorem Placed.eq_dragonPath (h : Placed casing kind path) :
    ∃ rest, path = dragonPath (casing.toUpper kind.text) rest := by
  cases h with
  | flat name => exact ⟨_, rfl⟩
  | nested folder name => exact ⟨_, rfl⟩

theorem backslash_not_mem_kind (kind : RuntimeKind) :
    backslash ∉ casing.toUpper (casing.toUpper kind.text) := by
  rw [(toUpper_kind kind).1, (toUpper_kind kind).2]
  cases kind <;> decide

theorem kind_unique {first second : RuntimeKind} {firstRest secondRest : Text}
    (h : casing.toUpper (dragonPath (casing.toUpper first.text) firstRest) =
      casing.toUpper (dragonPath (casing.toUpper second.text) secondRest)) : first = second := by
  have hkinds := dragonPath_kind (backslash_not_mem_kind first) (backslash_not_mem_kind second) h
  rw [(toUpper_kind first).1, (toUpper_kind second).1, (toUpper_kind first).2,
    (toUpper_kind second).2] at hkinds
  cases first <;> cases second <;> first | rfl | exact absurd hkinds (by decide)

-- ---------------------------------------------------------------------------
-- The files of the directories
-- ---------------------------------------------------------------------------

/-- The registry is what the collected files are called, and no two are called the same. -/
structure Collected (casing : PathCasing) (state : RuntimeState) : Prop where
  registry_eq : state.registry = state.packageFiles.map (·.relativePath)
  distinct : (state.registry.keys casing).Nodup

theorem isWanted_extension {kind : RuntimeKind} {extension : Text}
    (h : isWanted casing kind extension = true) : extension ≠ [] := by
  rintro rfl
  have hnil (rest : Text) : ¬ casing.equalsIgnoreCase [] (period :: rest) := fun heq => by
    rw [Casing.equalsIgnoreCase, casing.nil, casing.toUpper_cons (by decide)] at heq
    cases heq
  have hpng : text ".png" = period :: text "png" := rfl
  have hmp4 : text ".mp4" = period :: text "mp4" := rfl
  have hdll : text ".dll" = period :: text "dll" := rfl
  simp [isWanted, hpng, hmp4, hdll, hnil] at h

theorem collectFile_ok {kind : RuntimeKind} {folder : Text} {state next : RuntimeState}
    {file : SourceFile} (hstate : Collected casing state)
    (hfolder : kind = .dll ∧ FolderNamed casing folder ∨
      state.registry.add casing (flatPath casing kind file.name) ≠ none)
    (h : collectFile casing kind folder state file = .ok next) :
    Collected casing next ∧ ∃ new, next.registry = state.registry ++ new ∧
      ∀ path ∈ new, Placed casing kind path ∧
        (state.registry.add casing (flatPath casing kind file.name) ≠ none →
          path = flatPath casing kind file.name) := by
  unfold collectFile at h
  simp only at h
  split at h
  · cases h
    exact ⟨hstate, [], (List.append_nil _).symm, nofun⟩
  split at h
  · cases h
    exact ⟨hstate, [], (List.append_nil _).symm, nofun⟩
  next hwanted =>
    have hextension := isWanted_extension (not_not.mp hwanted)
    obtain ⟨⟨path, registry⟩, hpath, h⟩ := bind_ok.mp h
    obtain ⟨metadata, -, h⟩ := bind_ok.mp h
    obtain ⟨hadd, hplaced, hflat⟩ := buildRuntimeVirtualPath_ok hpath hextension hfolder
    obtain ⟨hnew, rfl⟩ := Registry.add_some.mp hadd
    cases h
    refine ⟨⟨?_, ?_⟩, [path], rfl, List.forall_mem_singleton.mpr ⟨hplaced, hflat⟩⟩
    · rw [List.map_append, hstate.registry_eq]
      rfl
    · rw [Registry.keys_append]
      exact List.nodup_append.mpr ⟨hstate.distinct, List.nodup_singleton _,
        fun key hkey other hother => by
          obtain rfl := List.mem_singleton.mp hother
          exact fun heq => hnew (heq ▸ hkey)⟩

def CollectedMore (casing : PathCasing) (kind : RuntimeKind) (state next : RuntimeState) : Prop :=
  Collected casing next ∧ ∀ path ∈ next.registry, path ∈ state.registry ∨ Placed casing kind path

/-- No file of this kind is in the registry under the name of one of `files`. -/
def Unused (casing : PathCasing) (kind : RuntimeKind) (registry : Registry)
    (files : List SourceFile) : Prop :=
  (∀ file ∈ files, registry.add casing (flatPath casing kind file.name) ≠ none) ∧
    files.Pairwise fun first second =>
      ¬ casing.equalsIgnoreCase first.name.units second.name.units

theorem flatPath_inj {first second : DiskName}
    (h : casing.toUpper (flatPath casing kind first) = casing.toUpper (flatPath casing kind second)) :
    casing.equalsIgnoreCase first.units second.units := by
  rw [flatPath, flatPath, toUpper_dragonPath, toUpper_dragonPath] at h
  have hrest := List.append_cancel_left (List.cons.inj (List.append_cancel_left h)).2
  exact (List.cons.inj hrest).2

/-- The files of a directory: in the first directory of a kind every file gets the path with
nothing but its name, so the name of that directory is never used. -/
theorem collectFiles_ok {kind : RuntimeKind} {folder : Text} {files : List SourceFile}
    {state next : RuntimeState} (hstate : Collected casing state)
    (hfolder : kind = .dll ∧ FolderNamed casing folder ∨ Unused casing kind state.registry files)
    (h : files.foldlM (collectFile casing kind folder) state = .ok next) :
    CollectedMore casing kind state next := by
  induction files generalizing state with
  | nil =>
    obtain rfl := pure_ok.mp h
    exact ⟨hstate, fun path hpath => .inl hpath⟩
  | cons file files ih =>
    rw [List.foldlM_cons, bind_ok] at h
    obtain ⟨middle, hfile, hrest⟩ := h
    obtain ⟨hmiddle, new, hregistry, hnew⟩ := collectFile_ok hstate
      (hfolder.imp_right fun hunused => hunused.1 file List.mem_cons_self) hfile
    have hfolder : kind = .dll ∧ FolderNamed casing folder ∨
        Unused casing kind middle.registry files := by
      refine hfolder.imp_right fun hunused => ?_
      obtain ⟨hfirst, hothers⟩ := List.forall_mem_cons.mp hunused.1
      obtain ⟨hdiffer, hpairwise⟩ := List.pairwise_cons.mp hunused.2
      refine ⟨fun other hother htaken => ?_, hpairwise⟩
      rw [Registry.add_none, hregistry, Registry.keys, List.map_append, List.mem_append] at htaken
      rcases htaken with hbefore | hsame
      · exact hothers other hother (Registry.add_none.mpr hbefore)
      · obtain ⟨path, hpath, heq⟩ := List.mem_map.mp hsame
        obtain rfl := (hnew path hpath).2 hfirst
        exact hdiffer other hother (flatPath_inj heq)
    obtain ⟨hnext, hpaths⟩ := ih hmiddle hfolder hrest
    refine ⟨hnext, fun path hpath => ?_⟩
    rcases hpaths path hpath with hbefore | hplaced
    · rw [hregistry, List.mem_append] at hbefore
      exact hbefore.imp_right fun hmem => (hnew path hmem).1
    · exact .inr hplaced

def NamesDiffer (casing : PathCasing) (directory : SourceDirectory) : Prop :=
  ∀ files, directory.files = some files → files.Pairwise fun first second =>
    ¬ casing.equalsIgnoreCase first.name.units second.name.units

def KnownKinds (casing : PathCasing) (kinds : List RuntimeKind) (registry : Registry) : Prop :=
  ∀ path ∈ registry, ∃ kind ∈ kinds, Placed casing kind path

/-- Every directory is the first of its kind, or a folder that may be named. -/
def FirstOrFolder (casing : PathCasing) : (kinds : List RuntimeKind) → List SourceDirectory → Prop
  | _, [] => True
  | kinds, directory :: rest =>
    (directory.kind = .dll ∧ FolderNamed casing directory.name ∨ directory.kind ∉ kinds) ∧
      FirstOrFolder casing (directory.kind :: kinds) rest

theorem collectDirectory_ok {directory : SourceDirectory} {kinds : List RuntimeKind}
    {state next : RuntimeState} (hstate : Collected casing state)
    (hkinds : KnownKinds casing kinds state.registry) (hnames : NamesDiffer casing directory)
    (hfolder : directory.kind = .dll ∧ FolderNamed casing directory.name ∨ directory.kind ∉ kinds)
    (h : collectDirectory casing state directory = .ok next) :
    CollectedMore casing directory.kind state next := by
  unfold collectDirectory at h
  split at h
  next =>
    cases h
    exact ⟨hstate, fun path hpath => .inl hpath⟩
  next files hfiles =>
    refine collectFiles_ok hstate (hfolder.imp_right fun hfirst => ⟨?_, hnames files hfiles⟩) h
    intro file hfile htaken
    obtain ⟨path, hpath, heq⟩ := List.mem_map.mp (Registry.add_none.mp htaken)
    obtain ⟨kind, hkind, hplaced⟩ := hkinds path hpath
    obtain ⟨rest, rfl⟩ := hplaced.eq_dragonPath
    exact hfirst (kind_unique heq ▸ hkind)

theorem collectDirectories_ok {directories : List SourceDirectory} {kinds : List RuntimeKind}
    {state next : RuntimeState} (hstate : Collected casing state)
    (hkinds : KnownKinds casing kinds state.registry)
    (hnames : ∀ directory ∈ directories, NamesDiffer casing directory)
    (hfolders : FirstOrFolder casing kinds directories)
    (h : directories.foldlM (collectDirectory casing) state = .ok next) :
    Collected casing next ∧ ∀ path ∈ next.registry, ∃ kind, Placed casing kind path := by
  induction directories generalizing kinds state with
  | nil =>
    obtain rfl := pure_ok.mp h
    exact ⟨hstate, fun path hpath => (hkinds path hpath).imp fun _ hplaced => hplaced.2⟩
  | cons directory directories ih =>
    obtain ⟨hfirst, hothers⟩ := List.forall_mem_cons.mp hnames
    rw [List.foldlM_cons, bind_ok] at h
    obtain ⟨middle, hdirectory, hrest⟩ := h
    obtain ⟨hmiddle, hpaths⟩ := collectDirectory_ok hstate hkinds hfirst hfolders.1 hdirectory
    refine ih hmiddle (fun path hpath => ?_) hothers hfolders.2 hrest
    rcases hpaths path hpath with hbefore | hplaced
    · obtain ⟨kind, hkind, hplaced⟩ := hkinds path hbefore
      exact ⟨kind, List.mem_cons_of_mem _ hkind, hplaced⟩
    · exact ⟨directory.kind, List.mem_cons_self, hplaced⟩

theorem folderNamed_of_all {sourceFolderName : Text} (hne : sourceFolderName ≠ [])
    (hplain : sourceFolderName.any isDirectorySeparator = false)
    (hascii : (sourceFolderName.all fun unit => unit < 128) = true)
    (hperiod : period ∉ sourceFolderName.map asciiUpper) : FolderNamed casing sourceFolderName :=
  ⟨⟨sourceFolderName, hne, List.any_eq_false.mp hplain⟩, rfl, casing.toUpper_of_all hascii ▸ hperiod⟩

theorem firstOrFolder_sourceDirectories (project : Project) :
    FirstOrFolder casing [] (sourceDirectories project) :=
  have hmodules : FolderNamed casing (text "modules") :=
    folderNamed_of_all (by decide) rfl rfl (by decide)
  have hplugins : FolderNamed casing (text "plugins") :=
    folderNamed_of_all (by decide) rfl rfl (by decide)
  have hdlls : FolderNamed casing (text "dlls") :=
    folderNamed_of_all (by decide) rfl rfl (by decide)
  ⟨.inr List.not_mem_nil, .inl ⟨rfl, hmodules⟩, .inl ⟨rfl, hplugins⟩, .inl ⟨rfl, hdlls⟩,
    .inr (by simp), .inr (by simp), trivial⟩

theorem packageFiles_foldl_collectDragonFile (files : List DragonFile) (state : RuntimeState) :
    (files.foldl (collectDragonFile casing) state).packageFiles = state.packageFiles ++
      files.map fun file => { relativePath := dragonFilePath file, data := file.data } := by
  induction files generalizing state with
  | nil => exact (List.append_nil _).symm
  | cons file files ih =>
    rw [List.foldl_cons, ih, collectDragonFile, List.map_cons, List.append_assoc]
    rfl

/-- What comes out: the collected files under paths of their own, the files of
`dragon_files` and the manifest. -/
theorem build_ok {manifest : List RuntimePackageFile → Bytes} {project : Project}
    {files : List RuntimePackageFile}
    (hnames : ∀ directory ∈ sourceDirectories project, NamesDiffer casing directory)
    (h : build casing manifest project = .ok files) :
    ∃ collected data, files = collected ++
        (project.dragonFiles.getD []).map (fun file =>
          { relativePath := dragonFilePath file, data := file.data }) ++
        [{ relativePath := manifestPath, data }] ∧
      (collected.map fun file => casing.toUpper file.relativePath).Nodup ∧
      ∀ file ∈ collected, ∃ kind, Placed casing kind file.relativePath := by
  unfold build at h
  obtain ⟨state, hcollect, h⟩ := bind_ok.mp h
  have hempty : Collected casing { packageFiles := [], registry := [] } := ⟨rfl, List.nodup_nil⟩
  obtain ⟨hstate, hplaced⟩ := collectDirectories_ok hempty nofun hnames
    (firstOrFolder_sourceDirectories project) hcollect
  cases h
  refine ⟨state.packageFiles, _, by rw [packageFiles_foldl_collectDragonFile], ?_, ?_⟩
  · have hdistinct := hstate.distinct
    rwa [Registry.keys, hstate.registry_eq, List.map_map] at hdistinct
  · intro file hfile
    exact hplaced _ (hstate.registry_eq ▸ List.mem_map_of_mem hfile)

-- ---------------------------------------------------------------------------
-- Nothing but a parser stops the build
-- ---------------------------------------------------------------------------

section
variable (casing)

theorem buildRuntimeVirtualPath_returns (kind originalName folder : Text) {registry : Registry}
    (hcount : registry.length < 2 ^ 32) :
    ∃ path, buildRuntimeVirtualPath casing kind originalName folder registry =
      .ok (path, registry ++ [path]) := by
  have hsuffix : ∃ path, suffixLoop casing kind originalName registry allSuffixes 2 =
      .ok (path, registry ++ [path]) := by
    obtain ⟨⟨path, next⟩, hloop⟩ :=
      suffixLoop_returns casing kind originalName le_rfl hcount 2
    obtain ⟨-, rfl⟩ := Registry.add_some.mp (suffixLoop_ok hloop).2
    exact ⟨path, hloop⟩
  unfold buildRuntimeVirtualPath
  cases hflat : registry.add casing (dragonPath kind originalName) with
  | some next =>
    obtain ⟨-, rfl⟩ := Registry.add_some.mp hflat
    exact ⟨_, rfl⟩
  | none =>
    simp only
    split
    next => exact hsuffix
    next =>
      cases hnested : registry.add casing (dragonPath kind (folder ++ backslash :: originalName)) with
      | some next =>
        obtain ⟨-, rfl⟩ := Registry.add_some.mp hnested
        exact ⟨_, rfl⟩
      | none => exact hsuffix

def Parses (files : List SourceFile) : Prop :=
  ∀ file ∈ files, ∃ result, Mp4MetadataParser.tryParse file.data = .ok result

theorem collectFile_returns (kind : RuntimeKind) (folder : Text) (state : RuntimeState)
    {file : SourceFile} (hparse : ∃ result, Mp4MetadataParser.tryParse file.data = .ok result)
    (hcount : state.registry.length < 2 ^ 32) :
    ∃ next, collectFile casing kind folder state file = .ok next ∧
      next.registry.length ≤ state.registry.length + 1 := by
  unfold collectFile
  simp only
  split
  · exact ⟨state, rfl, Nat.le_succ _⟩
  split
  · exact ⟨state, rfl, Nat.le_succ _⟩
  next =>
    obtain ⟨path, hpath⟩ := buildRuntimeVirtualPath_returns casing
      (casing.toUpper kind.text) file.name.units folder hcount
    obtain ⟨result, hresult⟩ := hparse
    have hmetadata : ∃ metadata, readMetadata casing (getExtension file.name.units) file.data =
        .ok metadata := by
      unfold readMetadata
      split
      · exact ⟨_, by rw [hresult, ok_bind]⟩
      · exact ⟨none, rfl⟩
    obtain ⟨metadata, hmetadata⟩ := hmetadata
    refine ⟨_, by rw [hpath, ok_bind]; simp only; rw [hmetadata, ok_bind], ?_⟩
    rw [List.length_append, List.length_singleton]

theorem collectFiles_returns (kind : RuntimeKind) (folder : Text) {files : List SourceFile}
    (state : RuntimeState) (hparse : Parses files)
    (hcount : state.registry.length + files.length < 2 ^ 32) :
    ∃ next, files.foldlM (collectFile casing kind folder) state = .ok next ∧
      next.registry.length ≤ state.registry.length + files.length := by
  induction files generalizing state with
  | nil => exact ⟨state, rfl, le_rfl⟩
  | cons file files ih =>
    obtain ⟨hfile, hfiles⟩ := List.forall_mem_cons.mp hparse
    rw [List.length_cons] at hcount
    obtain ⟨middle, hmiddle, hlength⟩ :=
      collectFile_returns casing kind folder state hfile (by omega)
    obtain ⟨next, hnext, hle⟩ := ih middle hfiles (by omega)
    refine ⟨next, by rw [List.foldlM_cons, hmiddle, ok_bind, hnext], ?_⟩
    rw [List.length_cons]
    omega

theorem collectDirectories_returns {directories : List SourceDirectory} (state : RuntimeState)
    (hparse : ∀ directory ∈ directories, Parses directory.listing)
    (hcount : state.registry.length +
      (directories.map fun directory => directory.listing.length).sum < 2 ^ 32) :
    ∃ next, directories.foldlM (collectDirectory casing) state = .ok next := by
  induction directories generalizing state with
  | nil => exact ⟨state, rfl⟩
  | cons directory directories ih =>
    obtain ⟨hfirst, hothers⟩ := List.forall_mem_cons.mp hparse
    rw [List.map_cons, List.sum_cons] at hcount
    have hdirectory : collectDirectory casing state directory =
        directory.listing.foldlM (collectFile casing directory.kind directory.name) state := by
      unfold collectDirectory SourceDirectory.listing
      cases directory.files <;> rfl
    obtain ⟨middle, hmiddle, hlength⟩ := collectFiles_returns casing directory.kind
      directory.name state hfirst (by omega)
    obtain ⟨next, hnext⟩ := ih middle hothers (by omega)
    exact ⟨next, by rw [List.foldlM_cons, hdirectory, hmiddle, ok_bind, hnext]⟩

theorem build_returns (manifest : List RuntimePackageFile → Bytes) {project : Project}
    (hparse : ∀ directory ∈ sourceDirectories project, Parses directory.listing)
    (hcount : ((sourceDirectories project).map fun directory =>
      directory.listing.length).sum < 2 ^ 32) :
    ∃ files, build casing manifest project = .ok files := by
  obtain ⟨state, hstate⟩ := collectDirectories_returns casing
    { packageFiles := [], registry := [] } hparse (by rwa [List.length_nil, Nat.zero_add])
  exact ⟨_, by rw [build, hstate, ok_bind]⟩

end

end DragonRuntimeBuilder

end DragonOS.Build
