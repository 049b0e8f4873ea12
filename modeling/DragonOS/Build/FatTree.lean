import DragonOS.Build.ShortName

/-!
# The directory tree

The files of the package are put into a tree of short names. A directory is known by
the list of its children; the root is only such a list. `fileAt` and `directoryAt`
look a path up, and say what every insertion does to the tree.
-/

namespace DragonOS.Build

structure Extent where
  startCluster : Int
  clusterCount : Int
  deriving DecidableEq, Repr

inductive FatNode
  | directory (shortName : ShortPart 8) (extent : Extent) (children : List FatNode)
  | file (shortName : ShortPart 8) (shortExtension : ShortPart 3) (extent : Extent) (data : Bytes)

structure RuntimePackageFile where
  relativePath : Text
  data : Bytes

-- ---------------------------------------------------------------------------
-- Building the tree
-- ---------------------------------------------------------------------------

section
variable (casing : Casing)

def FatNode.isDirectoryNamed (name : ShortPart 8) : FatNode → Bool
  | .directory shortName _ _ => casing.equalsIgnoreCase shortName.units name.units
  | .file .. => false

def FatNode.isFileNamed (parts : ShortNameParts) : FatNode → Bool
  | .directory .. => false
  | .file shortName shortExtension _ _ =>
    casing.equalsIgnoreCase shortName.units parts.name.units &&
      casing.equalsIgnoreCase shortExtension.units parts.extension.units

def newDirectory (shortName : ShortPart 8) (children : List FatNode) : FatNode :=
  .directory (normalizeName casing shortName.units) ⟨0, 0⟩ children

def FatNode.updateChildren (change : List FatNode → List FatNode) : FatNode → FatNode
  | .directory shortName extent children => .directory shortName extent (change children)
  | .file shortName shortExtension extent data => .file shortName shortExtension extent data

/-- `GetOrAddDirectory`, with what is then done to the directory it returns. -/
def getOrAddDirectory (rawName : Text) (change : List FatNode → List FatNode) :
    List FatNode → List FatNode
  | [] => [newDirectory casing (normalizeName casing rawName) (change [])]
  | child :: rest =>
    if child.isDirectoryNamed casing (normalizeName casing rawName) then
      child.updateChildren change :: rest
    else child :: getOrAddDirectory rawName change rest

def addFile (rawName : Text) (data : Bytes) (children : List FatNode) : List FatNode :=
  let normalized := normalizeFile casing rawName
  children.filter (fun child => !child.isFileNamed casing normalized) ++
    [.file normalized.name normalized.extension ⟨0, 0⟩ data]

def addAtSegments (data : Bytes) : List Text → List FatNode → List FatNode
  | [], children => children
  | [rawName], children => addFile casing rawName data children
  | rawName :: rest, children =>
    getOrAddDirectory casing rawName (addAtSegments data rest) children

def addRuntimeFile (root : List FatNode) (runtimeFile : RuntimePackageFile) : List FatNode :=
  addAtSegments casing runtimeFile.data (splitPath runtimeFile.relativePath) root

def bootSegments : List Text := [text "EFI", text "BOOT", text "BOOTX64.EFI"]

def buildTree (bootx64 : Bytes) (runtimeFiles : List RuntimePackageFile) : List FatNode :=
  runtimeFiles.foldl (addRuntimeFile casing) (addAtSegments casing bootx64 bootSegments [])

def packageFiles (bootx64 : Bytes) (runtimeFiles : List RuntimePackageFile) :
    List (FatPath × Bytes) :=
  ((normalizeSegments casing bootSegments).map (·, bootx64)).toList ++
    runtimeFiles.filterMap fun runtimeFile =>
      (normalizePath casing runtimeFile.relativePath).map (·, runtimeFile.data)

end

-- ---------------------------------------------------------------------------
-- Looking a path up
-- ---------------------------------------------------------------------------

def childDirectory (name : ShortPart 8) : List FatNode → Option (List FatNode)
  | [] => none
  | .directory shortName _ children :: rest =>
    if shortName = name then some children else childDirectory name rest
  | .file .. :: rest => childDirectory name rest

def childFile (parts : ShortNameParts) : List FatNode → Option Bytes
  | [] => none
  | .directory .. :: rest => childFile parts rest
  | .file shortName shortExtension _ data :: rest =>
    if shortName = parts.name ∧ shortExtension = parts.extension then some data
    else childFile parts rest

def directoryAt : List (ShortPart 8) → List FatNode → Option (List FatNode)
  | [], children => some children
  | name :: names, children => (childDirectory name children).bind (directoryAt names)

def fileAt (path : FatPath) (root : List FatNode) : Option Bytes :=
  (directoryAt path.directories root).bind (childFile path.file)

section
variable {casing : Casing} {children : List FatNode} {data : Bytes}

theorem isDirectoryNamed_iff {child : FatNode} : child.isDirectoryNamed casing name ↔
    ∃ extent grandchildren, child = .directory name extent grandchildren := by
  cases child with
  | directory shortName extent grandchildren =>
    simp [FatNode.isDirectoryNamed, ShortPart.equalsIgnoreCase_iff]
  | file => simp [FatNode.isDirectoryNamed]

theorem isFileNamed_iff {child : FatNode} : child.isFileNamed casing parts ↔
    ∃ extent data, child = .file parts.name parts.extension extent data := by
  cases child with
  | directory => simp [FatNode.isFileNamed]
  | file shortName shortExtension extent data =>
    simp [FatNode.isFileNamed, ShortPart.equalsIgnoreCase_iff]

theorem childDirectory_getOrAddDirectory (change : List FatNode → List FatNode) :
    childDirectory name (getOrAddDirectory casing rawName change children) =
      if normalizeName casing rawName = name then
        some (change ((childDirectory name children).getD []))
      else childDirectory name children := by
  induction children with
  | nil =>
    rw [getOrAddDirectory, newDirectory, normalizeName_units]
    rfl
  | cons child rest ih =>
    rw [getOrAddDirectory]
    split
    next hnamed =>
      obtain ⟨extent, grandchildren, rfl⟩ := isDirectoryNamed_iff.mp hnamed
      by_cases hname : normalizeName casing rawName = name <;>
        simp [FatNode.updateChildren, childDirectory, hname]
    next hnamed =>
      cases child with
      | file => simpa only [childDirectory] using ih
      | directory shortName extent grandchildren =>
        have hother : shortName ≠ normalizeName casing rawName := by
          rintro rfl
          exact hnamed (isDirectoryNamed_iff.mpr ⟨_, _, rfl⟩)
        by_cases hname : shortName = name
        · have hne : normalizeName casing rawName ≠ name := fun h => hother (hname.trans h.symm)
          simp [childDirectory, hname, hne]
        · simpa only [childDirectory, if_neg hname] using ih

theorem childFile_getOrAddDirectory (change : List FatNode → List FatNode) :
    childFile parts (getOrAddDirectory casing rawName change children) =
      childFile parts children := by
  induction children with
  | nil => rfl
  | cons child rest ih =>
    rw [getOrAddDirectory]
    split
    next hnamed =>
      obtain ⟨extent, grandchildren, rfl⟩ := isDirectoryNamed_iff.mp hnamed
      rfl
    next =>
      cases child with
      | directory => simpa only [childFile] using ih
      | file => simp only [childFile, ih]

theorem childDirectory_append {first second : List FatNode} :
    childDirectory name (first ++ second) =
      (childDirectory name first).or (childDirectory name second) := by
  induction first with
  | nil => rfl
  | cons child rest ih =>
    cases child with
    | file => simpa only [List.cons_append, childDirectory] using ih
    | directory shortName extent grandchildren =>
      simp only [List.cons_append, childDirectory, ih]
      split <;> rfl

theorem childFile_append {first second : List FatNode} :
    childFile parts (first ++ second) = (childFile parts first).or (childFile parts second) := by
  induction first with
  | nil => rfl
  | cons child rest ih =>
    cases child with
    | directory => simpa only [List.cons_append, childFile] using ih
    | file shortName shortExtension extent data =>
      simp only [List.cons_append, childFile, ih]
      split <;> rfl

theorem childDirectory_filter {keep : FatNode → Bool}
    (hkeep : ∀ shortName extent grandchildren, keep (.directory shortName extent grandchildren)) :
    childDirectory name (children.filter keep) = childDirectory name children := by
  induction children with
  | nil => rfl
  | cons child rest ih =>
    cases child with
    | directory shortName extent grandchildren =>
      rw [List.filter_cons_of_pos (hkeep _ _ _), childDirectory, childDirectory, ih]
    | file shortName shortExtension extent data =>
      rw [List.filter_cons]
      split <;> simp only [childDirectory, ih]

theorem childDirectory_addFile :
    childDirectory name (addFile casing rawName data children) = childDirectory name children := by
  rw [addFile, childDirectory_append, childDirectory_filter fun _ _ _ => rfl]
  simp only [childDirectory, Option.or_none]

theorem childFile_filter_isFileNamed :
    childFile parts (children.filter fun child => !child.isFileNamed casing removed) =
      if removed = parts then none else childFile parts children := by
  induction children with
  | nil =>
    simp only [List.filter_nil, childFile]
    split <;> rfl
  | cons child rest ih =>
    cases child with
    | directory =>
      rw [List.filter_cons_of_pos rfl]
      exact ih
    | file shortName shortExtension extent data =>
      by_cases hnamed : (FatNode.file shortName shortExtension extent data).isFileNamed casing removed
      · obtain ⟨extent', data', heq⟩ := isFileNamed_iff.mp hnamed
        cases heq
        rw [List.filter_cons_of_neg (by simp [hnamed]), ih, childFile]
        by_cases hparts : removed = parts
        · rw [if_pos hparts, if_pos hparts]
        · rw [if_neg hparts, if_neg hparts, if_neg fun h => hparts (by cases removed; cases parts; simp_all)]
      · rw [List.filter_cons_of_pos (by simp [hnamed]), childFile, childFile, ih]
        by_cases hparts : removed = parts
        · subst hparts
          rw [if_neg fun h => hnamed (isFileNamed_iff.mpr ⟨_, _, by rw [h.1, h.2]⟩), if_pos rfl,
            if_pos rfl]
        · rw [if_neg hparts, if_neg hparts]

theorem childFile_addFile :
    childFile parts (addFile casing rawName data children) =
      if normalizeFile casing rawName = parts then some data else childFile parts children := by
  rw [addFile, childFile_append, childFile_filter_isFileNamed]
  by_cases hparts : normalizeFile casing rawName = parts
  · subst hparts
    rw [if_pos rfl, if_pos rfl, Option.none_or, childFile, if_pos ⟨rfl, rfl⟩]
  · rw [if_neg hparts, if_neg hparts, childFile,
      if_neg fun h => hparts (by cases parts; simp_all [ShortNameParts.ext_iff]), childFile, Option.or_none]

-- ---------------------------------------------------------------------------
-- What an insertion does
-- ---------------------------------------------------------------------------

theorem fileAt_cons : fileAt ⟨name :: names, file⟩ children =
    (childDirectory name children).bind (fileAt ⟨names, file⟩) := by
  simp only [fileAt, directoryAt, Option.bind_assoc]
  rfl

theorem fileAt_nil_tree : fileAt path [] = none := by
  cases path with
  | mk directories file =>
    cases directories with
    | nil => rfl
    | cons name names => rw [fileAt_cons, childDirectory, Option.bind_none]

theorem fileAt_addAtSegments {segments : List Text} :
    fileAt path (addAtSegments casing data segments children) =
      if normalizeSegments casing segments = some path then some data else fileAt path children := by
  induction segments using normalizeSegments.induct generalizing path children with
  | case1 => rfl
  | case2 rawName =>
    rw [addAtSegments, normalizeSegments]
    cases path with
    | mk directories file =>
      cases directories with
      | nil =>
        simp only [fileAt, directoryAt, Option.bind_some, childFile_addFile, Option.some.injEq,
          FatPath.mk.injEq, true_and]
      | cons name names =>
        rw [fileAt_cons, childDirectory_addFile, ← fileAt_cons, if_neg nofun]
  | case3 rawName rest hrest ih =>
    rw [addAtSegments.eq_3 _ _ _ _ _ hrest, normalizeSegments.eq_3 _ _ _ hrest]
    cases path with
    | mk directories file =>
      cases directories with
      | nil =>
        rw [if_neg (by simp [FatPath.below])]
        simp only [fileAt, directoryAt, Option.bind_some, childFile_getOrAddDirectory]
      | cons name names =>
        rw [fileAt_cons, fileAt_cons, childDirectory_getOrAddDirectory]
        simp only [Option.map_eq_some_iff, FatPath.below_eq]
        by_cases hname : normalizeName casing rawName = name
        · simp only [hname, true_and, exists_eq_right, if_true, Option.bind_some, ih]
          cases childDirectory name children with
          | none => simp only [Option.getD_none, fileAt_nil_tree, Option.bind_none]
          | some grandchildren => rfl
        · simp only [hname, false_and, and_false, exists_false, if_false]

theorem normalizeSegments_isSome {segments : List Text} (h : segments ≠ []) :
    (normalizeSegments casing segments).isSome := by
  induction segments using normalizeSegments.induct with
  | case1 => exact absurd rfl h
  | case2 => rfl
  | case3 rawName rest hrest ih =>
    rw [normalizeSegments.eq_3 _ _ _ hrest, Option.isSome_map]
    exact ih hrest

theorem directoryAt_addAtSegments {segments : List Text} :
    (directoryAt names (addAtSegments casing data segments children)).isSome ↔
      (directoryAt names children).isSome ∨
        ∃ path, normalizeSegments casing segments = some path ∧ names <+: path.directories := by
  induction segments using normalizeSegments.induct generalizing names children with
  | case1 => simp [addAtSegments, normalizeSegments]
  | case2 rawName =>
    cases names with
    | nil => simp [directoryAt]
    | cons name names =>
      simp [addAtSegments, normalizeSegments, directoryAt, childDirectory_addFile]
  | case3 rawName rest hrest ih =>
    rw [addAtSegments.eq_3 _ _ _ _ _ hrest, normalizeSegments.eq_3 _ _ _ hrest]
    cases names with
    | nil => simp [directoryAt]
    | cons name names =>
      simp only [directoryAt, childDirectory_getOrAddDirectory, Option.map_eq_some_iff]
      by_cases hname : normalizeName casing rawName = name
      · have hbelow : (∃ path, (∃ below, normalizeSegments casing rest = some below ∧
              below.below (normalizeName casing rawName) = path) ∧
                name :: names <+: path.directories) ↔
            ∃ below, normalizeSegments casing rest = some below ∧ names <+: below.directories := by
          constructor
          · rintro ⟨_, ⟨below, hbelow, rfl⟩, hprefix⟩
            exact ⟨below, hbelow, (List.cons_prefix_cons.mp hprefix).2⟩
          · rintro ⟨below, hbelow, hprefix⟩
            exact ⟨_, ⟨below, hbelow, rfl⟩, List.cons_prefix_cons.mpr ⟨hname.symm, hprefix⟩⟩
        rw [if_pos hname, Option.bind_some, ih, hbelow]
        cases childDirectory name children with
        | some grandchildren => rfl
        | none =>
          cases names with
          | cons => rfl
          | nil =>
            obtain ⟨below, hbelow⟩ := Option.isSome_iff_exists.mp (normalizeSegments_isSome hrest)
            exact ⟨fun _ => .inr ⟨below, hbelow, List.nil_prefix⟩,
              fun _ => .inr ⟨below, hbelow, List.nil_prefix⟩⟩
      · have hnot : ∀ path : FatPath, ¬ name :: names <+: (path.below (normalizeName casing rawName)).directories :=
          fun path h => hname (List.cons_prefix_cons.mp h).1.symm
        rw [if_neg hname]
        refine ⟨.inl, fun h => h.resolve_right ?_⟩
        rintro ⟨_, ⟨path, _, rfl⟩, hprefix⟩
        exact hnot path hprefix

end

-- ---------------------------------------------------------------------------
-- No name occurs twice in a directory
-- ---------------------------------------------------------------------------

/-- The name of a child: a directory has no extension. -/
def FatNode.key : FatNode → ShortPart 8 × Option (ShortPart 3)
  | .directory shortName _ _ => (shortName, none)
  | .file shortName shortExtension _ _ => (shortName, some shortExtension)

mutual

def FatNode.WellNamed : FatNode → Prop
  | .directory _ _ children => WellNamed children
  | .file .. => True

def WellNamed : List FatNode → Prop
  | [] => True
  | child :: rest => child.WellNamed ∧ child.key ∉ rest.map FatNode.key ∧ WellNamed rest

end

theorem wellNamed_iff {children : List FatNode} : WellNamed children ↔
    (children.map FatNode.key).Nodup ∧ ∀ child ∈ children, child.WellNamed := by
  induction children with
  | nil => simp [WellNamed]
  | cons child rest ih =>
    rw [WellNamed, ih, List.map_cons, List.nodup_cons, List.forall_mem_cons]
    tauto

theorem filter_key_of_notMem {nodes : List FatNode} (h : key ∉ nodes.map FatNode.key) :
    nodes.filter (·.key = key) = [] := by
  rw [List.filter_eq_nil_iff]
  intro node hnode hkey
  exact h (List.mem_map.mpr ⟨node, hnode, of_decide_eq_true hkey⟩)

theorem filter_directory {nodes : List FatNode} (h : WellNamed nodes) (name : ShortPart 8) :
    (childDirectory name nodes = none ∧ nodes.filter (·.key = (name, none)) = []) ∨
      ∃ extent children, childDirectory name nodes = some children ∧
        nodes.filter (·.key = (name, none)) = [.directory name extent children] := by
  induction nodes with
  | nil => exact .inl ⟨rfl, rfl⟩
  | cons node rest ih =>
    obtain ⟨-, hkey, hrest⟩ := h
    cases node with
    | directory shortName extent children =>
      by_cases hname : shortName = name
      · subst hname
        refine .inr ⟨extent, children, if_pos rfl, ?_⟩
        rw [List.filter_cons_of_pos (by simp [FatNode.key])]
        exact congrArg (_ :: ·) (filter_key_of_notMem hkey)
      · rw [List.filter_cons_of_neg (by simp [FatNode.key, hname]), childDirectory, if_neg hname]
        exact ih hrest
    | file =>
      rw [List.filter_cons_of_neg (by simp [FatNode.key]), childDirectory]
      exact ih hrest

theorem filter_file {nodes : List FatNode} (h : WellNamed nodes) (parts : ShortNameParts) :
    (childFile parts nodes = none ∧
        nodes.filter (·.key = (parts.name, some parts.extension)) = []) ∨
      ∃ extent data, childFile parts nodes = some data ∧
        nodes.filter (·.key = (parts.name, some parts.extension)) =
          [.file parts.name parts.extension extent data] := by
  induction nodes with
  | nil => exact .inl ⟨rfl, rfl⟩
  | cons node rest ih =>
    obtain ⟨-, hkey, hrest⟩ := h
    cases node with
    | directory =>
      rw [List.filter_cons_of_neg (by simp [FatNode.key]), childFile]
      exact ih hrest
    | file shortName shortExtension extent data =>
      by_cases hname : shortName = parts.name ∧ shortExtension = parts.extension
      · obtain ⟨rfl, rfl⟩ := hname
        refine .inr ⟨extent, data, if_pos ⟨rfl, rfl⟩, ?_⟩
        rw [List.filter_cons_of_pos (by simp [FatNode.key])]
        exact congrArg (_ :: ·) (filter_key_of_notMem hkey)
      · rw [List.filter_cons_of_neg (by simpa [FatNode.key] using hname), childFile, if_neg hname]
        exact ih hrest

section
variable {casing : Casing} {children : List FatNode} {data : Bytes}

theorem isDirectoryNamed_iff_key {child : FatNode} :
    child.isDirectoryNamed casing name ↔ child.key = (name, none) := by
  rw [isDirectoryNamed_iff]
  cases child <;> simp [FatNode.key]

theorem isFileNamed_iff_key {child : FatNode} :
    child.isFileNamed casing parts ↔ child.key = (parts.name, some parts.extension) := by
  rw [isFileNamed_iff]
  cases child <;> simp [FatNode.key]

theorem wellNamed_addFile (h : WellNamed children) :
    WellNamed (addFile casing rawName data children) := by
  rw [wellNamed_iff] at h ⊢
  obtain ⟨hkeys, hchildren⟩ := h
  rw [addFile, List.map_append, List.nodup_append]
  refine ⟨⟨hkeys.sublist (List.filter_sublist.map _), by simp, ?_⟩, ?_⟩
  · intro key hkey new hnew
    obtain ⟨child, hchild, rfl⟩ := List.mem_map.mp hkey
    obtain rfl := List.mem_singleton.mp hnew
    have hkept := (List.mem_filter.mp hchild).2
    rintro hsame
    rw [Bool.not_eq_true', isFileNamed_iff_key.mpr hsame] at hkept
    exact absurd hkept nofun
  · intro child hchild
    obtain hold | hnew := List.mem_append.mp hchild
    · exact hchildren child (List.mem_of_mem_filter hold)
    · obtain rfl := List.mem_singleton.mp hnew
      trivial

theorem key_of_getOrAddDirectory
    (h : key ∈ (getOrAddDirectory casing rawName change children).map FatNode.key) :
    key ∈ children.map FatNode.key ∨ key = (normalizeName casing rawName, none) := by
  induction children with
  | nil =>
    right
    simpa only [getOrAddDirectory, newDirectory, normalizeName_units, List.map_cons, List.map_nil,
      List.mem_singleton, FatNode.key] using h
  | cons child rest ih =>
    rw [getOrAddDirectory] at h
    split at h
    next hnamed =>
      rw [List.map_cons, List.mem_cons] at h ⊢
      obtain rfl | hrest := h
      · left
        cases child <;> exact .inl rfl
      · exact .inl (.inr hrest)
    next =>
      rw [List.map_cons, List.mem_cons] at h ⊢
      obtain hchild | hrest := h
      · exact .inl (.inl hchild)
      · exact (ih hrest).imp_left .inr

theorem wellNamed_getOrAddDirectory {change : List FatNode → List FatNode}
    (hchange : ∀ grandchildren, WellNamed grandchildren → WellNamed (change grandchildren))
    (h : WellNamed children) : WellNamed (getOrAddDirectory casing rawName change children) := by
  induction children with
  | nil => exact ⟨hchange [] trivial, List.not_mem_nil, trivial⟩
  | cons child rest ih =>
    obtain ⟨hchild, hkey, hrest⟩ := h
    rw [getOrAddDirectory]
    split
    next hnamed =>
      obtain ⟨extent, grandchildren, rfl⟩ := isDirectoryNamed_iff.mp hnamed
      exact ⟨hchange grandchildren hchild, hkey, hrest⟩
    next hnamed =>
      refine ⟨hchild, fun hmem => ?_, ih hrest⟩
      obtain hold | hnew := key_of_getOrAddDirectory hmem
      · exact hkey hold
      · exact hnamed (isDirectoryNamed_iff_key.mpr hnew)

theorem wellNamed_addAtSegments {segments : List Text} (h : WellNamed children) :
    WellNamed (addAtSegments casing data segments children) := by
  induction segments using normalizeSegments.induct generalizing children with
  | case1 => exact h
  | case2 rawName => exact wellNamed_addFile h
  | case3 rawName rest hrest ih =>
    rw [addAtSegments.eq_3 _ _ _ _ _ hrest]
    exact wellNamed_getOrAddDirectory (fun _ => ih) h

-- ---------------------------------------------------------------------------
-- The whole tree
-- ---------------------------------------------------------------------------

theorem wellNamed_buildTree : WellNamed (buildTree casing bootx64 runtimeFiles) := by
  rw [buildTree]
  have hstart : WellNamed (addAtSegments casing bootx64 bootSegments []) :=
    wellNamed_addAtSegments trivial
  revert hstart
  generalize addAtSegments casing bootx64 bootSegments [] = root
  intro hroot
  induction runtimeFiles generalizing root with
  | nil => exact hroot
  | cons runtimeFile rest ih => exact ih _ (wellNamed_addAtSegments hroot)

/-- Of two files with one path the later one stays. -/
def lastWritten (files : List (FatPath × Bytes)) (path : FatPath) : Option Bytes :=
  files.reverse.lookup path

theorem lastWritten_append {written : Option FatPath} :
    lastWritten (files ++ (written.map (·, data)).toList) path =
      if written = some path then some data else lastWritten files path := by
  cases written with
  | none => simp
  | some path' =>
    rw [lastWritten, Option.map_some, Option.toList_some, List.reverse_append,
      List.reverse_singleton, List.singleton_append, List.lookup_cons]
    by_cases hpath : path' = path
    · rw [hpath, beq_self_eq_true, if_pos rfl]
    · rw [beq_false_of_ne (Ne.symm hpath), if_neg fun h => hpath (Option.some.inj h), lastWritten]

theorem packageFiles_concat :
    packageFiles casing bootx64 (runtimeFiles ++ [runtimeFile]) =
      packageFiles casing bootx64 runtimeFiles ++
        ((normalizePath casing runtimeFile.relativePath).map (·, runtimeFile.data)).toList := by
  rw [packageFiles, List.filterMap_append, ← List.append_assoc]
  cases hpath : normalizePath casing runtimeFile.relativePath <;> simp [packageFiles, hpath]

theorem fileAt_buildTree : fileAt path (buildTree casing bootx64 runtimeFiles) =
    lastWritten (packageFiles casing bootx64 runtimeFiles) path := by
  induction runtimeFiles using List.reverseRecOn with
  | nil =>
    rw [buildTree, List.foldl_nil, fileAt_addAtSegments, packageFiles, List.filterMap_nil,
      List.append_nil, ← List.nil_append (Option.toList _), lastWritten_append, fileAt_nil_tree]
    rfl
  | append_singleton runtimeFiles runtimeFile ih =>
    rw [packageFiles_concat, lastWritten_append, buildTree, List.foldl_concat, addRuntimeFile,
      fileAt_addAtSegments, ← buildTree, ih, ← normalizePath]

theorem directoryAt_buildTree :
    (directoryAt names (buildTree casing bootx64 runtimeFiles)).isSome ↔
      names = [] ∨ ∃ file ∈ packageFiles casing bootx64 runtimeFiles,
        names <+: file.1.directories := by
  induction runtimeFiles using List.reverseRecOn with
  | nil =>
    rw [buildTree, List.foldl_nil, directoryAt_addAtSegments, packageFiles, List.filterMap_nil,
      List.append_nil]
    cases names with
    | nil => simp [directoryAt]
    | cons name names =>
      cases hboot : normalizeSegments casing bootSegments <;> simp [directoryAt, childDirectory]
  | append_singleton runtimeFiles runtimeFile ih =>
    rw [packageFiles_concat, buildTree, List.foldl_concat, addRuntimeFile,
      directoryAt_addAtSegments, ← buildTree, ih, ← normalizePath]
    cases hpath : normalizePath casing runtimeFile.relativePath with
    | none => simp
    | some path => simp [or_and_right, exists_or, or_assoc]

end

end DragonOS.Build
