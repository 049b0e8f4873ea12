import DragonOS.Build.FatTree

/-!
# Allocating clusters

Every directory below the root and then every file gets its clusters, one after the
other. `collectDirectories` and `collectFiles` list the nodes in the order in which
the builder visits them.
-/

namespace DragonOS.Build

def bytesPerSector : Int := 512
def totalSectors : Int := 32768
def reservedSectors : Int := 1
def fatCount : Int := 2
def rootEntryCount : Int := 224
def sectorsPerFat : Int := 16
def sectorsPerCluster : Int := 16
def clusterSizeBytes : Int := bytesPerSector * sectorsPerCluster
def rootDirectorySectors : Int := 14
def firstDataSector : Int := reservedSectors + fatCount * sectorsPerFat + rootDirectorySectors

-- ---------------------------------------------------------------------------
-- Directories and files in their order
-- ---------------------------------------------------------------------------

/-- A directory below the root; `parent` is empty for a directory of the root. -/
structure FatDirectory where
  parent : Option Extent
  extent : Extent
  children : List FatNode

structure FatFile where
  extent : Extent
  data : Bytes

mutual

def FatNode.collectDirectories (parent : Option Extent) : FatNode → List FatDirectory
  | .directory _ extent children =>
    ⟨parent, extent, children⟩ :: collectDirectories (some extent) children
  | .file .. => []

def collectDirectories (parent : Option Extent) : List FatNode → List FatDirectory
  | [] => []
  | child :: rest => child.collectDirectories parent ++ collectDirectories parent rest

end

mutual

def FatNode.collectFiles : FatNode → List FatFile
  | .directory _ _ children => collectFiles children
  | .file _ _ extent data => [⟨extent, data⟩]

def collectFiles : List FatNode → List FatFile
  | [] => []
  | child :: rest => child.collectFiles ++ collectFiles rest

end

-- ---------------------------------------------------------------------------
-- Numbering
-- ---------------------------------------------------------------------------

def directoryClusterCount (children : List FatNode) : Int :=
  let entryCount := int32 (children.length + 2)
  max 1 (divideRoundUp (int32 (entryCount * 32)) clusterSizeBytes)

def fileClusterCount (data : Bytes) : Int := max 1 (divideRoundUp data.length clusterSizeBytes)

mutual

def FatNode.allocateDirectories : FatNode → Int → FatNode × Int
  | .directory shortName _ children, nextCluster =>
    let clusterCount := directoryClusterCount children
    let (children, next) := allocateDirectories children (int32 (nextCluster + clusterCount))
    (.directory shortName ⟨nextCluster, clusterCount⟩ children, next)
  | .file shortName shortExtension extent data, nextCluster =>
    (.file shortName shortExtension extent data, nextCluster)

def allocateDirectories : List FatNode → Int → List FatNode × Int
  | [], nextCluster => ([], nextCluster)
  | child :: rest, nextCluster =>
    let (child, next) := child.allocateDirectories nextCluster
    let (rest, next) := allocateDirectories rest next
    (child :: rest, next)

end

mutual

def FatNode.allocateFiles : FatNode → Int → FatNode × Int
  | .directory shortName extent children, nextCluster =>
    let (children, next) := allocateFiles children nextCluster
    (.directory shortName extent children, next)
  | .file shortName shortExtension _ data, nextCluster =>
    let clusterCount := fileClusterCount data
    (.file shortName shortExtension ⟨nextCluster, clusterCount⟩ data,
      int32 (nextCluster + clusterCount))

def allocateFiles : List FatNode → Int → List FatNode × Int
  | [], nextCluster => ([], nextCluster)
  | child :: rest, nextCluster =>
    let (child, next) := child.allocateFiles nextCluster
    let (rest, next) := allocateFiles rest next
    (child :: rest, next)

end

/-- The tree with its clusters, and the first cluster behind them. -/
def allocate (root : List FatNode) : List FatNode × Int :=
  let (root, nextCluster) := allocateDirectories root 2
  allocateFiles root nextCluster

-- ---------------------------------------------------------------------------
-- Forests
-- ---------------------------------------------------------------------------

mutual

theorem FatNode.childrenInduction {Claim : List FatNode → Prop} (nil : Claim [])
    (directory : ∀ shortName extent children rest, Claim children → Claim rest →
      Claim (.directory shortName extent children :: rest))
    (file : ∀ shortName shortExtension extent data rest, Claim rest →
      Claim (.file shortName shortExtension extent data :: rest)) :
    (node : FatNode) → ∀ rest, Claim rest → Claim (node :: rest)
  | .directory shortName extent children, rest, hrest =>
    directory shortName extent children rest (forestInduction nil directory file children) hrest
  | .file shortName shortExtension extent data, rest, hrest =>
    file shortName shortExtension extent data rest hrest

theorem forestInduction {Claim : List FatNode → Prop} (nil : Claim [])
    (directory : ∀ shortName extent children rest, Claim children → Claim rest →
      Claim (.directory shortName extent children :: rest))
    (file : ∀ shortName shortExtension extent data rest, Claim rest →
      Claim (.file shortName shortExtension extent data :: rest)) :
    (nodes : List FatNode) → Claim nodes
  | [] => nil
  | child :: rest =>
    child.childrenInduction nil directory file rest (forestInduction nil directory file rest)

end

@[simp]
theorem collectDirectories_directory :
    collectDirectories parent (.directory shortName extent children :: rest) =
      ⟨parent, extent, children⟩ ::
        (collectDirectories (some extent) children ++ collectDirectories parent rest) := rfl

@[simp]
theorem collectDirectories_file :
    collectDirectories parent (.file shortName shortExtension extent data :: rest) =
      collectDirectories parent rest := rfl

@[simp]
theorem collectFiles_directory :
    collectFiles (.directory shortName extent children :: rest) =
      collectFiles children ++ collectFiles rest := rfl

@[simp]
theorem collectFiles_file :
    collectFiles (.file shortName shortExtension extent data :: rest) =
      ⟨extent, data⟩ :: collectFiles rest := rfl

@[simp]
theorem allocateDirectories_directory :
    allocateDirectories (.directory shortName extent children :: rest) nextCluster =
      let below := allocateDirectories children (int32 (nextCluster + directoryClusterCount children))
      let beside := allocateDirectories rest below.2
      (.directory shortName ⟨nextCluster, directoryClusterCount children⟩ below.1 :: beside.1,
        beside.2) := rfl

@[simp]
theorem allocateDirectories_file :
    allocateDirectories (.file shortName shortExtension extent data :: rest) nextCluster =
      let beside := allocateDirectories rest nextCluster
      (.file shortName shortExtension extent data :: beside.1, beside.2) := rfl

@[simp]
theorem allocateFiles_directory :
    allocateFiles (.directory shortName extent children :: rest) nextCluster =
      let below := allocateFiles children nextCluster
      let beside := allocateFiles rest below.2
      (.directory shortName extent below.1 :: beside.1, beside.2) := rfl

@[simp]
theorem allocateFiles_file :
    allocateFiles (.file shortName shortExtension extent data :: rest) nextCluster =
      let beside := allocateFiles rest (int32 (nextCluster + fileClusterCount data))
      (.file shortName shortExtension ⟨nextCluster, fileClusterCount data⟩ data :: beside.1,
        beside.2) := rfl

-- ---------------------------------------------------------------------------
-- Numbering changes extents only
-- ---------------------------------------------------------------------------

mutual

def FatNode.forget : FatNode → FatNode
  | .directory shortName _ children => .directory shortName ⟨0, 0⟩ (forget children)
  | .file shortName shortExtension _ data => .file shortName shortExtension ⟨0, 0⟩ data

def forget : List FatNode → List FatNode
  | [] => []
  | child :: rest => child.forget :: forget rest

end

@[simp]
theorem forget_directory : forget (.directory shortName extent children :: rest) =
    .directory shortName ⟨0, 0⟩ (forget children) :: forget rest := rfl

@[simp]
theorem forget_file : forget (.file shortName shortExtension extent data :: rest) =
    .file shortName shortExtension ⟨0, 0⟩ data :: forget rest := rfl

theorem forget_length : (forget nodes).length = nodes.length := by
  induction nodes with
  | nil => rfl
  | cons child rest ih => rw [forget, List.length_cons, List.length_cons, ih]

theorem forget_allocateDirectories :
    forget (allocateDirectories nodes nextCluster).1 = forget nodes := by
  induction nodes using forestInduction generalizing nextCluster with
  | nil => rfl
  | directory shortName extent children rest hchildren hrest => simp [hchildren, hrest]
  | file shortName shortExtension extent data rest hrest => simp [hrest]

theorem forget_allocateFiles : forget (allocateFiles nodes nextCluster).1 = forget nodes := by
  induction nodes using forestInduction generalizing nextCluster with
  | nil => rfl
  | directory shortName extent children rest hchildren hrest => simp [hchildren, hrest]
  | file shortName shortExtension extent data rest hrest => simp [hrest]

theorem forget_allocate : forget (allocate root).1 = forget root :=
  forget_allocateFiles.trans forget_allocateDirectories

theorem length_allocateDirectories :
    (allocateDirectories nodes nextCluster).1.length = nodes.length := by
  rw [← forget_length, forget_allocateDirectories, forget_length]

theorem length_allocateFiles : (allocateFiles nodes nextCluster).1.length = nodes.length := by
  rw [← forget_length, forget_allocateFiles, forget_length]

theorem keys_forget : (forget nodes).map FatNode.key = nodes.map FatNode.key := by
  induction nodes with
  | nil => rfl
  | cons child rest ih =>
    rw [forget, List.map_cons, List.map_cons, ih]
    cases child <;> rfl

theorem wellNamed_forget : WellNamed (forget nodes) ↔ WellNamed nodes := by
  induction nodes using forestInduction with
  | nil => rfl
  | directory shortName extent children rest hchildren hrest =>
    simp only [forget_directory, WellNamed, FatNode.WellNamed, FatNode.key, keys_forget, hchildren,
      hrest]
  | file shortName shortExtension extent data rest hrest =>
    simp only [forget_file, WellNamed, FatNode.WellNamed, FatNode.key, keys_forget, hrest]

theorem childDirectory_forget :
    childDirectory name (forget nodes) = (childDirectory name nodes).map forget := by
  induction nodes with
  | nil => rfl
  | cons child rest ih =>
    cases child with
    | directory shortName extent children =>
      simp only [forget_directory, childDirectory, ih]
      split <;> rfl
    | file => simpa only [forget_file, childDirectory] using ih

theorem childFile_forget : childFile parts (forget nodes) = childFile parts nodes := by
  induction nodes with
  | nil => rfl
  | cons child rest ih => cases child <;> simp only [forget_directory, forget_file, childFile, ih]

theorem directoryAt_forget :
    directoryAt names (forget nodes) = (directoryAt names nodes).map forget := by
  induction names generalizing nodes with
  | nil => rfl
  | cons name names ih =>
    rw [directoryAt, directoryAt, childDirectory_forget]
    cases childDirectory name nodes with
    | none => rfl
    | some children => exact ih

theorem fileAt_forget : fileAt path (forget nodes) = fileAt path nodes := by
  rw [fileAt, fileAt, directoryAt_forget]
  cases directoryAt path.directories nodes with
  | none => rfl
  | some children => exact childFile_forget

theorem wellNamed_allocate : WellNamed (allocate root).1 ↔ WellNamed root := by
  rw [← wellNamed_forget, forget_allocate, wellNamed_forget]

theorem isSome_directoryAt_allocate :
    (directoryAt names (allocate root).1).isSome = (directoryAt names root).isSome := by
  have hforget (nodes : List FatNode) :
      (directoryAt names nodes).isSome = (directoryAt names (forget nodes)).isSome := by
    rw [directoryAt_forget, Option.isSome_map]
  rw [hforget, forget_allocate, ← hforget]

theorem fileAt_allocate : fileAt path (allocate root).1 = fileAt path root := by
  rw [← fileAt_forget, forget_allocate, fileAt_forget]

theorem directoryClusterCount_congr (h : first.length = second.length) :
    directoryClusterCount first = directoryClusterCount second := by
  rw [directoryClusterCount, directoryClusterCount, h]

-- ---------------------------------------------------------------------------
-- Every node gets the clusters behind those of the node before
-- ---------------------------------------------------------------------------

def Numbered (nextCluster : Int) : List Extent → Int → Prop
  | [], last => nextCluster = last
  | extent :: rest, last => extent.startCluster = nextCluster ∧
      Numbered (int32 (nextCluster + extent.clusterCount)) rest last

theorem numbered_append {first second : List Extent} (hfirst : Numbered start first middle)
    (hsecond : Numbered middle second last) : Numbered start (first ++ second) last := by
  induction first generalizing start with
  | nil =>
    obtain rfl := hfirst
    exact hsecond
  | cons extent rest ih => exact ⟨hfirst.1, ih hfirst.2⟩

theorem numbered_allocateDirectories :
    Numbered nextCluster
      ((collectDirectories parent (allocateDirectories nodes nextCluster).1).map (·.extent))
      (allocateDirectories nodes nextCluster).2 := by
  induction nodes using forestInduction generalizing parent nextCluster with
  | nil => rfl
  | directory shortName extent children rest hchildren hrest =>
    simp only [allocateDirectories_directory, collectDirectories_directory, List.map_cons,
      List.map_append]
    exact ⟨rfl, numbered_append hchildren hrest⟩
  | file shortName shortExtension extent data rest hrest => exact hrest

theorem numbered_allocateFiles :
    Numbered nextCluster ((collectFiles (allocateFiles nodes nextCluster).1).map (·.extent))
      (allocateFiles nodes nextCluster).2 := by
  induction nodes using forestInduction generalizing nextCluster with
  | nil => rfl
  | directory shortName extent children rest hchildren hrest =>
    simp only [allocateFiles_directory, collectFiles_directory, List.map_append]
    exact numbered_append hchildren hrest
  | file shortName shortExtension extent data rest hrest => exact ⟨rfl, hrest⟩

/-- What the later passes see of a directory that the files' extents do not change. -/
def FatDirectory.shape (directory : FatDirectory) : Option Extent × Extent × Nat :=
  (directory.parent, directory.extent, directory.children.length)

theorem shapes_allocateFiles :
    (collectDirectories parent (allocateFiles nodes nextCluster).1).map FatDirectory.shape =
      (collectDirectories parent nodes).map FatDirectory.shape := by
  induction nodes using forestInduction generalizing parent nextCluster with
  | nil => rfl
  | directory shortName extent children rest hchildren hrest =>
    simp [FatDirectory.shape, length_allocateFiles, hchildren, hrest]
  | file shortName shortExtension extent data rest hrest => simp [hrest]

theorem clusterCount_allocateDirectories :
    ∀ directory ∈ collectDirectories parent (allocateDirectories nodes nextCluster).1,
      directory.extent.clusterCount = directoryClusterCount directory.children := by
  induction nodes using forestInduction generalizing parent nextCluster with
  | nil => exact fun _ h => absurd h List.not_mem_nil
  | directory shortName extent children rest hchildren hrest =>
    simp only [allocateDirectories_directory, collectDirectories_directory, List.forall_mem_cons,
      List.forall_mem_append]
    exact ⟨directoryClusterCount_congr length_allocateDirectories.symm, hchildren, hrest⟩
  | file shortName shortExtension extent data rest hrest => exact hrest

theorem clusterCount_allocateFiles :
    ∀ file ∈ collectFiles (allocateFiles nodes nextCluster).1,
      file.extent.clusterCount = fileClusterCount file.data := by
  induction nodes using forestInduction generalizing nextCluster with
  | nil => exact fun _ h => absurd h List.not_mem_nil
  | directory shortName extent children rest hchildren hrest =>
    simp only [allocateFiles_directory, collectFiles_directory, List.forall_mem_append]
    exact ⟨hchildren, hrest⟩
  | file shortName shortExtension extent data rest hrest =>
    simp only [allocateFiles_file, collectFiles_file, List.forall_mem_cons, true_and]
    exact hrest

/-- The extents in the order in which they were given out. -/
def extents (root : List FatNode) : List Extent :=
  (collectDirectories none root).map (·.extent) ++ (collectFiles root).map (·.extent)

theorem shapes_allocate (root : List FatNode) :
    (collectDirectories none (allocate root).1).map FatDirectory.shape =
      (collectDirectories none (allocateDirectories root 2).1).map FatDirectory.shape :=
  shapes_allocateFiles

theorem numbered_allocate : Numbered 2 (extents (allocate root).1) (allocate root).2 := by
  refine numbered_append ?_ numbered_allocateFiles
  have hextents := congrArg (List.map (·.2.1)) (shapes_allocate root)
  simp only [List.map_map] at hextents
  exact (congrArg (Numbered 2 · _) hextents).mpr numbered_allocateDirectories

theorem clusterCount_allocate :
    (∀ directory ∈ collectDirectories none (allocate root).1,
      directory.extent.clusterCount = directoryClusterCount directory.children) ∧
    ∀ file ∈ collectFiles (allocate root).1,
      file.extent.clusterCount = fileClusterCount file.data := by
  refine ⟨fun directory hdirectory => ?_, clusterCount_allocateFiles⟩
  have hshape := List.mem_map_of_mem (f := FatDirectory.shape) hdirectory
  rw [shapes_allocate, List.mem_map] at hshape
  obtain ⟨before, hbefore, hshape⟩ := hshape
  simp only [FatDirectory.shape, Prod.mk.injEq] at hshape
  rw [← hshape.2.1, clusterCount_allocateDirectories before hbefore]
  exact directoryClusterCount_congr hshape.2.2

-- ---------------------------------------------------------------------------
-- How much there is to store
-- ---------------------------------------------------------------------------

def directoryLengths (root : List FatNode) : List Nat :=
  (collectDirectories none root).map (·.children.length)

def fileContents (root : List FatNode) : List Bytes := (collectFiles root).map (·.data)

theorem lengths_forget (parent parent' : Option Extent) (nodes : List FatNode) :
    (collectDirectories parent (forget nodes)).map (·.children.length) =
      (collectDirectories parent' nodes).map (·.children.length) := by
  induction nodes using forestInduction generalizing parent parent' with
  | nil => rfl
  | directory shortName extent children rest hchildren hrest =>
    simp only [forget_directory, collectDirectories_directory, List.map_cons, List.map_append,
      forget_length, hchildren _ (some extent), hrest _ parent']
  | file shortName shortExtension extent data rest hrest => exact hrest parent parent'

theorem directoryLengths_allocate :
    directoryLengths (allocate root).1 = directoryLengths root := by
  rw [directoryLengths, ← lengths_forget none none, forget_allocate, lengths_forget none none,
    directoryLengths]

theorem fileContents_forget : fileContents (forget nodes) = fileContents nodes := by
  induction nodes using forestInduction with
  | nil => rfl
  | directory shortName extent children rest hchildren hrest =>
    simp only [fileContents] at hchildren hrest
    simp only [fileContents, forget_directory, collectFiles_directory, List.map_append, hchildren,
      hrest]
  | file shortName shortExtension extent data rest hrest =>
    simp only [fileContents] at hrest
    simp only [fileContents, forget_file, collectFiles_file, List.map_cons, hrest]

theorem fileContents_allocate : fileContents (allocate root).1 = fileContents root := by
  rw [← fileContents_forget, forget_allocate, fileContents_forget]

theorem length_le_collected (parent : Option Extent) (nodes : List FatNode) :
    nodes.length ≤ (collectDirectories parent nodes).length + (collectFiles nodes).length := by
  induction nodes using forestInduction generalizing parent with
  | nil => exact Nat.zero_le _
  | directory shortName extent children rest hchildren hrest =>
    have := hrest parent
    simp only [collectDirectories_directory, collectFiles_directory, List.length_cons,
      List.length_append]
    omega
  | file shortName shortExtension extent data rest hrest =>
    have := hrest parent
    simp only [collectDirectories_file, collectFiles_file, List.length_cons]
    omega

theorem children_le_collected (h : directory ∈ collectDirectories parent nodes) :
    directory.children.length ≤
      (collectDirectories parent nodes).length + (collectFiles nodes).length := by
  induction nodes using forestInduction generalizing parent with
  | nil => exact absurd h List.not_mem_nil
  | directory shortName extent children rest hchildren hrest =>
    simp only [collectDirectories_directory, collectFiles_directory, List.length_cons,
      List.length_append] at h ⊢
    obtain rfl | h := List.mem_cons.mp h
    · have := length_le_collected (some extent) children
      simp only
      omega
    · obtain h | h := List.mem_append.mp h
      · have := hchildren h
        omega
      · have := hrest h
        omega
  | file shortName shortExtension extent data rest hrest =>
    have := hrest h
    simp only [collectDirectories_file, collectFiles_file, List.length_cons]
    omega

-- ---------------------------------------------------------------------------
-- What is collected
-- ---------------------------------------------------------------------------

theorem directory_collected (h : .directory shortName extent children ∈ nodes) :
    ⟨parent, extent, children⟩ ∈ collectDirectories parent nodes := by
  induction nodes with
  | nil => exact absurd h List.not_mem_nil
  | cons child rest ih =>
    obtain rfl | hrest := List.mem_cons.mp h
    · exact List.mem_cons_self
    · exact List.mem_append_right _ (ih hrest)

theorem file_collected (h : .file shortName shortExtension extent data ∈ nodes) :
    ⟨extent, data⟩ ∈ collectFiles nodes := by
  induction nodes with
  | nil => exact absurd h List.not_mem_nil
  | cons child rest ih =>
    obtain rfl | hrest := List.mem_cons.mp h
    · exact List.mem_cons_self
    · exact List.mem_append_right _ (ih hrest)

theorem collected_below (h : directory ∈ collectDirectories parent nodes) :
    (∀ below ∈ collectDirectories (some directory.extent) directory.children,
      below ∈ collectDirectories parent nodes) ∧
    ∀ file ∈ collectFiles directory.children, file ∈ collectFiles nodes := by
  induction nodes using forestInduction generalizing parent with
  | nil => exact absurd h List.not_mem_nil
  | directory shortName extent children rest hchildren hrest =>
    simp only [collectDirectories_directory, collectFiles_directory, List.mem_cons,
      List.mem_append] at h ⊢
    obtain rfl | h | h := h
    · exact ⟨fun _ hbelow => .inr (.inl hbelow), fun _ hfile => .inl hfile⟩
    · obtain ⟨hbelow, hfiles⟩ := hchildren h
      exact ⟨fun below hmem => .inr (.inl (hbelow below hmem)),
        fun file hmem => .inl (hfiles file hmem)⟩
    · obtain ⟨hbelow, hfiles⟩ := hrest h
      exact ⟨fun below hmem => .inr (.inr (hbelow below hmem)),
        fun file hmem => .inr (hfiles file hmem)⟩
  | file shortName shortExtension extent data rest hrest =>
    obtain ⟨hbelow, hfiles⟩ := hrest h
    exact ⟨hbelow, fun file hmem => List.mem_cons_of_mem _ (hfiles file hmem)⟩

theorem parent_collected (h : directory ∈ collectDirectories parent nodes) :
    directory.parent = parent ∨
      ∃ above ∈ collectDirectories parent nodes, directory.parent = some above.extent := by
  induction nodes using forestInduction generalizing parent with
  | nil => exact absurd h List.not_mem_nil
  | directory shortName extent children rest hchildren hrest =>
    simp only [collectDirectories_directory, List.mem_cons, List.mem_append] at h ⊢
    obtain rfl | h | h := h
    · exact .inl rfl
    · obtain hparent | ⟨above, habove, hparent⟩ := hchildren h
      · exact .inr ⟨_, .inl rfl, hparent⟩
      · exact .inr ⟨above, .inr (.inl habove), hparent⟩
    · obtain hparent | ⟨above, habove, hparent⟩ := hrest h
      · exact .inl hparent
      · exact .inr ⟨above, .inr (.inr habove), hparent⟩
  | file shortName shortExtension extent data rest hrest => exact hrest h

-- ---------------------------------------------------------------------------
-- What the files of the tree hold
-- ---------------------------------------------------------------------------

@[simp]
theorem fileContents_nil : fileContents [] = [] := rfl

@[simp]
theorem fileContents_directory :
    fileContents (.directory shortName extent children :: rest) =
      fileContents children ++ fileContents rest := List.map_append

@[simp]
theorem fileContents_file :
    fileContents (.file shortName shortExtension extent data :: rest) =
      data :: fileContents rest := rfl

theorem fileContents_append :
    fileContents (first ++ second) = fileContents first ++ fileContents second := by
  induction first with
  | nil => rfl
  | cons child rest ih => cases child <;> simp [ih]

theorem mem_fileContents_filter (h : data ∈ fileContents (nodes.filter keep)) :
    data ∈ fileContents nodes := by
  induction nodes with
  | nil => exact h
  | cons child rest ih =>
    rw [List.filter_cons] at h
    split at h
    · cases child <;> simp only [fileContents_directory, fileContents_file, List.mem_append,
        List.mem_cons] at h ⊢ <;> exact h.imp_right ih
    · cases child <;> simp [ih h]

theorem mem_fileContents_getOrAddDirectory {change : List FatNode → List FatNode}
    (hchange : ∀ below, data ∈ fileContents (change below) → data = new ∨ data ∈ fileContents below)
    (h : data ∈ fileContents (getOrAddDirectory casing rawName change nodes)) :
    data = new ∨ data ∈ fileContents nodes := by
  induction nodes with
  | nil => exact hchange [] (by simpa [getOrAddDirectory, newDirectory] using h)
  | cons child rest ih =>
    rw [getOrAddDirectory] at h
    split at h
    next hnamed =>
      obtain ⟨extent, children, rfl⟩ := isDirectoryNamed_iff.mp hnamed
      simp only [FatNode.updateChildren, fileContents_directory, List.mem_append] at h ⊢
      obtain h | h := h
      · exact (hchange children h).imp_right .inl
      · exact .inr (.inr h)
    next =>
      cases child with
      | directory shortName extent children =>
        simp only [fileContents_directory, List.mem_append] at h ⊢
        obtain h | h := h
        · exact .inr (.inl h)
        · exact (ih h).imp_right .inr
      | file shortName shortExtension extent other =>
        simp only [fileContents_file, List.mem_cons] at h ⊢
        obtain h | h := h
        · exact .inr (.inl h)
        · exact (ih h).imp_right .inr

theorem mem_fileContents_addAtSegments {segments : List Text}
    (h : data ∈ fileContents (addAtSegments casing new segments nodes)) :
    data = new ∨ data ∈ fileContents nodes := by
  induction segments using normalizeSegments.induct generalizing nodes with
  | case1 => exact .inr h
  | case2 rawName =>
    rw [addAtSegments, addFile, fileContents_append, List.mem_append] at h
    obtain h | h := h
    · exact .inr (mem_fileContents_filter h)
    · exact .inl (List.mem_singleton.mp h)
  | case3 rawName rest hrest ih =>
    rw [addAtSegments.eq_3 _ _ _ _ _ hrest] at h
    exact mem_fileContents_getOrAddDirectory (fun _ => ih) h

theorem mem_fileContents_buildTree
    (h : data ∈ fileContents (buildTree casing bootx64 runtimeFiles)) :
    data = bootx64 ∨ ∃ runtimeFile ∈ runtimeFiles, data = runtimeFile.data := by
  induction runtimeFiles using List.reverseRecOn with
  | nil => exact .inl ((mem_fileContents_addAtSegments h).resolve_right List.not_mem_nil)
  | append_singleton runtimeFiles runtimeFile ih =>
    rw [buildTree, List.foldl_concat, addRuntimeFile, ← buildTree] at h
    obtain rfl | h := mem_fileContents_addAtSegments h
    · exact .inr ⟨runtimeFile, by simp, rfl⟩
    · obtain hboot | ⟨other, hother, hdata⟩ := ih h
      · exact .inl hboot
      · exact .inr ⟨other, List.mem_append_left _ hother, hdata⟩

end DragonOS.Build
