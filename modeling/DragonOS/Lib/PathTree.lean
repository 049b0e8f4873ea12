import DragonOS.Lib.Outcome
import Mathlib.Data.List.Infix

/-!
# Files put into a tree path by path

A tree says what lies at every path: nothing, a directory or a file. To put a file there
is to create the directories that lead to it and to write it. Files whose paths are
apart, none of them a beginning of another, do not get in each other's way.
-/

namespace DragonOS.Lib

inductive Entry (Data : Type v)
  | directory
  | file (data : Data)

inductive Refusal
  | fileInTheWay | directoryInTheWay | noDirectory
  deriving DecidableEq, Repr

abbrev PathTree (Name : Type u) (Data : Type v) := List Name → Option (Entry Data)

def Apart (first second : List Name) : Prop := ¬ first <+: second ∧ ¬ second <+: first

theorem Apart.symm {first second : List Name} (h : Apart first second) : Apart second first :=
  ⟨h.2, h.1⟩

theorem Apart.append_left {first second : List Name} (front : List Name) (h : Apart first second) :
    Apart (front ++ first) (front ++ second) :=
  ⟨fun hstart => h.1 ((List.prefix_append_right_inj front).mp hstart),
    fun hstart => h.2 ((List.prefix_append_right_inj front).mp hstart)⟩

theorem apart_of_head_ne {first second : Name} (h : first ≠ second) (firstRest secondRest : List Name) :
    Apart (first :: firstRest) (second :: secondRest) :=
  ⟨fun hstart => h (List.cons_prefix_cons.mp hstart).1,
    fun hstart => h.symm (List.cons_prefix_cons.mp hstart).1⟩

theorem prefix_dropLast_iff {path start : List Name} (hne : path ≠ []) :
    start <+: path.dropLast ↔ start <+: path ∧ start ≠ path := by
  constructor
  · intro h
    refine ⟨h.trans (List.dropLast_prefix path), ?_⟩
    rintro rfl
    have hle := h.length_le
    have hpos := List.length_pos_iff.mpr hne
    rw [List.length_dropLast] at hle
    omega
  · rintro ⟨h, hproper⟩
    have hlt : start.length < path.length :=
      Nat.lt_of_le_of_ne h.length_le fun heq => hproper (h.eq_of_length heq)
    refine List.prefix_of_prefix_length_le h (List.dropLast_prefix path) ?_
    rw [List.length_dropLast]
    omega

namespace PathTree

section
variable {Name : Type u} {Data : Type v} [DecidableEq Name]

def empty : PathTree Name Data := fun path => if path = [] then some .directory else none

def isDirectory (tree : PathTree Name Data) (path : List Name) : Bool :=
  match tree path with
  | some .directory => true
  | _ => false

def createAt (tree : PathTree Name Data) (path : List Name) :
    Except Refusal (PathTree Name Data) :=
  match tree path with
  | none => .ok (Function.update tree path (some .directory))
  | some .directory => .ok tree
  | some (.file _) => .error .fileInTheWay

/-- The directories on the way are created too. -/
def createDirectory (tree : PathTree Name Data) (path : List Name) :
    Except Refusal (PathTree Name Data) :=
  path.inits.foldlM createAt tree

def writeFile (tree : PathTree Name Data) (path : List Name) (data : Data) :
    Except Refusal (PathTree Name Data) :=
  if tree.isDirectory path then .error .directoryInTheWay
  else if tree.isDirectory path.dropLast then .ok (Function.update tree path (some (.file data)))
  else .error .noDirectory

def putFile (tree : PathTree Name Data) (path : List Name) (data : Data) :
    Except Refusal (PathTree Name Data) := do
  writeFile (← createDirectory tree path.dropLast) path data

omit [DecidableEq Name] in
theorem isDirectory_iff {tree : PathTree Name Data} {path : List Name} :
    tree.isDirectory path = true ↔ tree path = some .directory := by
  unfold isDirectory
  split <;> simp_all

/-- The paths of `paths` where nothing was become directories. -/
theorem createAt_foldlM (paths : List (List Name)) (tree : PathTree Name Data)
    (h : ∀ path ∈ paths, ∀ data, tree path ≠ some (.file data)) :
    paths.foldlM createAt tree = .ok fun path =>
      if path ∈ paths ∧ (tree path).isNone then some .directory else tree path := by
  induction paths generalizing tree with
  | nil => simp [pure, Except.pure]
  | cons first paths ih =>
    obtain ⟨hfirst, hpaths⟩ := List.forall_mem_cons.mp h
    rw [List.foldlM_cons]
    cases hentry : tree first with
    | none =>
      have hcreate : createAt tree first = .ok (Function.update tree first (some .directory)) := by
        rw [createAt, hentry]
      rw [hcreate, ok_bind, ih]
      · congr 1
        funext path
        by_cases heq : path = first
        · subst heq
          simp [hentry]
        · simp [heq]
      · intro path hpath data
        by_cases heq : path = first
        · subst heq
          simp
        · rw [Function.update_of_ne heq]
          exact hpaths path hpath data
    | some entry =>
      cases entry with
      | file data => exact absurd hentry (hfirst data)
      | directory =>
        have hcreate : createAt tree first = .ok tree := by
          rw [createAt, hentry]
        rw [hcreate, ok_bind, ih tree hpaths]
        congr 1
        funext path
        by_cases heq : path = first
        · subst heq
          simp [hentry]
        · simp [heq]

def withDirectory (tree : PathTree Name Data) (path : List Name) : PathTree Name Data :=
  fun start => if start <+: path ∧ (tree start).isNone then some .directory else tree start

theorem createDirectory_ok {tree : PathTree Name Data} {path : List Name}
    (h : ∀ start, start <+: path → ∀ data, tree start ≠ some (.file data)) :
    createDirectory tree path = .ok (withDirectory tree path) := by
  rw [createDirectory, createAt_foldlM _ _ fun start hstart =>
    h start ((List.mem_inits start path).mp hstart)]
  simp only [List.mem_inits]
  rfl

theorem withDirectory_file_iff {tree : PathTree Name Data} {path start : List Name} {data : Data} :
    withDirectory tree path start = some (.file data) ↔ tree start = some (.file data) := by
  unfold withDirectory
  split
  next hnew => simp [Option.isNone_iff_eq_none.mp hnew.2]
  next => rfl

theorem withDirectory_directory_iff {tree : PathTree Name Data} {path start : List Name}
    (h : ∀ data, start <+: path → tree start ≠ some (.file data)) :
    withDirectory tree path start = some .directory ↔
      tree start = some .directory ∨ start <+: path := by
  unfold withDirectory
  cases hentry : tree start with
  | none => simp
  | some entry =>
    cases entry with
    | directory => simp
    | file data => simpa using fun hstart => h data hstart hentry

theorem putFile_ok {tree : PathTree Name Data} {path : List Name} (hne : path ≠ []) (data : Data)
    (hclear : ∀ start, start <+: path → ∀ other, tree start ≠ some (.file other))
    (hpath : tree path ≠ some .directory) :
    tree.putFile path data =
      .ok (Function.update (withDirectory tree path.dropLast) path (some (.file data))) := by
  have hway (start : List Name) (hstart : start <+: path.dropLast) (other : Data) :
      tree start ≠ some (.file other) := hclear start (hstart.trans (List.dropLast_prefix path)) other
  have hself : (withDirectory tree path.dropLast).isDirectory path ≠ true := by
    rw [Ne, isDirectory_iff, withDirectory_directory_iff fun other hstart => hway path hstart other]
    rintro (hdirectory | hstart)
    · exact hpath hdirectory
    · exact ((prefix_dropLast_iff hne).mp hstart).2 rfl
  have hparent : (withDirectory tree path.dropLast).isDirectory path.dropLast = true := by
    rw [isDirectory_iff, withDirectory_directory_iff fun other hstart => hway _ hstart other]
    exact .inr (List.prefix_refl _)
  rw [putFile, createDirectory_ok hway, ok_bind, writeFile, if_neg hself, if_pos hparent]

/-- What lies in a tree: some files, and the directories that lead to them. -/
structure Holds (tree : PathTree Name Data) (files : List (List Name × Data)) : Prop where
  file_iff : ∀ path data, tree path = some (.file data) ↔ (path, data) ∈ files
  directory_iff : ∀ path, tree path = some .directory ↔
    path = [] ∨ ∃ file ∈ files, path <+: file.1 ∧ path ≠ file.1

omit [DecidableEq Name] in
theorem holds_empty : Holds (empty : PathTree Name Data) [] where
  file_iff path data := by
    unfold empty
    split <;> simp
  directory_iff path := by
    unfold empty
    split <;> simp_all

theorem Holds.putFile {tree : PathTree Name Data} {files : List (List Name × Data)}
    (h : Holds tree files) {path : List Name} (hne : path ≠ []) (data : Data)
    (hapart : ∀ file ∈ files, Apart path file.1) :
    ∃ next, tree.putFile path data = .ok next ∧ Holds next (files ++ [(path, data)]) := by
  have hclear (start : List Name) (hstart : start <+: path) (other : Data) :
      tree start ≠ some (.file other) :=
    fun hfile => (hapart _ ((h.file_iff start other).mp hfile)).2 hstart
  have hpath : tree path ≠ some .directory := fun hdirectory => by
    rcases (h.directory_iff path).mp hdirectory with hroot | ⟨file, hfile, hstart, -⟩
    · exact hne hroot
    · exact (hapart file hfile).1 hstart
  refine ⟨_, putFile_ok hne data hclear hpath, fun start other => ?_, fun start => ?_⟩
  · rw [List.mem_append, List.mem_singleton]
    by_cases heq : start = path
    · subst heq
      rw [Function.update_self]
      constructor
      · rintro ⟨⟩
        exact .inr rfl
      · rintro (hmem | hsame)
        · exact absurd (List.prefix_refl start) (hapart _ hmem).1
        · cases hsame
          rfl
    · rw [Function.update_of_ne heq, withDirectory_file_iff, h.file_iff start other]
      simp [heq]
  · by_cases heq : start = path
    · subst heq
      rw [Function.update_self]
      constructor
      · rintro ⟨⟩
      · rintro (hroot | ⟨file, hfile, hstart, hproper⟩)
        · exact absurd hroot hne
        · rcases List.mem_append.mp hfile with hmem | hlast
          · exact absurd hstart (hapart file hmem).1
          · obtain rfl := List.mem_singleton.mp hlast
            exact absurd rfl hproper
    · rw [Function.update_of_ne heq, withDirectory_directory_iff fun other hstart =>
        hclear start (hstart.trans (List.dropLast_prefix path)) other, prefix_dropLast_iff hne,
        h.directory_iff start]
      simp only [List.mem_append, List.mem_singleton, or_and_right, exists_or, exists_eq_left, or_assoc]

/-- Files whose paths are apart from each other all go in, and each stays. -/
theorem Holds.putFiles {tree : PathTree Name Data} {files more : List (List Name × Data)}
    (h : Holds tree files) (hne : ∀ file ∈ more, file.1 ≠ [])
    (hapart : (files ++ more).Pairwise fun first second => Apart first.1 second.1) :
    ∃ next, more.foldlM (fun tree file => tree.putFile file.1 file.2) tree = .ok next ∧
      Holds next (files ++ more) := by
  induction more generalizing tree files with
  | nil => exact ⟨tree, rfl, by rwa [List.append_nil]⟩
  | cons file more ih =>
    obtain ⟨hfile, hmore⟩ := List.forall_mem_cons.mp hne
    have hbefore : ∀ other ∈ files, Apart file.1 other.1 := fun other hother =>
      ((List.pairwise_append.mp hapart).2.2 other hother file List.mem_cons_self).symm
    obtain ⟨next, hput, hnext⟩ := h.putFile hfile file.2 hbefore
    rw [List.append_cons] at hapart ⊢
    obtain ⟨result, hrest, hresult⟩ := ih hnext hmore hapart
    exact ⟨result, by rw [List.foldlM_cons, hput]; exact hrest, hresult⟩

end

end PathTree

end DragonOS.Lib
