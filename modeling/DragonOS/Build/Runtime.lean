import DragonOS.Build.FatTree
import DragonOS.Build.Mp4
import Mathlib.Data.Nat.Digits.Defs

/-!
# The runtime files of the package

`DragonRuntimeBuilder.Build` collects files from the directories of the project and gives
each a path in the package. Paths that differ in case only are the same to Windows, so a
registry of the paths in use decides which of three forms of path a file gets.
-/

namespace DragonOS.Build

/-- Casing goes through a string unit by unit, as far as ASCII is concerned: a unit of
ASCII is never a part of another character. -/
structure PathCasing extends Casing where
  nil : toUpper [] = []
  split : ∀ (before : Text) (unit : UInt16) (after : Text), unit < 128 →
    toUpper (before ++ unit :: after) = toUpper before ++ asciiUpper unit :: toUpper after

def asciiPathCasing : PathCasing where
  toCasing := asciiCasing
  nil := rfl
  split _ _ _ _ := List.map_append

-- ---------------------------------------------------------------------------
-- The project
-- ---------------------------------------------------------------------------

inductive RuntimeKind
  | dll | png | mp4
  deriving DecidableEq, Repr

def RuntimeKind.text : RuntimeKind → Text
  | dll => Build.text "dll"
  | png => Build.text "png"
  | mp4 => Build.text "mp4"

structure DiskName where
  units : Text
  ne_nil : units ≠ []
  plain : ∀ unit ∈ units, ¬ isDirectorySeparator unit

structure SourceFile where
  name : DiskName
  data : Bytes

/-- A file below `dragon_files`, with the directories that lead to it from there. -/
structure DragonFile where
  directories : List DiskName
  name : DiskName
  data : Bytes

def backslash : UInt16 := 92

def joinPath (directories : List DiskName) (name : DiskName) : Text :=
  directories.foldr (fun directory rest => directory.units ++ backslash :: rest) name.units

def DragonFile.relativePath (file : DragonFile) : Text := joinPath file.directories file.name

/-- The files of a directory in the order they are enumerated in, if it exists. -/
structure SourceDirectory where
  kind : RuntimeKind
  name : Text
  files : Option (List SourceFile)

structure Project where
  rootName : Text
  root : List SourceFile
  modules : Option (List SourceFile)
  plugins : Option (List SourceFile)
  dlls : Option (List SourceFile)
  assetsName : Text
  assets : Option (List SourceFile)
  dragonFiles : Option (List DragonFile)

namespace DragonRuntimeBuilder

def sourceDirectories (project : Project) : List SourceDirectory :=
  [{ kind := .dll, name := project.rootName, files := some project.root },
    { kind := .dll, name := text "modules", files := project.modules },
    { kind := .dll, name := text "plugins", files := project.plugins },
    { kind := .dll, name := text "dlls", files := project.dlls },
    { kind := .png, name := project.assetsName, files := project.assets },
    { kind := .mp4, name := project.assetsName, files := project.assets }]

def supportedExtensions : List Text := [text ".dll", text ".png", text ".mp4"]

-- ---------------------------------------------------------------------------
-- Virtual paths
-- ---------------------------------------------------------------------------

section
variable (casing : PathCasing)

abbrev Registry := List Text

/-- `Add` of a set that ignores case; nothing comes back when the path is in it. -/
def Registry.add (registry : Registry) (path : Text) : Option Registry :=
  if registry.any fun other => casing.equalsIgnoreCase other path then none
  else some (registry ++ [path])

def dragonPath (kind rest : Text) : Text :=
  text "DRAGON" ++ backslash :: (kind ++ backslash :: rest)

def decimalDigits (value : Nat) : Text :=
  if value = 0 then [48]
  else (Nat.digits 10 value).reverse.map fun digit => UInt16.ofNat (48 + digit)

def suffixText (suffix : Int32) : Text :=
  (if suffix.toInt < 0 then [45] else []) ++ decimalDigits suffix.toInt.natAbs

def suffixCandidate (kind originalName : Text) (suffix : Int32) : Text :=
  dragonPath kind (getFileNameWithoutExtension originalName ++ 95 :: (suffixText suffix ++
    getExtension originalName))

/-- The loop over the suffixes; `suffix++` may wrap. -/
def suffixLoop (kind originalName : Text) (registry : Registry) :
    (fuel : Nat) → Int32 → Except StreamException (Text × Registry)
  | 0, _ => .error .endless
  | fuel + 1, suffix =>
    match registry.add casing (suffixCandidate kind originalName suffix) with
    | some registry => .ok (suffixCandidate kind originalName suffix, registry)
    | none => suffixLoop kind originalName registry fuel (suffix + 1)

/-- After 2^32 passes the loop has seen every suffix. -/
def allSuffixes : Nat := 2 ^ 32

def isNullOrWhiteSpace (value : Text) : Bool := value.all isWhiteSpace

/-- `file` lies in the source directory, so its name is the name it is listed by. -/
def buildRuntimeVirtualPath (kind originalName sourceFolderName : Text) (registry : Registry) :
    Except StreamException (Text × Registry) :=
  match registry.add casing (dragonPath kind originalName) with
  | some registry => .ok (dragonPath kind originalName, registry)
  | none =>
    if isNullOrWhiteSpace sourceFolderName then
      suffixLoop casing kind originalName registry allSuffixes 2
    else
      let candidate := dragonPath kind (sourceFolderName ++ backslash :: originalName)
      match registry.add casing candidate with
      | some registry => .ok (candidate, registry)
      | none => suffixLoop casing kind originalName registry allSuffixes 2

-- ---------------------------------------------------------------------------
-- Collecting the files
-- ---------------------------------------------------------------------------

structure RuntimeState where
  packageFiles : List RuntimePackageFile
  registry : Registry

def isSupported (extension : Text) : Bool :=
  supportedExtensions.any fun supported => casing.equalsIgnoreCase supported extension

def isWanted (kind : RuntimeKind) (extension : Text) : Bool :=
  casing.equalsIgnoreCase extension (period :: kind.text) ||
    (kind = .png && casing.equalsIgnoreCase extension (text ".png")) ||
    (kind = .mp4 && casing.equalsIgnoreCase extension (text ".mp4")) ||
    (kind = .dll && casing.equalsIgnoreCase extension (text ".dll"))

/-- The metadata for the summary of a file; a file without any says so. -/
def readMetadata (extension : Text) (data : Bytes) : Except StreamException (Option Mp4Metadata) :=
  if casing.equalsIgnoreCase extension (text ".mp4") then do
    let (found, metadata) ← Mp4MetadataParser.tryParse data
    .ok (if found then some metadata else none)
  else .ok none

def collectFile (kind : RuntimeKind) (sourceFolderName : Text) (state : RuntimeState)
    (file : SourceFile) : Except StreamException RuntimeState :=
  let extension := getExtension file.name.units
  if ¬ isSupported casing extension then .ok state
  else if ¬ isWanted casing kind extension then .ok state
  else do
    let (virtualPath, registry) ← buildRuntimeVirtualPath casing (casing.toUpper kind.text)
      file.name.units sourceFolderName state.registry
    let _ ← readMetadata casing extension file.data
    .ok
      { packageFiles := state.packageFiles ++ [{ relativePath := virtualPath, data := file.data }]
        registry }

def collectDirectory (state : RuntimeState) (directory : SourceDirectory) :
    Except StreamException RuntimeState :=
  match directory.files with
  | none => .ok state
  | some files => files.foldlM (collectFile casing directory.kind directory.name) state

def replaceSlashes (path : Text) : Text := path.map fun unit => if unit = 47 then backslash else unit

def dragonFilePath (file : DragonFile) : Text :=
  dragonPath (text "FILES") (replaceSlashes file.relativePath)

/-- What `Add` returns is not looked at. -/
def collectDragonFile (state : RuntimeState) (file : DragonFile) : RuntimeState where
  packageFiles :=
    state.packageFiles ++ [{ relativePath := dragonFilePath file, data := file.data }]
  registry := (state.registry.add casing (dragonFilePath file)).getD state.registry

def manifestPath : Text := text "DRAGON" ++ backslash :: text "MANIFEST.TXT"

/-- The text of the manifest, with the time of the build in it, is a parameter. -/
def build (manifest : List RuntimePackageFile → Bytes) (project : Project) :
    Except StreamException (List RuntimePackageFile) := do
  let state ← (sourceDirectories project).foldlM (collectDirectory casing)
    { packageFiles := [], registry := [] }
  let state := (project.dragonFiles.getD []).foldl (collectDragonFile casing) state
  .ok (state.packageFiles ++
    [{ relativePath := manifestPath, data := manifest state.packageFiles }])

end

end DragonRuntimeBuilder

end DragonOS.Build
