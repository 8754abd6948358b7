/-
Writing headers to disk, beside the files of a library. Files that are there are overwritten; what was written before
a failure stays.
-/
import StatusFrames.Artifacts
import StatusFrames.Error
import StatusFrames.Files.Disk

namespace StatusFrames

open Files (Disk Failure)

/-- Where a compilation is written. -/
structure Output where
  folder : Files.Path
  /-- The headers are below this part of the output folder. -/
  includeRoot : String
  /-- A library whose files are copied into the output folder. -/
  library : Option Files.Path := none
deriving DecidableEq, Repr

/-- How many files were written. -/
structure OutputCounts where
  libraryFiles : Nat
  artifacts : Nat
deriving DecidableEq, Repr

/-- An operation that changes the disk, also if it fails. -/
abbrev DiskM := ExceptT CompileError (StateM Disk)

namespace DiskM

def makeFolders (p : Files.Path) : DiskM Unit := do
  let (result, disk) := (← get).makeFolders p
  set disk
  match result with
  | .ok () => pure ()
  | .error e => throw (.files p e)

/-- Makes the folder of a file. -/
def makeParent (p : Files.Path) : DiskM Unit :=
  match p.parent? with
  | some folder => makeFolders folder
  | none => pure ()

/-- Takes over the disk that an operation gives; a failure is reported with a path. -/
def update (p : Files.Path) (change : Disk → Except Failure Disk) : DiskM Unit := do
  match change (← get) with
  | .ok disk => set disk
  | .error e => throw (.files p e)

def writeText (p : Files.Path) (text : String) : DiskM Unit := do
  makeParent p
  update p (·.write p text.toUTF8)

/-- Copies a file. A failure to copy is reported with the path of the source. -/
def copyFile (source target : Files.Path) : DiskM Unit := do
  makeParent target
  update source (·.copy source target)

end DiskM

namespace Output

/-- The folder of the headers. -/
def root (o : Output) : Files.Path := o.folder.join ⟨o.includeRoot⟩

/-- The path of a library entry, seen from the library. -/
def relative (names : List String) : Files.Path := ⟨String.intercalate "/" names⟩

/-- Copies what is at a place of the library and counts the files. A folder is listed when it is entered. The fuel
bounds the depth. -/
def copyEntry (o : Output) (library : Files.Path) : Nat → List String → DiskM Nat
  | 0, _ => pure 0
  | fuel + 1, names => do
    let source := if names.isEmpty then library else library.join (relative names)
    match (← get).get source with
    | .error e => throw (.files source (.walk source.text e))
    | .ok (.file _) =>
      DiskM.copyFile source (o.folder.join (relative names))
      return 1
    | .ok (.folder entries) =>
      entries.foldlM (fun count entry => return count + (← copyEntry o library fuel (names ++ [entry.1]))) 0

/-- Copies the library into the output folder. Entries that the copying itself adds lie at most one output folder
deeper than those that are there, so twice the size of the disk bounds the depth. -/
def copyLibrary (o : Output) (library : Files.Path) : DiskM Nat := do
  copyEntry o library (2 * (← get).root.size + 1) []

def writeArtifacts (o : Output) : Artifacts → DiskM Unit
  | [] => pure ()
  | (path, text) :: rest => do
    DiskM.writeText (o.root.join path) text
    writeArtifacts o rest

/-- Writes the library first, so that a header replaces a library file of the same path. -/
def write (o : Output) (artifacts : Artifacts) : DiskM OutputCounts := do
  DiskM.makeFolders o.folder
  let libraryFiles ←
    match o.library with
    | some library => o.copyLibrary library
    | none => pure 0
  o.writeArtifacts artifacts
  return ⟨libraryFiles, artifacts.length⟩

end Output

end StatusFrames
