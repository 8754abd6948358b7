/-
The program. The part of the file system that a command can touch is read into a `Disk`, the command runs on it, and
what it changed is written back.
-/
import StatusFrames.Command.Running

namespace StatusFrames.Program

open Files (Disk Entry Move Place)

/-- The real path of a place. -/
def spell (place : Place) : String := "/" ++ String.intercalate "/" place

/-- Reads a file, or a folder with all that is in it. -/
partial def readEntry (place : Place) : IO (Option Entry) := do
  let path := (← IO.currentDir) / spell place
  if ← path.isDir then
    let names := ((← path.readDir).map (·.fileName)).toList.mergeSort (fun a b => decide (a ≤ b))
    let entries ← names.filterMapM fun name => do
      return (← readEntry (place ++ [name])).map fun e => (name, e)
    return some (.folder entries)
  else if ← path.pathExists then
    return some (.file (← IO.FS.readBinFile path))
  else
    return none

/-- The places that a path leads through, the last of them the place that it leads to. -/
def trail (place : Place) : List Move → List Place
  | [] => [place]
  | .stay :: rest => trail place rest
  | .up :: rest => place :: trail place.dropLast rest
  | .down name :: rest => place :: trail (place ++ [name]) rest

/-- Adds a folder to the disk, without what is in it. -/
def loadFolder (disk : Disk) (place : Place) : IO Disk := do
  if (disk.root.at? place).isSome then return disk
  let path := (← IO.currentDir) / spell place
  if ← path.isDir then return disk.put place (.folder [])
  match ← readEntry place with
  | some e => return disk.put place e
  | none => return disk

/-- Adds to the disk what a path leads to, and the folders on the way. -/
def load (disk : Disk) (p : Files.Path) : IO Disk := do
  let mut disk := disk
  let places := trail (disk.start p) p.moves
  for place in places do
    for depth in List.range (place.length + 1) do
      disk ← loadFolder disk (place.take depth)
  match places.getLast? with
  | none => return disk
  | some place =>
    match ← readEntry place with
    | some e => return disk.put place e
    | none => return disk

/-- Writes what is new or different at a place. -/
partial def store (place : Place) (before : Option Entry) : Entry → IO Unit
  | .file bytes => do
    let same :=
      match before with
      | some (.file old) => old.data == bytes.data
      | _ => false
    if !same then IO.FS.writeBinFile (spell place) bytes
  | .folder entries => do
    if before.isNone then IO.FS.createDirAll (spell place)
    for (name, e) in entries do
      store (place ++ [name]) (before.bind (·.at? [name])) e

/-- The paths that a command works on. -/
def touched (disk : Disk) (words : List String) : List Files.Path :=
  let ofSettings := fun (settings : Settings) =>
    let library :=
      match settings.library with
      | .named folder | .byDefault folder => [folder]
      | .disabled => []
    settings.source :: settings.output.toList ++ settings.options.templates.toList ++ library
  match Command.parse words with
  | .error _ => []
  | .ok invocation =>
    let resolved :=
      match invocation.command with
      | .generate overrides file => Settings.resolve disk file overrides
      | .analyze source _ file => Settings.resolve disk file { source }
    match resolved with
    | .ok settings => ofSettings settings
    | .error _ => []

def settingsFile (words : List String) : Files.Path :=
  match Command.parse words with
  | .ok ⟨_, .generate _ file⟩ | .ok ⟨_, .analyze _ _ file⟩ => file.getD defaultSettingsFile
  | .error _ => defaultSettingsFile

def run (words : List String) : IO UInt32 := do
  let here := ((← IO.currentDir).toString.splitOn "/").filter (· ≠ "")
  let mut disk ← load ⟨.folder [], here⟩ (settingsFile words)
  for path in touched disk words do
    disk ← load disk path
  let outcome := Command.run disk words
  store [] (some disk.root) outcome.disk.root
  IO.print outcome.printed
  if !outcome.reported.isEmpty then IO.eprintln outcome.reported
  return outcome.exitCode.toUInt32

end StatusFrames.Program

def main (words : List String) : IO UInt32 := StatusFrames.Program.run words
