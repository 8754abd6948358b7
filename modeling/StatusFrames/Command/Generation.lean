/-
The command that compiles a folder of documents and writes the headers.
-/
import StatusFrames.Command
import StatusFrames.Output

namespace StatusFrames.Command

open CommandM
open Files (Disk)

def printSettings (settings : Settings) (output : Files.Path) : CommandM Unit := do
  printLine "KSRP Compiler - Code Generation Tool"
  printLine "====================================\n"
  printLine "[~] Configuration:"
  if let some file := settings.file then
    printLine ("  Config file: " ++ file.text)
  printLine ("  Source directory: " ++ settings.source.text)
  printLine ("  Output directory: " ++ output.text)
  printLine ("  Include root: " ++ settings.options.includeRoot)
  printLine ("  Prefix: " ++ settings.options.lead)
  printLine ("  Emitter: " ++ settings.options.emitter.word)
  if let some folder := settings.options.templates then
    printLine ("  Templates: " ++ folder.text)
  printLine ""

/-- The library that is to be copied, if any. -/
def chooseLibrary (disk : Disk) : Library → Except CommandError (Option Files.Path)
  | .named folder => if disk.isFolder folder then .ok (some folder) else .error (.noLibrary folder)
  | .byDefault folder => .ok (if disk.isFolder folder then some folder else none)
  | .disabled => .ok none

/-- Writes a compilation; the disk keeps what was written before a failure. -/
def writeOutput (output : Output) (artifacts : Artifacts) : CommandM OutputCounts := do
  let (result, disk) := (output.write artifacts).run.run (← disk)
  modify fun s => { s with disk }
  attempt (.write output.folder) result

def runGeneration (settings : Settings) (verbose : Bool) : CommandM Unit := do
  let folder ← settled settings.requiredOutput
  if verbose then
    printSettings settings folder
  let compiler ← attempt .options (Compiler.ofOptions settings.options)
  printLine ("[~] Loading protocol documents from " ++ settings.source.text ++ "...")
  let documents ← attempt (.load settings.source) (Document.ofFolder (← disk) settings.source)
  if verbose then
    for document in documents do
      printLine ("    - " ++ document.protocol.subsystem ++ " (" ++ document.path.text ++ ")")
  let compilation ← attempt .compile (compiler.compile (← disk) documents)
  let frames := compilation.protocols.foldr (fun protocol rest => protocol.frames.length + rest) 0
  printLine
    ("[~] Built " ++ toString compilation.protocols.length ++ " protocol(s), " ++ toString frames ++ " frame(s), " ++
      toString compilation.symbols ++ " symbol(s)")
  let library ← liftExcept (chooseLibrary (← disk) settings.library)
  let output : Output := { folder, includeRoot := settings.options.includeRoot, library }
  let counts ← writeOutput output compilation.artifacts
  if verbose then
    for (path, _) in compilation.artifacts do
      printLine ("    - " ++ (output.root.join path).text)
  if counts.libraryFiles > 0 then
    printLine ("[~] Copied " ++ toString counts.libraryFiles ++ " library file(s)")
  printLine ("[✓] Wrote " ++ toString counts.artifacts ++ " header(s) to " ++ output.root.text)

end StatusFrames.Command
