/-
Loading documents from files.
-/
import StatusFrames.Document.Loading
import StatusFrames.Files.Disk

namespace StatusFrames.Document

open Files (Disk)

def ofFile (disk : Disk) (path : Files.Path) : Except CompileError Document := do
  let text ← (disk.readText path).mapError (.files path ·)
  ofText path text

/-- Loads documents and puts them into order. -/
def ofFiles (disk : Disk) (paths : List Files.Path) : Except CompileError (List Document) := do
  let documents ← paths.mapM (ofFile disk)
  let sorted := sort documents
  checkUnique sorted
  return sorted

def isDocumentName (path : Files.Path) : Bool := path.extension? = some "yaml" || path.extension? = some "yml"

/-- The document files of a folder. -/
def filesIn (disk : Disk) (folder : Files.Path) : Except CompileError (List Files.Path) := do
  let names ← (disk.list folder).mapError (.files folder ·)
  return (names.map fun name => folder.join ⟨name⟩).filter fun path => disk.isFile path && isDocumentName path

/-- Loads all documents of a folder, of which there must be at least one. -/
def ofFolder (disk : Disk) (folder : Files.Path) : Except CompileError (List Document) := do
  let paths ← filesIn disk folder
  if paths.isEmpty then .error (.schema { document := folder } .noDocuments)
  ofFiles disk paths

end StatusFrames.Document
