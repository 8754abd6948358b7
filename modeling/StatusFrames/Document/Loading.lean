/-
Turning texts into checked documents, and putting documents into their fixed order.
-/
import StatusFrames.Document.Reading
import StatusFrames.Document.Validity

namespace StatusFrames.Document

/-- Reads and checks the text of one document. -/
def ofText (path : Files.Path) (text : String) : Except CompileError Document :=
  let location : Location := { document := path }
  match Yaml.readDocument readFile text with
  | .error e => .error (.schema location (.unreadable e))
  | .ok protocol => do
    protocol.check location
    return ⟨path, protocol⟩

/-- By subsystem name, then by path. -/
def le (a b : Document) : Bool :=
  if a.subsystem = b.subsystem then a.path.le b.path else a.subsystem < b.subsystem

def sort (documents : List Document) : List Document := documents.mergeSort le

/-- Subsystem names and ids must differ from those of the documents `seen`. -/
def checkUniqueAfter : List Document → List Document → Except CompileError Unit
  | _, [] => .ok ()
  | seen, document :: rest => do
    let location : Location := { document := document.path }
    match seen.find? (·.subsystem == document.subsystem) with
    | some previous => .error (.schema location (.subsystemTaken document.subsystem previous.path))
    | none => .ok ()
    match seen.find? (·.subsystemId == document.subsystemId) with
    | some previous => .error (.schema location (.subsystemIdTaken document.subsystemId previous.subsystem))
    | none => .ok ()
    checkUniqueAfter (document :: seen) rest

/-- Subsystem names and ids identify a protocol in the whole output. -/
def checkUnique (documents : List Document) : Except CompileError Unit := checkUniqueAfter [] documents

end StatusFrames.Document
