/-
The checks a document must pass before its frames are laid out. They run in document order and the first problem is
reported.
-/
import StatusFrames.Error
import StatusFrames.Registry
import StatusFrames.Text.Identifier

namespace StatusFrames.Document

def requireName (location : Location) (kind : NameKind) (name : String) : Except CompileError Unit :=
  if Text.isIdentifier name then .ok () else .error (.schema location (.badName kind name))

/-- Labels are identifiers and pairwise distinct. -/
def checkLabels (location : Location) : List String → List EnumValue → Except CompileError Unit
  | _, [] => .ok ()
  | seen, value :: rest => do
    requireName location .enumLabel value.name
    if seen.contains value.name then .error (.schema location (.duplicateLabel value.name))
    checkLabels location (value.name :: seen) rest

/-- An enum field has labels and no other field has any. -/
def checkValues (location : Location) (field : Field) : Except CompileError Unit :=
  if field.typeName = "enum" then
    if field.values.isEmpty then .error (.schema location .noEnumValues) else checkLabels location [] field.values
  else if field.values.isEmpty then .ok ()
  else .error (.schema location (.valuesNotAllowed field.typeName))

def checkResults (location : Location) : List HealthCheck → Except CompileError Unit
  | [] => .ok ()
  | check :: rest => do
    match check.result with
    | some result => requireName location .checkResult result
    | none => .ok ()
    checkResults location rest

def checkField (location : Location) (field : Field) : Except CompileError Unit := do
  if !Registry.contains field.typeName then .error (.unknownType location field.typeName)
  checkValues location field
  checkResults location field.healthChecks

/-- The fields of a frame, behind fields with the names `seen`. -/
def checkFields (location : Location) (multiDevice : Bool) : List String → List Field → Except CompileError Unit
  | _, [] => .ok ()
  | seen, field :: rest => do
    let here := location.inField field.name
    requireName here .field field.name
    if seen.contains field.name then .error (.schema here .duplicateField)
    if multiDevice && field.name == deviceIdName then .error (.schema here .reservedField)
    checkField here field
    checkFields location multiDevice (field.name :: seen) rest

def checkFrame (location : Location) (multiDevice : Bool) (frame : Frame) : Except CompileError Unit :=
  if frame.fields.isEmpty && !multiDevice then .error (.schema location .noFields)
  else checkFields location multiDevice [] frame.fields

/-- The frames of a protocol, behind the frames `seen`. -/
def checkFrames (location : Location) (multiDevice : Bool) : List Frame → List Frame → Except CompileError Unit
  | _, [] => .ok ()
  | seen, frame :: rest => do
    let here := location.inFrame frame.name
    requireName here .frame frame.name
    if seen.any (·.name == frame.name) then .error (.schema here .duplicateFrame)
    match seen.find? (·.frameId == frame.frameId) with
    | some previous => .error (.schema here (.frameIdTaken frame.frameId previous.name))
    | none => .ok ()
    checkFrame here multiDevice frame
    checkFrames location multiDevice (frame :: seen) rest

def Protocol.check (protocol : Protocol) (location : Location) : Except CompileError Unit := do
  requireName location .subsystem protocol.subsystem
  if protocol.frames.isEmpty then .error (.schema location .noFrames)
  checkFrames location protocol.multiDevice [] protocol.frames

end StatusFrames.Document
