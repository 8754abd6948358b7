/-
Placing the fields of a frame one behind the other, without padding, in document order. A multi-device frame starts
with the device id.
-/
import StatusFrames.Layout.Admission
import StatusFrames.Layout.EnumNumbering
import StatusFrames.Naming

namespace StatusFrames.Layout

/-- The names around a field. -/
structure Scope where
  naming : Naming
  subsystem : String
  frame : String

def fieldKind (scope : Scope) (location : Location) (field : Document.Field) (kind : TypeClass) :
    Except CompileError FieldKind :=
  match kind with
  | .bool => .ok .boolCast
  | .enum =>
    match numberLabels field.values with
    | .ok values => .ok (.enumCast (scope.naming.enumType scope.subsystem scope.frame field.name) values)
    | .error problem => .error (.schema location problem)
  | .unsigned | .signed | .float => .ok .native

/-- The health checks of a field; positions count from one. -/
def healthChecks (location : Location) (d : Domain) :
    Nat → List Document.HealthCheck → Except CompileError (List HealthCheck)
  | _, [] => .ok []
  | position, check :: rest => do
    let first ← (healthCheck d check).mapError (.healthCheck location position ·)
    let others ← healthChecks location d (position + 1) rest
    return first :: others

/-- The type entry, storage type and width of a type name. -/
def resolveType (location : Location) (typeName : String) : Except CompileError (TypeEntry × String × Nat) :=
  match Registry.get? typeName, Registry.storageType? typeName, Registry.width? typeName with
  | some entry, some storage, some width => .ok (entry, storage, width)
  | _, _, _ => .error (.unknownType location typeName)

def placeField (scope : Scope) (location : Location) (offset : Nat) (field : Document.Field) :
    Except CompileError Field := do
  let (entry, storage, width) ← resolveType location field.typeName
  let kind ← fieldKind scope location field entry.kind
  let d : Domain :=
    { kind := entry.kind
      width := width
      enumValues := kind.enumValues }
  match field.initial with
  | some literal => (d.check literal).mapError fun fault => CompileError.schema location (.badInitial fault)
  | none => .ok ()
  let checks ← healthChecks location d 1 field.healthChecks
  return ⟨field.name, field.typeName, storage, offset, width, kind, field.initial, checks⟩

/-- Places fields from `offset` on. -/
def placeFields (scope : Scope) (location : Location) :
    Nat → List Document.Field → Except CompileError (List Field)
  | _, [] => .ok []
  | offset, field :: rest => do
    let first ← placeField scope (location.inField field.name) offset field
    let others ← placeFields scope location first.endOffset rest
    return first :: others

/-- One byte at the start of the frame. -/
def deviceId : Field :=
  { name := Document.deviceIdName
    declaredType := Registry.byteName
    storageType := Registry.byteName
    offset := 0
    width := 1
    kind := .deviceId
    initial := none
    healthChecks := [] }

def placeFrame (naming : Naming) (protocol : Document.Protocol) (location : Location) (frame : Document.Frame) :
    Except CompileError Frame := do
  let front := if protocol.multiDevice then [deviceId] else []
  let start := if protocol.multiDevice then deviceId.endOffset else 0
  let fields ← placeFields ⟨naming, protocol.subsystem, frame.name⟩ location start frame.fields
  return ⟨frame.name, frame.frameId, front ++ fields⟩

/-- The layout of a document. -/
def ofDocument (naming : Naming) (document : Document) : Except CompileError Protocol := do
  let location : Location := { document := document.path }
  let protocol := document.protocol
  let frames ← protocol.frames.mapM fun frame => placeFrame naming protocol (location.inFrame frame.name) frame
  return ⟨protocol.subsystem, protocol.subsystemId, protocol.multiDevice, document.path, frames⟩

end StatusFrames.Layout
