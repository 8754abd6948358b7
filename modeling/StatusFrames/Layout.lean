/-
The byte layout of a protocol: every field with its place in the frame, every enum label with its number.
-/
import StatusFrames.Document

namespace StatusFrames.Layout

structure EnumValue where
  label : String
  value : UInt8
  /-- Whether the document spelled the value out. -/
  explicit : Bool
deriving DecidableEq, Repr

inductive FieldKind
  | native
  /-- Declared as a boolean, stored as a byte. -/
  | boolCast
  /-- Declared as an enum, stored as a byte. -/
  | enumCast (typeName : String) (values : List EnumValue)
  /-- The device id in front of a frame. -/
  | deviceId
deriving DecidableEq, Repr

/-- The labels of a kind, with their numbers. -/
def FieldKind.enumValues : FieldKind → List EnumValue
  | .enumCast _ values => values
  | _ => []

inductive Condition
  | exact (value : Literal)
  | range (min max : Literal)

structure HealthCheck where
  condition : Condition
  result : Option String
  troubleshoot : Option String
  description : Option String

structure Field where
  name : String
  declaredType : String
  storageType : String
  offset : Nat
  width : Nat
  kind : FieldKind
  initial : Option Literal
  healthChecks : List HealthCheck

namespace Field

def isTypeCast (f : Field) : Bool :=
  match f.kind with
  | .boolCast | .enumCast .. => true
  | _ => false

def isDeviceId (f : Field) : Bool := f.kind = .deviceId

def enumType? (f : Field) : Option String :=
  match f.kind with
  | .enumCast typeName _ => some typeName
  | _ => none

def enumValues (f : Field) : List EnumValue := f.kind.enumValues

/-- The first byte behind the field. -/
def endOffset (f : Field) : Nat := f.offset + f.width

end Field

structure Frame where
  name : String
  id : UInt8
  fields : List Field

namespace Frame

/-- Frames are packed, so the size is the sum of the widths. -/
def size (f : Frame) : Nat := f.fields.foldr (fun field rest => field.width + rest) 0

/-- The fields that the author declared. -/
def declaredFields (f : Frame) : List Field := f.fields.filter (!·.isDeviceId)

end Frame

structure Protocol where
  subsystem : String
  subsystemId : UInt8
  multiDevice : Bool
  source : Files.Path
  frames : List Frame

end StatusFrames.Layout
