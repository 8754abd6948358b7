/-
Protocol documents as their authors write them: a subsystem with its frames, their fields, and what is known about the
healthy values of a field.
-/
import StatusFrames.Document.Literal
import StatusFrames.Files.Path

namespace StatusFrames.Document

inductive CheckKind
  | exact
  | range
deriving DecidableEq, Repr

def CheckKind.word : CheckKind → String
  | .exact => "exact"
  | .range => "range"

/-- A health check as written; which of its literals must be there depends on its kind and is checked later. -/
structure HealthCheck where
  kind : CheckKind
  value : Option Literal
  min : Option Literal
  max : Option Literal
  result : Option String
  troubleshoot : Option String
  description : Option String

/-- An entry of the `values` list of an enum field. -/
structure EnumValue where
  name : String
  /-- The value, if the document spells it out. -/
  value : Option Int
deriving DecidableEq, Repr

structure Field where
  name : String
  typeName : String
  initial : Option Literal
  values : List EnumValue
  healthChecks : List HealthCheck

structure Frame where
  name : String
  frameId : UInt8
  fields : List Field

structure Protocol where
  subsystem : String
  subsystemId : UInt8
  /-- Every frame starts with a device id. -/
  multiDevice : Bool
  frames : List Frame

/-- Name of the field in front of every frame of a multi-device protocol. -/
def deviceIdName : String := "device_id"

end StatusFrames.Document

namespace StatusFrames

/-- A protocol with the file it came from. -/
structure Document where
  path : Files.Path
  protocol : Document.Protocol

namespace Document

def subsystem (d : Document) : String := d.protocol.subsystem

def subsystemId (d : Document) : UInt8 := d.protocol.subsystemId

end Document

end StatusFrames
