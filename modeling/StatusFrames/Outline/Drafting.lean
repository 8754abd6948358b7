/-
From layouts to the outline of the headers.
-/
import StatusFrames.Layout
import StatusFrames.Naming
import StatusFrames.Outline
import StatusFrames.Text.Quoted

namespace StatusFrames.Outline

/-- The folder below the output in which headers include each other. -/
def defaultIncludeRoot : String := "kalman-status-report-protocol"

/-- Headers of the support library that every protocol needs. -/
def supportHeaders : List String := ["frames.h", "common.h"]

/-- Type of the clock that an instance keeps per frame. -/
def clockType : String := "uint32_t"

def protocolPath (subsystem : String) : String := "protocols/subsystems/" ++ subsystem ++ "_protocol.h"

def instancePath (subsystem : String) : String := "instances/" ++ subsystem ++ "_instance.h"

def commonPath : String := "protocols/protocol_common.h"

def utilsPath : String := "protocols/protocol_utils.h"

/-- What names and include lines depend on. -/
structure Setting where
  naming : Naming
  includeRoot : String

def Setting.includePath (s : Setting) (path : String) : String := s.includeRoot ++ "/" ++ path

/-- The names of a field and of what it belongs to. -/
structure Place where
  naming : Naming
  subsystem : String
  frame : String
  field : String

/-- A literal as a C constant; a label becomes the enumerator of the field. -/
def Place.literal (p : Place) : Literal → String
  | .label name => p.naming.enumLabel p.subsystem p.frame p.field name
  | literal => literal.source

/-- The constants of a health check, which is the one at `position` of its field. -/
def Place.checkConstants (p : Place) (position : Nat) (check : Layout.HealthCheck) : List Constant :=
  let base := p.naming.healthCheck p.subsystem p.frame p.field check.result position
  let constant := fun (name value : String) => (⟨name, value, "health check #" ++ toString position⟩ : Constant)
  let text := fun (suffix : String) (text : Option String) =>
    (text.map fun text => constant (base ++ suffix) (Text.quoted text)).toList
  let bounds :=
    match check.condition with
    | .exact value => [constant base (p.literal value)]
    | .range min max => [constant (base ++ "_MIN") (p.literal min), constant (base ++ "_MAX") (p.literal max)]
  bounds ++ text "_DESCRIPTION" check.description ++ text "_TROUBLESHOOT" check.troubleshoot

def Place.allCheckConstants (p : Place) : Nat → List Layout.HealthCheck → List Constant
  | _, [] => []
  | position, check :: rest => p.checkConstants position check ++ p.allCheckConstants (position + 1) rest

def Place.constants (p : Place) (field : Layout.Field) : List Constant :=
  (field.initial.map fun literal =>
    (⟨p.naming.initialValue p.subsystem p.frame p.field, p.literal literal, "default value"⟩ : Constant)).toList ++
    p.allCheckConstants 1 field.healthChecks

def Place.enumeration (p : Place) (typeName : String) (values : List Layout.EnumValue) : Enumeration :=
  { typeName := typeName
    enumerators := values.map fun v =>
      { name := p.naming.enumLabel p.subsystem p.frame p.field v.label
        value := v.value.toNat
        explicit := v.explicit
        role := "enum label '" ++ v.label ++ "'" } }

def apiType (field : Layout.Field) : String :=
  match field.kind with
  | .boolCast => "bool"
  | .enumCast typeName _ => typeName
  | .native | .deviceId => field.storageType

def ofField (naming : Naming) (subsystem frame : String) (field : Layout.Field) : Field :=
  let p : Place := ⟨naming, subsystem, frame, field.name⟩
  let frameType := naming.frameType subsystem frame
  let api := apiType field
  { name := field.name
    declaredType := field.declaredType
    storageType := field.storageType
    apiType := api
    offset := field.offset
    width := field.width
    isTypeCast := field.isTypeCast
    isDeviceId := field.isDeviceId
    enumType := field.enumType?.map fun typeName => p.enumeration typeName field.enumValues
    constants := p.constants field
    getter := ⟨api, naming.getter subsystem frame field.name, ["const " ++ frameType ++ " *frame"], "getter"⟩
    setter :=
      ⟨"void", naming.setter subsystem frame field.name, [frameType ++ " *frame", api ++ " value"], "setter"⟩ }

/-- The ids of the fields, counted from `first`. -/
def fieldIds (naming : Naming) (subsystem frame : String) : Nat → List Layout.Field → List Enumerator
  | _, [] => []
  | first, field :: rest =>
    { name := naming.fieldId subsystem frame field.name
      value := first
      explicit := false
      role := "field id of '" ++ field.name ++ "'" } :: fieldIds naming subsystem frame (first + 1) rest

def ofFrame (naming : Naming) (subsystem : String) (frame : Layout.Frame) : Frame :=
  let typeName := naming.frameType subsystem frame.name
  { name := frame.name
    id := frame.id
    typeName := typeName
    size := frame.size
    sizeConstant := ⟨naming.frameSize subsystem frame.name, toString frame.size, "frame size"⟩
    sizeAssert := typeName ++ " must be " ++ toString frame.size ++ " bytes"
    typeId :=
      { name := naming.typeId subsystem frame.name
        value := "((uint16_t)((" ++ naming.subsystemId subsystem ++ " << 8) | " ++
          naming.frameId subsystem frame.name ++ "))"
        role := "type id" }
    fieldIds := ⟨naming.fieldIdType subsystem frame.name, fieldIds naming subsystem frame.name 0 frame.fields⟩
    fields := frame.fields.map (ofField naming subsystem frame.name) }

def instancePrototypes (naming : Naming) (subsystem : String) : List Prototype :=
  let typeName := naming.instanceType subsystem
  let frameIdType := naming.frameIdType subsystem
  [⟨"bool", naming.instanceFunction subsystem "Init", [typeName ++ " *instance"], "instance init"⟩,
   ⟨"bool", naming.instanceFunction subsystem "UpdateFrame",
     [typeName ++ " *instance", frameIdType ++ " frame_id", "const void *frame", "size_t frame_size"],
     "instance frame update"⟩,
   ⟨"void", naming.instanceFunction subsystem "UpdateTime",
     [typeName ++ " *instance", clockType ++ " elapsed_ms"], "instance clock update"⟩,
   ⟨clockType, naming.instanceFunction subsystem "GetTimeSinceLastUpdate",
     ["const " ++ typeName ++ " *instance", frameIdType ++ " frame_id"], "instance clock lookup"⟩]

def ofInstance (s : Setting) (protocol : Layout.Protocol) : Instance :=
  let subsystem := protocol.subsystem
  { header :=
      { path := instancePath subsystem
        guard := s.naming.headerGuard (subsystem ++ "_instance")
        systemIncludes := ["stdint.h", "stdbool.h", "stddef.h"]
        includes := (supportHeaders ++ [protocolPath subsystem]).map s.includePath }
    typeName := s.naming.instanceType subsystem
    clockType := clockType
    members := protocol.frames.map fun frame =>
      ⟨s.naming.frameType subsystem frame.name, frame.name ++ "_instance", frame.name ++ "_ms_since_last_update"⟩
    prototypes := instancePrototypes s.naming subsystem }

def ofProtocol (s : Setting) (protocol : Layout.Protocol) : Protocol :=
  let subsystem := protocol.subsystem
  let frameIdType := s.naming.frameIdType subsystem
  { subsystem := subsystem
    subsystemId := protocol.subsystemId
    multiDevice := protocol.multiDevice
    source := protocol.source.fileName?.getD protocol.source.text
    document := protocol.source
    header :=
      { path := protocolPath subsystem
        guard := s.naming.headerGuard (subsystem ++ "_protocol")
        systemIncludes := ["stdint.h", "stdbool.h"]
        includes := (supportHeaders ++ [commonPath]).map s.includePath }
    frameIds :=
      { typeName := frameIdType
        enumerators := protocol.frames.map fun frame =>
          { name := s.naming.frameId subsystem frame.name
            value := frame.id.toNat
            explicit := true
            role := "frame id of '" ++ frame.name ++ "'" } }
    frames := protocol.frames.map (ofFrame s.naming subsystem)
    dispatch :=
      [⟨"size_t", s.naming.frameSizeLookup subsystem, [frameIdType ++ " frame_id"], "frame size lookup"⟩,
       ⟨"bool", s.naming.typeIdCheck subsystem, ["uint16_t type_id"], "type id check"⟩]
    instanceOutline := ofInstance s protocol }

/-- The outline of the output, with the protocols in the order given. -/
def ofLayouts (s : Setting) (layouts : List Layout.Protocol) : Outline :=
  let protocols := layouts.map (ofProtocol s)
  { lead := s.naming.lead
    includeRoot := s.includeRoot
    common :=
      { path := commonPath
        guard := s.naming.headerGuard "protocol_common"
        systemIncludes := ["stdint.h"]
        includes := [] }
    subsystemIds :=
      { typeName := s.naming.subsystemIdType
        enumerators := protocols.map fun p =>
          { name := s.naming.subsystemId p.subsystem
            value := p.subsystemId.toNat
            explicit := true
            role := "subsystem id" } }
    utils :=
      { path := utilsPath
        guard := s.naming.headerGuard "protocol_utils"
        systemIncludes := ["stdint.h", "stdbool.h", "stddef.h"]
        includes := (commonPath :: protocols.map (·.header.path)).map s.includePath }
    subsystemCount := ⟨s.naming.subsystemCount, toString protocols.length, "subsystem count"⟩
    protocols := protocols }

end StatusFrames.Outline
