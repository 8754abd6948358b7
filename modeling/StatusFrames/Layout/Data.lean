/-
Layouts as plain data.
-/
import StatusFrames.Data
import StatusFrames.Layout

namespace StatusFrames

def Literal.toData : Literal → Data
  | .bool b => .bool b
  | .integer i => .int i
  | .unsigned n => .int n
  | .float x => .float x
  | .label name => .text name

namespace Layout

def EnumValue.toData (v : EnumValue) : Data :=
  .record [("label", .text v.label), ("value", .int v.value.toNat), ("explicit", .bool v.explicit)]

def FieldKind.toData : FieldKind → Data
  | .native => .record [("kind", .text "native")]
  | .boolCast => .record [("kind", .text "bool_cast")]
  | .enumCast typeName values =>
    .record [("kind", .text "enum_cast"), ("type_name", .text typeName), ("values", .ofList EnumValue.toData values)]
  | .deviceId => .record [("kind", .text "device_id")]

def Condition.toData : Condition → Data
  | .exact value => .record [("type", .text "exact"), ("value", value.toData)]
  | .range min max => .record [("type", .text "range"), ("min", min.toData), ("max", max.toData)]

def HealthCheck.toData (c : HealthCheck) : Data :=
  .record [("condition", c.condition.toData), ("result", .ofOption .text c.result),
    ("troubleshoot", .ofOption .text c.troubleshoot), ("description", .ofOption .text c.description)]

def Field.toData (f : Field) : Data :=
  .record [("name", .text f.name), ("declared_type", .text f.declaredType), ("storage_type", .text f.storageType),
    ("offset", .int f.offset), ("width", .int f.width), ("kind", f.kind.toData),
    ("default", .ofOption Literal.toData f.initial), ("health_checks", .ofList HealthCheck.toData f.healthChecks)]

def Frame.toData (f : Frame) : Data :=
  .record [("name", .text f.name), ("id", .int f.id.toNat), ("fields", .ofList Field.toData f.fields)]

def Protocol.toData (p : Protocol) : Data :=
  .record [("subsystem", .text p.subsystem), ("subsystem_id", .int p.subsystemId.toNat),
    ("multi_device", .bool p.multiDevice), ("source", .text p.source.text), ("frames", .ofList Frame.toData p.frames)]

end Layout

end StatusFrames
