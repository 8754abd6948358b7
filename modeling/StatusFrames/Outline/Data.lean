/-
Outlines as plain data, which is what templates see.
-/
import StatusFrames.Data
import StatusFrames.Outline

namespace StatusFrames

namespace Outline

def texts (items : List String) : Data := .ofList .text items

def Header.toData (h : Header) : Data :=
  .record [("path", .text h.path), ("guard", .text h.guard), ("clibraries", texts h.systemIncludes),
    ("libraries", texts h.includes)]

def Constant.toData (c : Constant) : Data := .record [("name", .text c.name), ("value", .text c.value)]

def Enumerator.toData (e : Enumerator) : Data :=
  .record [("name", .text e.name), ("value", .int e.value), ("explicit", .bool e.explicit)]

def Enumeration.toData (e : Enumeration) : Data :=
  .record [("type_name", .text e.typeName), ("enumerators", .ofList Enumerator.toData e.enumerators)]

def Prototype.toData (p : Prototype) : Data :=
  .record [("return_type", .text p.returnType), ("name", .text p.name), ("params", texts p.params)]

def Field.toData (f : Field) : Data :=
  .record [("name", .text f.name), ("declared_type", .text f.declaredType), ("storage_type", .text f.storageType),
    ("api_type", .text f.apiType), ("offset", .int f.offset), ("width", .int f.width),
    ("is_type_cast", .bool f.isTypeCast), ("is_device_id", .bool f.isDeviceId),
    ("enum_type", .ofOption Enumeration.toData f.enumType), ("constants", .ofList Constant.toData f.constants),
    ("getter", f.getter.toData), ("setter", f.setter.toData)]

def Frame.toData (f : Frame) : Data :=
  .record [("name", .text f.name), ("id", .int f.id.toNat), ("type_name", .text f.typeName), ("size", .int f.size),
    ("size_constant", f.sizeConstant.toData), ("size_assert", .text f.sizeAssert), ("type_id", f.typeId.toData),
    ("field_ids", f.fieldIds.toData), ("fields", .ofList Field.toData f.fields)]

def InstanceMember.toData (m : InstanceMember) : Data :=
  .record [("frame_type", .text m.frameType), ("frame_member", .text m.frameMember),
    ("clock_member", .text m.clockMember)]

def Instance.toData (i : Instance) : Data :=
  .record [("header", i.header.toData), ("type_name", .text i.typeName), ("clock_type", .text i.clockType),
    ("members", .ofList InstanceMember.toData i.members), ("prototypes", .ofList Prototype.toData i.prototypes)]

def Protocol.toData (p : Protocol) : Data :=
  .record [("subsystem", .text p.subsystem), ("subsystem_id", .int p.subsystemId.toNat),
    ("multi_device", .bool p.multiDevice), ("source", .text p.source), ("header", p.header.toData),
    ("frame_ids", p.frameIds.toData), ("frames", .ofList Frame.toData p.frames),
    ("dispatch", .ofList Prototype.toData p.dispatch), ("instance", p.instanceOutline.toData)]

end Outline

def Outline.toData (o : Outline) : Data :=
  .record [("prefix", .text o.lead), ("include_root", .text o.includeRoot), ("common", o.common.toData),
    ("subsystem_ids", o.subsystemIds.toData), ("utils", o.utils.toData),
    ("subsystem_count", o.subsystemCount.toData), ("protocols", .ofList Outline.Protocol.toData o.protocols)]

end StatusFrames
