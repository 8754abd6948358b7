/-
Headers written by way of declaration trees.
-/
import StatusFrames.Artifacts
import StatusFrames.Declaration
import StatusFrames.Outline

namespace StatusFrames.Emission

open Outline

/-- The first line of a header, with the document it comes from if there is one. -/
def banner : Option String → String
  | some source => "Generated by ksrp from " ++ source ++ ". Do not edit."
  | none => "Generated by ksrp. Do not edit."

def inclusions (header : Header) : List Declaration :=
  [.lines (header.systemIncludes.map (.inclusion · true)), .lines (header.includes.map (.inclusion · false))]

def enumeration (e : Enumeration) : Declaration :=
  .enumeration e.typeName (e.enumerators.map fun v => (v.name, if v.explicit then some v.value else none))

def prototype (p : Prototype) : Declaration := .prototype p.returnType p.name p.params

def constant (c : Constant) : Declaration := .define c.name c.value

def frameBlocks (frame : Frame) : List Declaration :=
  [.comment ("Frame '" ++ frame.name ++ "' (id " ++ toString frame.id ++ ")")] ++
    (frame.fields.filterMap (·.enumType)).map enumeration ++
    [.lines ((frame.fields.flatMap (·.constants)).map constant),
     .record frame.typeName true
       (frame.fields.map fun field => .placed field.storageType field.name field.offset field.width),
     .lines
       [constant frame.sizeConstant,
        .staticAssert ("sizeof(" ++ frame.typeName ++ ") == " ++ frame.sizeConstant.name) frame.sizeAssert,
        constant frame.typeId],
     enumeration frame.fieldIds,
     .lines (frame.fields.map fun field => prototype field.getter),
     .lines (frame.fields.map fun field => prototype field.setter)]

def protocolHeader (protocol : Protocol) : Declaration :=
  .guard protocol.header.guard
    ([.comment (banner (some protocol.source))] ++ inclusions protocol.header ++
      [.titled ("Frame ids of subsystem '" ++ protocol.subsystem ++ "'") [enumeration protocol.frameIds]] ++
      protocol.frames.flatMap frameBlocks)

def instanceHeader (i : Instance) : Declaration :=
  .guard i.header.guard
    ([.comment (banner none)] ++ inclusions i.header ++
      [.record i.typeName false
        (i.members.map (fun m => .plain m.frameType m.frameMember) ++
          i.members.map fun m => .plain i.clockType m.clockMember),
       .lines (i.prototypes.map prototype)])

def commonHeader (o : Outline) : Declaration :=
  .guard o.common.guard
    ([.comment (banner none)] ++ inclusions o.common ++ [.titled "Subsystem ids" [enumeration o.subsystemIds]])

def utilsHeader (o : Outline) : Declaration :=
  .guard o.utils.guard
    ([.comment (banner none)] ++ inclusions o.utils ++ [constant o.subsystemCount] ++
      o.protocols.map fun protocol => .lines (protocol.dispatch.map prototype))

/-- Every header of the output as a tree, with its path. -/
def headerTrees (o : Outline) : List (String × Declaration) :=
  o.protocols.flatMap (fun protocol =>
    [(protocol.header.path, protocolHeader protocol),
     (protocol.instanceOutline.header.path, instanceHeader protocol.instanceOutline)]) ++
    [(o.common.path, commonHeader o), (o.utils.path, utilsHeader o)]

/-- Writes the headers of an outline from their trees. -/
def fromTrees (o : Outline) : Except CompileError Artifacts :=
  Artifacts.insertAll [] ((headerTrees o).map fun (path, tree) => (path, tree.text))

end StatusFrames.Emission
