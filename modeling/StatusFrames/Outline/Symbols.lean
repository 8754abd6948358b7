/-
The C symbols of an outline, registered with their owners: first those of the output as a whole, then subsystem by
subsystem, frame by frame and field by field.
-/
import StatusFrames.Naming.SymbolTable
import StatusFrames.Outline

namespace StatusFrames.Outline

open SymbolM (register)

def Field.registerSymbols (field : Field) (fieldId : Enumerator) (owner : String → Owner) : SymbolM Unit := do
  register fieldId.name (owner "field id")
  register field.getter.name (owner field.getter.role)
  register field.setter.name (owner field.setter.role)
  match field.enumType with
  | some e =>
    register e.typeName (owner "enum type")
    forM e.enumerators fun v => register v.name (owner v.role)
  | none => pure ()
  forM field.constants fun c => register c.name (owner c.role)

def Frame.registerSymbols (frame : Frame) (frameId : Enumerator) (document : Files.Path) (subsystem : String) :
    SymbolM Unit := do
  let owner := Owner.ofElement document [subsystem, frame.name]
  register frameId.name (owner "frame id")
  register frame.typeName (owner "frame struct")
  register frame.sizeConstant.name (owner frame.sizeConstant.role)
  register frame.typeId.name (owner frame.typeId.role)
  register frame.fieldIds.typeName (owner "field id enum")
  forM (frame.fields.zip frame.fieldIds.enumerators) fun (field, fieldId) =>
    field.registerSymbols fieldId (Owner.ofElement document [subsystem, frame.name, field.name])

def Protocol.registerSymbols (protocol : Protocol) (subsystemId : Enumerator) : SymbolM Unit := do
  let owner := Owner.ofElement protocol.document [protocol.subsystem]
  register subsystemId.name (owner subsystemId.role)
  register protocol.header.guard (owner "header guard")
  register protocol.instanceOutline.header.guard (owner "instance header guard")
  register protocol.frameIds.typeName (owner "frame id enum")
  register protocol.instanceOutline.typeName (owner "instance struct")
  forM (protocol.dispatch ++ protocol.instanceOutline.prototypes) fun p => register p.name (owner p.role)
  forM (protocol.frames.zip protocol.frameIds.enumerators) fun (frame, frameId) =>
    frame.registerSymbols frameId protocol.document protocol.subsystem

end StatusFrames.Outline

namespace StatusFrames

open SymbolM (register) in
/-- Registers all symbols of an outline, up to the first that is there already. -/
def Outline.registerSymbols (o : Outline) : SymbolM Unit := do
  register o.common.guard (.output "header guard")
  register o.utils.guard (.output "header guard")
  register o.subsystemIds.typeName (.output "subsystem id enum")
  register o.subsystemCount.name (.output o.subsystemCount.role)
  forM (o.protocols.zip o.subsystemIds.enumerators) fun (protocol, subsystemId) => protocol.registerSymbols subsystemId

/-- The table of all symbols, unless one is asked for twice. -/
def Outline.symbolTable (o : Outline) : Except CompileError SymbolTable := ({} : SymbolTable).after o.registerSymbols

end StatusFrames
