/-
The symbols of an outline as one list, in the order in which they are registered. Registering an outline is registering
this list.
-/
import StatusFrames.Outline.Symbols
import StatusFrames.Proofs.Naming.Registration

namespace StatusFrames

namespace SymbolM

theorem registerAll_cons (s : String × Owner) (rest : List (String × Owner)) :
    registerAll (s :: rest) = (register s.1 s.2 >>= fun _ => registerAll rest) :=
  List.forM_cons

theorem registerAll_append (first rest : List (String × Owner)) :
    registerAll (first ++ rest) = (registerAll first >>= fun _ => registerAll rest) :=
  List.forM_append

theorem registerAll_map {α : Type} (f : α → String × Owner) (xs : List α) :
    registerAll (xs.map f) = forM xs fun a => register (f a).1 (f a).2 :=
  List.forM_map

theorem registerAll_flatMap {α : Type} (f : α → List (String × Owner)) (xs : List α) :
    registerAll (xs.flatMap f) = forM xs fun a => registerAll (f a) :=
  forM_flatMap f _ xs

end SymbolM

namespace Outline

open SymbolM

def Field.symbols (field : Field) (fieldId : Enumerator) (owner : String → Owner) : List (String × Owner) :=
  let enumSymbols := fun (e : Enumeration) =>
    (e.typeName, owner "enum type") :: e.enumerators.map fun v => (v.name, owner v.role)
  [(fieldId.name, owner "field id"), (field.getter.name, owner field.getter.role),
   (field.setter.name, owner field.setter.role)] ++
    field.enumType.toList.flatMap enumSymbols ++ field.constants.map fun c => (c.name, owner c.role)

def Frame.symbols (frame : Frame) (frameId : Enumerator) (document : Files.Path) (subsystem : String) :
    List (String × Owner) :=
  let owner := Owner.ofElement document [subsystem, frame.name]
  [(frameId.name, owner "frame id"), (frame.typeName, owner "frame struct"),
   (frame.sizeConstant.name, owner frame.sizeConstant.role), (frame.typeId.name, owner frame.typeId.role),
   (frame.fieldIds.typeName, owner "field id enum")] ++
    (frame.fields.zip frame.fieldIds.enumerators).flatMap fun (field, fieldId) =>
      field.symbols fieldId (Owner.ofElement document [subsystem, frame.name, field.name])

def Protocol.symbols (protocol : Protocol) (subsystemId : Enumerator) : List (String × Owner) :=
  let owner := Owner.ofElement protocol.document [protocol.subsystem]
  [(subsystemId.name, owner subsystemId.role), (protocol.header.guard, owner "header guard"),
   (protocol.instanceOutline.header.guard, owner "instance header guard"),
   (protocol.frameIds.typeName, owner "frame id enum"),
   (protocol.instanceOutline.typeName, owner "instance struct")] ++
    (protocol.dispatch ++ protocol.instanceOutline.prototypes).map (fun p => (p.name, owner p.role)) ++
    (protocol.frames.zip protocol.frameIds.enumerators).flatMap fun (frame, frameId) =>
      frame.symbols frameId protocol.document protocol.subsystem

/-- All symbols of an outline. -/
def symbols (o : Outline) : List (String × Owner) :=
  [(o.common.guard, .output "header guard"), (o.utils.guard, .output "header guard"),
   (o.subsystemIds.typeName, .output "subsystem id enum"),
   (o.subsystemCount.name, .output o.subsystemCount.role)] ++
    (o.protocols.zip o.subsystemIds.enumerators).flatMap fun (protocol, subsystemId) => protocol.symbols subsystemId

/-! ## The loops -/

theorem Field.registerSymbols_eq (field : Field) (fieldId : Enumerator) (owner : String → Owner) :
    field.registerSymbols fieldId owner = registerAll (field.symbols fieldId owner) := by
  rw [Field.registerSymbols, Field.symbols]
  cases field.enumType with
  | none => simp [registerAll_cons, registerAll_map]
  | some e => simp [registerAll_cons, registerAll_append, registerAll_map]

theorem Frame.registerSymbols_eq (frame : Frame) (frameId : Enumerator) (document : Files.Path) (subsystem : String) :
    frame.registerSymbols frameId document subsystem = registerAll (frame.symbols frameId document subsystem) := by
  simp [Frame.registerSymbols, Frame.symbols, registerAll_cons, registerAll_flatMap, Field.registerSymbols_eq]

theorem Protocol.registerSymbols_eq (protocol : Protocol) (subsystemId : Enumerator) :
    protocol.registerSymbols subsystemId = registerAll (protocol.symbols subsystemId) := by
  simp [Protocol.registerSymbols, Protocol.symbols, registerAll_cons, registerAll_append, registerAll_map,
    registerAll_flatMap, Frame.registerSymbols_eq]

/-- The symbols of an outline are registered in the order of the list. -/
theorem registerSymbols_eq (o : Outline) : o.registerSymbols = registerAll o.symbols := by
  simp [registerSymbols, symbols, registerAll_cons, registerAll_flatMap, Protocol.registerSymbols_eq]

theorem symbolTable_eq (o : Outline) : o.symbolTable = ({} : SymbolTable).registerAll o.symbols := by
  rw [symbolTable, registerSymbols_eq]
  rfl

theorem symbolTable_eq_ok {o : Outline} {t : SymbolTable} :
    o.symbolTable = .ok t ↔ (o.symbols.map (·.1)).Nodup ∧ ⟨o.symbols.reverse⟩ = t := by
  rw [symbolTable_eq, SymbolTable.registerAll_eq_ok]
  simp [SymbolTable.names]

end Outline

end StatusFrames
