/-
What stands in each header, as a flat list of declarations.
-/
import StatusFrames.Emission.Tree
import StatusFrames.Proofs.Declaration.Parts

namespace StatusFrames.Emission

open Declaration Outline

theorem partsOf_frameBlocks (frame : Frame) :
    partsOf (frameBlocks frame) =
      [.comment ("Frame '" ++ frame.name ++ "' (id " ++ toString frame.id ++ ")")] ++
        (frame.fields.filterMap (·.enumType)).map enumeration ++
        (frame.fields.flatMap (·.constants)).map constant ++
        [.record frame.typeName true
          (frame.fields.map fun field => .placed field.storageType field.name field.offset field.width),
         constant frame.sizeConstant,
         .staticAssert ("sizeof(" ++ frame.typeName ++ ") == " ++ frame.sizeConstant.name) frame.sizeAssert,
         constant frame.typeId, enumeration frame.fieldIds] ++
        (frame.fields.map (·.getter)).map prototype ++ (frame.fields.map (·.setter)).map prototype := by
  have enumerations := partsOf_leaves (f := enumeration) (fun _ => rfl) (frame.fields.filterMap (·.enumType))
  have constants := partsOf_leaves (f := constant) (fun _ => rfl) (frame.fields.flatMap (·.constants))
  have getters := partsOf_leaves (f := fun field : Field => prototype field.getter) (fun _ => rfl) frame.fields
  have setters := partsOf_leaves (f := fun field : Field => prototype field.setter) (fun _ => rfl) frame.fields
  simp only [frameBlocks, partsOf_append, partsOf_cons, partsOf_nil, parts_lines, enumerations, constants, getters,
    setters, List.map_map]
  simp [parts, constant, enumeration, Function.comp_def]

theorem partsOf_inclusions (header : Header) :
    partsOf (inclusions header) =
      header.systemIncludes.map (.inclusion · true) ++ header.includes.map (.inclusion · false) := by
  have system := partsOf_leaves (f := (.inclusion · true)) (fun _ => rfl) header.systemIncludes
  have own := partsOf_leaves (f := (.inclusion · false)) (fun _ => rfl) header.includes
  simp only [inclusions, partsOf_cons, partsOf_nil, parts_lines, system, own, List.append_nil]

theorem parts_protocolHeader (protocol : Protocol) :
    (protocolHeader protocol).parts =
      [protocolHeader protocol, .comment (banner (some protocol.source))] ++ partsOf (inclusions protocol.header) ++
        [enumeration protocol.frameIds] ++ protocol.frames.flatMap fun frame => partsOf (frameBlocks frame) := by
  rw [← partsOf_flatMap]
  simp only [protocolHeader, parts_guard, partsOf_append, partsOf_cons, partsOf_nil, parts_titled]
  rfl

theorem frameBlocks_subset {protocol : Protocol} {frame : Frame} (h : frame ∈ protocol.frames) :
    partsOf (frameBlocks frame) ⊆ (protocolHeader protocol).parts := by
  intro declaration hmem
  rw [parts_protocolHeader]
  exact List.mem_append_right _ (List.mem_flatMap.mpr ⟨frame, h, hmem⟩)

theorem parts_instanceHeader (i : Instance) :
    (instanceHeader i).parts =
      [instanceHeader i, .comment (banner none)] ++ partsOf (inclusions i.header) ++
        [.record i.typeName false
          (i.members.map (fun m => .plain m.frameType m.frameMember) ++
            i.members.map fun m => .plain i.clockType m.clockMember)] ++
        i.prototypes.map prototype := by
  have prototypes := partsOf_leaves (f := prototype) (fun _ => rfl) i.prototypes
  simp only [instanceHeader, parts_guard, partsOf_append, partsOf_cons, partsOf_nil, parts_lines, prototypes]
  simp [parts]

theorem parts_commonHeader (o : Outline) :
    (commonHeader o).parts =
      [commonHeader o, .comment (banner none)] ++ partsOf (inclusions o.common) ++ [enumeration o.subsystemIds] := by
  simp only [commonHeader, parts_guard, partsOf_append, partsOf_cons, partsOf_nil, parts_titled]
  rfl

theorem parts_utilsHeader (o : Outline) :
    (utilsHeader o).parts =
      [utilsHeader o, .comment (banner none)] ++ partsOf (inclusions o.utils) ++ [constant o.subsystemCount] ++
        o.protocols.flatMap fun protocol => protocol.dispatch.map prototype := by
  have prototypes : ∀ ps : List Prototype, partsOf (ps.map prototype) = ps.map prototype := partsOf_leaves fun _ => rfl
  simp only [utilsHeader, parts_guard, partsOf_append, partsOf_cons, partsOf_nil, partsOf_map, parts_lines]
  simp only [← partsOf_map, prototypes]
  rfl

end StatusFrames.Emission
