/-
The enumerators of all headers, as C numbers them. The headers hold the enumerations of the outline and no others, so an
enumerator means its id in the document, its position in the frame, or the number that the layout has for its label.
-/
import StatusFrames.Proofs.Emission.Constants
import StatusFrames.Proofs.Outline.Enumerations

namespace StatusFrames

def Declaration.isEnumeration : Declaration → Bool
  | .enumeration _ _ => true
  | _ => false

namespace Emission

open Declaration (isEnumeration partsOf)

/-! ## Enumerations in headers -/

theorem filter_enumerations (es : List Outline.Enumeration) :
    (es.map enumeration).filter isEnumeration = es.map enumeration :=
  List.filter_eq_self.mpr fun d hd => by
    obtain ⟨e, -, rfl⟩ := List.mem_map.mp hd
    rfl

/-- Declarations of another kind hold no enumeration. -/
theorem filter_others {α : Type} {f : α → Declaration} (h : ∀ x, isEnumeration (f x) = false) (xs : List α) :
    (xs.map f).filter isEnumeration = [] :=
  List.filter_eq_nil_iff.mpr fun d hd => by
    obtain ⟨x, -, rfl⟩ := List.mem_map.mp hd
    simp [h x]

theorem filter_inclusions (header : Outline.Header) : (partsOf (inclusions header)).filter isEnumeration = [] := by
  have system := filter_others (f := (.inclusion · true)) (fun _ => rfl) header.systemIncludes
  have own := filter_others (f := (.inclusion · false)) (fun _ => rfl) header.includes
  rw [partsOf_inclusions, List.filter_append, system, own, List.append_nil]

theorem filter_frameBlocks (frame : Outline.Frame) :
    (partsOf (frameBlocks frame)).filter isEnumeration =
      (frame.fields.filterMap (·.enumType) ++ [frame.fieldIds]).map enumeration := by
  have constants := filter_others (f := constant) (fun _ => rfl) (frame.fields.flatMap (·.constants))
  have prototypes := filter_others (f := prototype) fun _ => rfl
  simp only [partsOf_frameBlocks, List.filter_append, filter_enumerations, constants, prototypes,
    List.append_nil, List.map_append]
  rfl

theorem filter_protocolHeader (protocol : Outline.Protocol) :
    (protocolHeader protocol).parts.filter isEnumeration =
      (protocol.frameIds :: protocol.frames.flatMap fun frame =>
        frame.fields.filterMap (·.enumType) ++ [frame.fieldIds]).map enumeration := by
  simp only [parts_protocolHeader, List.filter_append, filter_inclusions, List.filter_flatMap, filter_frameBlocks,
    List.map_cons, List.map_flatMap]
  rfl

theorem filter_instanceHeader (i : Outline.Instance) : (instanceHeader i).parts.filter isEnumeration = [] := by
  have prototypes := filter_others (f := prototype) (fun _ => rfl) i.prototypes
  simp only [parts_instanceHeader, List.filter_append, filter_inclusions, prototypes]
  rfl

theorem filter_commonHeader (o : Outline) :
    (commonHeader o).parts.filter isEnumeration = [enumeration o.subsystemIds] := by
  simp only [parts_commonHeader, List.filter_append, filter_inclusions]
  rfl

theorem filter_utilsHeader (o : Outline) : (utilsHeader o).parts.filter isEnumeration = [] := by
  have prototypes := filter_others (f := prototype) fun _ => rfl
  have dispatch : (o.protocols.flatMap fun protocol => protocol.dispatch.map prototype).filter isEnumeration = [] := by
    simp [List.filter_flatMap, prototypes]
  simp only [parts_utilsHeader, List.filter_append, filter_inclusions, dispatch]
  rfl

/-- The headers declare the enumerations of the outline, each once and in order, and no others. -/
theorem filter_declarations (o : Outline) :
    (declarations o).filter isEnumeration = o.enumerations.map enumeration := by
  simp only [declarations, headerTrees, List.flatMap_append, List.flatMap_assoc, List.flatMap_cons, List.flatMap_nil,
    List.append_nil, List.filter_append, List.filter_flatMap, filter_protocolHeader, filter_instanceHeader,
    filter_commonHeader, filter_utilsHeader, Outline.enumerations, List.map_append, List.map_flatMap, List.map_cons,
    List.map_nil]

/-! ## Values -/

section

variable {s : Outline.Setting} {protocols : List Layout.Protocol} {table : SymbolTable}
  (htable : (Outline.ofLayouts s protocols).symbolTable = .ok table)
  (hcounted : ∀ e ∈ (Outline.ofLayouts s protocols).enumerations, e.Counted)

include htable hcounted

theorem enumerator?_of_counted {e : Outline.Enumeration} (he : e ∈ (Outline.ofLayouts s protocols).enumerations)
    {v : Outline.Enumerator} (hv : v ∈ e.enumerators) :
    C.enumerator? (declarations (Outline.ofLayouts s protocols)) v.name = some (v.value : Int) := by
  have declared : enumeration e ∈ declarations (Outline.ofLayouts s protocols) := by
    refine List.mem_of_mem_filter (p := isEnumeration) ?_
    rw [filter_declarations]
    exact List.mem_map.mpr ⟨e, he, rfl⟩
  refine C.enumerator?_eq_some (nodup_ownNames htable) declared ?_
  rw [← Outline.enumerators_enumeration, (hcounted e he).numbered]
  exact List.mem_map.mpr ⟨v, hv, rfl⟩

variable {p : Layout.Protocol} (hp : p ∈ protocols)

include hp

theorem enumerator?_subsystemId :
    C.enumerator? (declarations (Outline.ofLayouts s protocols)) (s.naming.subsystemId p.subsystem) =
      some (p.subsystemId.toNat : Int) :=
  enumerator?_of_counted htable hcounted (Outline.subsystemIds_mem _)
    (List.mem_map.mpr ⟨_, List.mem_map.mpr ⟨p, hp, rfl⟩, rfl⟩)

variable {frame : Layout.Frame} (hframe : frame ∈ p.frames)

include hframe

theorem enumerator?_frameId :
    C.enumerator? (declarations (Outline.ofLayouts s protocols)) (s.naming.frameId p.subsystem frame.name) =
      some (frame.id.toNat : Int) :=
  enumerator?_of_counted htable hcounted (Outline.frameIds_mem (List.mem_map.mpr ⟨p, hp, rfl⟩))
    (List.mem_map.mpr ⟨frame, hframe, rfl⟩)

theorem enumerator?_fieldId {n : Nat} {field : Layout.Field} (h : frame.fields[n]? = some field) :
    C.enumerator? (declarations (Outline.ofLayouts s protocols))
      (s.naming.fieldId p.subsystem frame.name field.name) = some (n : Int) := by
  obtain ⟨v, hv, hname, hvalue⟩ := Outline.fieldId_mem s.naming p.subsystem frame.name h
  rw [Nat.zero_add] at hvalue
  rw [← hname, ← hvalue]
  exact enumerator?_of_counted htable hcounted
    (Outline.fieldIds_mem (List.mem_map.mpr ⟨p, hp, rfl⟩) (List.mem_map.mpr ⟨frame, hframe, rfl⟩)) hv

theorem enumerator?_enumLabel {field : Layout.Field} (hfield : field ∈ frame.fields) {v : Layout.EnumValue}
    (hv : v ∈ field.enumValues) :
    C.enumerator? (declarations (Outline.ofLayouts s protocols))
      (s.naming.enumLabel p.subsystem frame.name field.name v.label) = some (v.value.toNat : Int) := by
  obtain ⟨typeName, hkind⟩ := Outline.kind_of_mem_enumValues hv
  exact enumerator?_of_counted htable hcounted
    (Outline.enumType_mem (List.mem_map.mpr ⟨p, hp, rfl⟩) (List.mem_map.mpr ⟨frame, hframe, rfl⟩)
      (List.mem_map.mpr ⟨field, hfield, rfl⟩) (Outline.enumType_ofField s.naming p.subsystem frame.name hkind))
    (List.mem_map.mpr ⟨v, hv, rfl⟩)

end

/-- The headers declare the enumerations of the outline and no others. C counts each of them to the values in the
outline, which differ within one enumeration. So among all declarations the enumerator of a subsystem or frame has the id
that is in its document, that of a field has the position of the field in its frame, and that of a label has the number
in the layout. -/
theorem enumerators_keep_values {c : Compiler} {disk : Files.Disk} {documents : List Document}
    {compilation : Compilation} (hd : ∀ d ∈ documents, d.Accepted) (h : c.compile disk documents = .ok compilation) :
    (declarations (c.outline compilation.protocols)).filter isEnumeration =
        (c.outline compilation.protocols).enumerations.map enumeration ∧
      (∀ e ∈ (c.outline compilation.protocols).enumerations,
        C.enumerators [enumeration e] = e.enumerators.map (fun v => (v.name, v.value)) ∧
          (e.enumerators.map (·.value)).Nodup) ∧
      (∀ d ∈ documents,
        C.enumerator? (declarations (c.outline compilation.protocols)) (c.naming.subsystemId d.subsystem) =
          some (d.subsystemId.toNat : Int) ∧
        ∀ frame ∈ d.protocol.frames,
          C.enumerator? (declarations (c.outline compilation.protocols)) (c.naming.frameId d.subsystem frame.name) =
            some (frame.frameId.toNat : Int)) ∧
      ∀ p ∈ compilation.protocols, ∀ frame ∈ p.frames,
        (∀ (n : Nat) (field : Layout.Field), frame.fields[n]? = some field →
          C.enumerator? (declarations (c.outline compilation.protocols))
            (c.naming.fieldId p.subsystem frame.name field.name) = some (n : Int)) ∧
        ∀ field ∈ frame.fields, ∀ v ∈ field.enumValues,
          C.enumerator? (declarations (c.outline compilation.protocols))
            (c.naming.enumLabel p.subsystem frame.name field.name v.label) = some (v.value.toNat : Int) := by
  obtain ⟨hbuild, -, table, htable, -⟩ := Compiler.compile_eq_ok h
  have built := Compiler.built_of_build hbuild
  have counted := Outline.counted_of_built built hd c.options.includeRoot
  refine ⟨filter_declarations _, fun e he => ⟨(counted e he).numbered, (counted e he).distinct⟩, ?_, ?_⟩
  · intro d hmem
    obtain ⟨p, hp, hplaced⟩ := built.layout hmem
    rw [← hplaced.subsystem, ← hplaced.subsystemId]
    refine ⟨enumerator?_subsystemId htable counted hp, fun frame hframe => ?_⟩
    obtain ⟨placed, hmemPlaced, hframePlaced⟩ := forall₂_mem_left hplaced.frames hframe
    rw [← hframePlaced.name, ← hframePlaced.id]
    exact enumerator?_frameId htable counted hp hmemPlaced
  · intro p hp frame hframe
    exact ⟨fun n field hfield => enumerator?_fieldId htable counted hp hframe hfield,
      fun field hfield v hv => enumerator?_enumLabel htable counted hp hframe hfield hv⟩

/-- The ids of the second sample, and its last label, which is counted on from a value below the ones before it. -/
theorem enumerators_keep_values_samples : ∃ compilation,
    Compiler.ofTrees.compile ⟨.folder [], []⟩ [Document.sample, Document.fan] = .ok compilation ∧
      C.enumerator? (declarations (Compiler.ofTrees.outline compilation.protocols))
        (Compiler.ofTrees.naming.subsystemId "fan") = some 3 ∧
      C.enumerator? (declarations (Compiler.ofTrees.outline compilation.protocols))
        (Compiler.ofTrees.naming.frameId "fan" "state") = some 200 ∧
      C.enumerator? (declarations (Compiler.ofTrees.outline compilation.protocols))
        (Compiler.ofTrees.naming.enumLabel "fan" "state" "phase" "idle") = some 1 := by
  obtain ⟨compilation, h⟩ := samples_compile ⟨.folder [], []⟩
  have haccepted : ∀ d ∈ [Document.sample, Document.fan], d.Accepted := by
    simpa using ⟨Document.sample_accepted, Document.fan_accepted⟩
  have hmem : Document.fan ∈ [Document.sample, Document.fan] := List.mem_cons_of_mem _ (List.mem_singleton_self _)
  obtain ⟨-, -, hids, hlabels⟩ := enumerators_keep_values haccepted h
  obtain ⟨hsubsystem, hframes⟩ := hids Document.fan hmem
  have hframe := hframes _ (List.mem_singleton_self _)
  refine ⟨compilation, h, hsubsystem, hframe, ?_⟩
  have built := Compiler.built_of_build (Compiler.compile_eq_ok h).1
  obtain ⟨p, hp, hname, frame, hframe, hframeName, field, hfield, entry, hplaced⟩ :=
    built.field hmem (List.mem_singleton_self _) (List.mem_singleton_self _)
  obtain ⟨-, numbered⟩ := hplaced.enumeration (Registry.kind_eq_enum hplaced.type)
  have hidle : ("idle", (1 : Int)) ∈ field.enumValues.map fun v => (v.label, (v.value.toNat : Int)) := by
    rw [numbered.numbers]
    decide
  obtain ⟨v, hv, hvalue⟩ := List.mem_map.mp hidle
  obtain ⟨hlabel, hone⟩ := Prod.mk.inj hvalue
  have meant := (hlabels p hp frame hframe).2 field hfield v hv
  rw [hname, hframeName, hplaced.name, hlabel, hone] at meant
  exact meant

end Emission

end StatusFrames
