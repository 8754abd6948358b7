/-
Every name that the headers declare was registered, and is declared once. Headers and the list of symbols visit an
outline in different orders; both are compared with the names of the outline by kind.
-/
import StatusFrames.Proofs.Emission.Contents
import StatusFrames.Proofs.Emission.Writing
import StatusFrames.Proofs.Outline.Registered

namespace StatusFrames.Emission

open Declaration (ownNames partsOf)
open Outline

/-- The global names that the headers of an outline declare, header by header. -/
def declaredNames (o : Outline) : List String := (headerTrees o).flatMap fun header => header.2.names

/-! ## Names of each kind of declaration -/

theorem ownNames_enumeration (e : Enumeration) : ownNames (enumeration e) = e.names := by
  simp [ownNames, enumeration, Enumeration.names]

theorem ownNames_constant (c : Constant) : ownNames (constant c) = [c.name] := rfl

theorem ownNames_comment (text : String) : ownNames (.comment text) = [] := rfl

theorem ownNames_record (name : String) (packed : Bool) (members : List Member) :
    ownNames (.record name packed members) = [name] := rfl

theorem ownNames_staticAssert (condition message : String) : ownNames (.staticAssert condition message) = [] := rfl

theorem flatMap_ownNames_enumerations (es : List Enumeration) :
    (es.map enumeration).flatMap ownNames = es.flatMap (·.names) := by
  simp only [List.flatMap_map, ownNames_enumeration]

theorem flatMap_ownNames_constants (cs : List Constant) : (cs.map constant).flatMap ownNames = cs.map (·.name) := by
  rw [List.flatMap_map, List.map_eq_flatMap]
  rfl

theorem flatMap_ownNames_prototypes (ps : List Prototype) : (ps.map prototype).flatMap ownNames = ps.map (·.name) := by
  rw [List.flatMap_map, List.map_eq_flatMap]
  rfl

theorem flatMap_ownNames_inclusions (header : Header) : (partsOf (inclusions header)).flatMap ownNames = [] := by
  simp [partsOf_inclusions, List.flatMap_map, ownNames]

/-! ## Names of each header -/

theorem flatMap_names_perm (fields : List Field) :
    (fields.flatMap (·.names)).Perm
      ((fields.filterMap (·.enumType)).flatMap (·.names) ++ (fields.flatMap (·.constants)).map (·.name) ++
        (fields.map (·.getter)).map (·.name) ++ (fields.map (·.setter)).map (·.name)) := by
  induction fields with
  | nil => exact .nil
  | cons f rest ih =>
    rw [List.perm_iff_count] at ih ⊢
    intro name
    have := ih name
    cases h : f.enumType <;>
      simp only [List.flatMap_cons, List.map_cons, List.map_append, Field.names, h, List.filterMap_cons, Option.toList,
        List.flatMap_nil, List.count_append, List.count_cons, List.count_nil] at this ⊢ <;> omega

theorem frameBlocks_names_perm (frame : Frame) : ((partsOf (frameBlocks frame)).flatMap ownNames).Perm frame.names := by
  have fields := List.perm_iff_count.mp (flatMap_names_perm frame.fields)
  rw [List.perm_iff_count]
  intro name
  have := fields name
  simp only [partsOf_frameBlocks, List.flatMap_append, List.flatMap_cons, List.flatMap_nil,
    flatMap_ownNames_enumerations, flatMap_ownNames_constants, flatMap_ownNames_prototypes, ownNames_enumeration,
    ownNames_constant, ownNames_comment, ownNames_record, ownNames_staticAssert, Frame.names, Enumeration.names,
    List.count_append, List.count_cons, List.count_nil] at this ⊢
  omega

theorem protocolHeader_names_perm (p : Protocol) :
    (protocolHeader p).names.Perm (p.header.guard :: p.frameIds.names ++ p.frames.flatMap (·.names)) := by
  have frames : (p.frames.flatMap fun frame => (partsOf (frameBlocks frame)).flatMap ownNames).Perm
      (p.frames.flatMap (·.names)) := .flatMap_left _ fun frame _ => frameBlocks_names_perm frame
  have guard : ownNames (protocolHeader p) = [p.header.guard] := rfl
  simp only [Declaration.names, parts_protocolHeader, List.flatMap_append, List.flatMap_cons, List.flatMap_nil,
    List.flatMap_assoc, guard, ownNames_comment, flatMap_ownNames_inclusions, ownNames_enumeration, List.append_nil,
    List.nil_append, List.cons_append]
  exact (frames.append_left _).cons _

theorem instanceHeader_names (i : Instance) :
    (instanceHeader i).names = i.header.guard :: i.typeName :: i.prototypes.map (·.name) := by
  have guard : ownNames (instanceHeader i) = [i.header.guard] := rfl
  simp only [Declaration.names, parts_instanceHeader, List.flatMap_append, List.flatMap_cons, List.flatMap_nil, guard,
    ownNames_comment, ownNames_record, flatMap_ownNames_inclusions, flatMap_ownNames_prototypes, List.append_nil,
    List.nil_append, List.cons_append]

theorem commonHeader_names (o : Outline) : (commonHeader o).names = o.common.guard :: o.subsystemIds.names := by
  have guard : ownNames (commonHeader o) = [o.common.guard] := rfl
  simp only [Declaration.names, parts_commonHeader, List.flatMap_append, List.flatMap_cons, List.flatMap_nil, guard,
    ownNames_comment, flatMap_ownNames_inclusions, ownNames_enumeration, List.append_nil,
    List.nil_append, List.cons_append]

theorem utilsHeader_names (o : Outline) :
    (utilsHeader o).names =
      o.utils.guard :: o.subsystemCount.name :: o.protocols.flatMap fun p => p.dispatch.map (·.name) := by
  have guard : ownNames (utilsHeader o) = [o.utils.guard] := rfl
  simp only [Declaration.names, parts_utilsHeader, List.flatMap_append, List.flatMap_cons, List.flatMap_nil, guard,
    ownNames_comment, ownNames_constant, flatMap_ownNames_inclusions, List.flatMap_assoc, flatMap_ownNames_prototypes,
    List.append_nil, List.nil_append, List.cons_append]

/-- The headers declare the names of the outline. -/
theorem declaredNames_perm (o : Outline) : (declaredNames o).Perm o.names := by
  have protocols : (o.protocols.flatMap (·.names)).Perm
      (o.protocols.flatMap (fun p => (protocolHeader p).names ++ (instanceHeader p.instanceOutline).names) ++
        o.protocols.flatMap fun p => p.dispatch.map (·.name)) := by
    refine .trans (.flatMap_left _ fun p _ => ?_) (List.flatMap_append_perm _ _ _).symm
    have header := List.perm_iff_count.mp (protocolHeader_names_perm p)
    rw [List.perm_iff_count]
    intro name
    have := header name
    simp only [instanceHeader_names, Protocol.names, Enumeration.names, List.map_append, List.count_append,
      List.count_cons, List.count_nil] at this ⊢
    omega
  rw [List.perm_iff_count] at protocols ⊢
  intro name
  have := protocols name
  simp only [declaredNames, headerTrees, Outline.names, List.flatMap_append, List.flatMap_assoc, List.flatMap_cons,
    List.flatMap_nil, commonHeader_names, utilsHeader_names, Enumeration.names, List.count_append, List.count_cons,
    List.count_nil, List.append_nil] at this ⊢
  omega

/-! ## Registration -/

/-- The table of symbols of an outline holds what its headers declare, and nothing twice. -/
theorem declaredNames_registered {s : Setting} {protocols : List Layout.Protocol} {table : SymbolTable}
    (h : (ofLayouts s protocols).symbolTable = .ok table) :
    (declaredNames (ofLayouts s protocols)).Perm ((ofLayouts s protocols).symbols.map (·.1)) ∧
      (declaredNames (ofLayouts s protocols)).Nodup ∧ table.size = (declaredNames (ofLayouts s protocols)).length := by
  obtain ⟨hnodup, rfl⟩ := symbolTable_eq_ok.mp h
  have same : (declaredNames (ofLayouts s protocols)).Perm ((ofLayouts s protocols).symbols.map (·.1)) :=
    (declaredNames_perm _).trans (Outline.map_symbols_perm s protocols).symm
  refine ⟨same, same.nodup_iff.mpr hnodup, ?_⟩
  rw [same.length_eq, List.length_map]
  simp [SymbolTable.size]

/-- The headers of a compilation declare exactly the symbols that were registered, each of them once. -/
theorem declared_once {c : Compiler} {disk : Files.Disk} {documents : List Document} {compilation : Compilation}
    (he : c.options.emitter = .construct) (h : c.compile disk documents = .ok compilation) :
    compilation.artifacts.Perm
        ((headerTrees (c.outline compilation.protocols)).map fun header => (⟨header.1⟩, header.2.text)) ∧
      (declaredNames (c.outline compilation.protocols)).Perm
        ((c.outline compilation.protocols).symbols.map (·.1)) ∧
      (declaredNames (c.outline compilation.protocols)).Nodup ∧
      compilation.symbols = (declaredNames (c.outline compilation.protocols)).length := by
  obtain ⟨-, hemit, table, htable, hsize⟩ := Compiler.compile_eq_ok h
  have written : fromTrees (c.outline compilation.protocols) = .ok compilation.artifacts := by
    simpa [Compiler.emit, he] using hemit
  obtain ⟨same, hnodup, hlength⟩ := declaredNames_registered htable
  exact ⟨fromTrees_perm written, same, hnodup, hsize.trans hlength⟩

theorem declared_once_sample : ∃ compilation,
    Compiler.ofTrees.compile ⟨.folder [], []⟩ [Document.sample] = .ok compilation ∧
      (declaredNames (Compiler.ofTrees.outline compilation.protocols)).Nodup ∧
      compilation.symbols = (declaredNames (Compiler.ofTrees.outline compilation.protocols)).length := by
  obtain ⟨compilation, h⟩ := sample_compiles ⟨.folder [], []⟩
  obtain ⟨-, -, hnodup, hlength⟩ := declared_once rfl h
  exact ⟨compilation, h, hnodup, hlength⟩

end StatusFrames.Emission
