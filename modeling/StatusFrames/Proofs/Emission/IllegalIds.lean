/-
The type id that the support library keeps for itself. Both bytes of a type id run over all their values, so one pair of
ids packs into the kept value, and nothing refuses it.
-/
import StatusFrames.Proofs.C.Support
import StatusFrames.Proofs.Compiler.Modular
import StatusFrames.Proofs.Document.Single
import StatusFrames.Proofs.Emission.TypeIds

namespace StatusFrames

theorem illegalTypeId?_eq_packed {ids : UInt8 × UInt8} :
    C.Support.illegalTypeId? = some (packedIds ids) ↔ ids = (255, 255) := by
  have top : C.Support.illegalTypeId? = some (packedIds (255, 255)) := C.Support.illegalTypeId?_eq
  rw [top, Option.some_inj, packedIds_injective.eq_iff, eq_comm]

namespace Emission

/-- The macro for the type id of a frame has the value that the support library calls illegal if the ids of the subsystem
and of the frame are both 255, and only then. So all type ids are legal exactly if no frame has these two ids. -/
theorem type_ids_legal_iff {options : CompilerOptions} {c : Compiler} {disk : Files.Disk} {documents : List Document}
    {compilation : Compilation} (hc : Compiler.ofOptions options = .ok c)
    (hw : c.options.emitter = .construct ∨ c.options.templates = none) (hd : ∀ d ∈ documents, d.Accepted)
    (h : c.compile disk documents = .ok compilation) :
    (∀ d ∈ documents, ∀ frame ∈ d.protocol.frames, ∃ (header : Declaration) (typeId : Nat),
      compilation.artifacts.text? ⟨Outline.protocolPath d.subsystem⟩ = some header.text ∧
      .define (c.naming.typeId d.subsystem frame.name)
        ("((uint16_t)((" ++ c.naming.subsystemId d.subsystem ++ " << 8) | " ++
          c.naming.frameId d.subsystem frame.name ++ "))") ∈ header.parts ∧
      C.macroValue? (declarations (c.outline compilation.protocols)) (c.naming.typeId d.subsystem frame.name) =
        some typeId ∧
      (C.Support.illegalTypeId? = some typeId ↔ d.subsystemId = 255 ∧ frame.frameId = 255)) ∧
    ((∀ d ∈ documents, ∀ frame ∈ d.protocol.frames,
        C.macroValue? (declarations (c.outline compilation.protocols)) (c.naming.typeId d.subsystem frame.name) ≠
          C.Support.illegalTypeId?) ↔
      ∀ d ∈ documents, ∀ frame ∈ d.protocol.frames, ¬(d.subsystemId = 255 ∧ frame.frameId = 255)) := by
  obtain ⟨hlead, -, -⟩ := Compiler.ofOptions_eq_ok hc
  have built := Compiler.built_of_build (Compiler.compile_eq_ok h).1
  have illegal : ∀ (d : Document) (frame : Document.Frame),
      C.Support.illegalTypeId? = some (packedIds (d.subsystemId, frame.frameId)) ↔
        d.subsystemId = 255 ∧ frame.frameId = 255 := fun d frame => by
    rw [illegalTypeId?_eq_packed, Prod.mk.injEq]
  constructor
  · intro d hmem frame hframe
    obtain ⟨p, hp, hplaced⟩ := built.layout hmem
    obtain ⟨placed, hmemPlaced, hframePlaced⟩ := forall₂_mem_left hplaced.frames hframe
    obtain ⟨htext, -⟩ := Compiler.text?_of_compile hc hw hd h hp
    have hdefine := typeId_mem (s := ⟨c.naming, c.options.includeRoot⟩) hmemPlaced
    rw [hplaced.subsystem] at htext
    rw [hplaced.subsystem, hframePlaced.name] at hdefine
    exact ⟨_, _, htext, hdefine, macroValue?_typeId hlead hd h hmem hframe, illegal d frame⟩
  · refine forall₂_congr fun d hmem => forall₂_congr fun frame hframe => not_congr ?_
    rw [macroValue?_typeId hlead hd h hmem hframe, eq_comm]
    exact illegal d frame

/-- Two samples without the two ids. -/
theorem type_ids_legal_samples : ∃ compilation,
    Compiler.ofTrees.compile ⟨.folder [], []⟩ [Document.sample, Document.fan] = .ok compilation ∧
      C.macroValue? (declarations (Compiler.ofTrees.outline compilation.protocols))
        (Compiler.ofTrees.naming.typeId "fan" "state") ≠ C.Support.illegalTypeId? := by
  obtain ⟨compilation, h⟩ := samples_compile ⟨.folder [], []⟩
  have haccepted : ∀ d ∈ [Document.sample, Document.fan], d.Accepted := by
    simpa using ⟨Document.sample_accepted, Document.fan_accepted⟩
  have hids : ∀ d ∈ [Document.sample, Document.fan], ∀ frame ∈ d.protocol.frames,
      ¬(d.subsystemId = 255 ∧ frame.frameId = 255) := by decide
  obtain ⟨-, legal⟩ := type_ids_legal_iff Compiler.ofOptions_ofTrees (.inl rfl) haccepted h
  have hmem : Document.fan ∈ [Document.sample, Document.fan] := List.mem_cons_of_mem _ (List.mem_singleton_self _)
  have hfan := legal.mpr hids Document.fan hmem _ (List.mem_singleton_self _)
  exact ⟨compilation, h, hfan⟩

end Emission

/-- A document with the two ids. -/
def Document.topmost : Document.Single := ⟨"tank", 255, "level", 255, "fill"⟩

set_option maxRecDepth 4000 in
theorem Document.topmost_accepted : topmost.document.Accepted :=
  Single.accepted (by decide +kernel) rfl rfl

/-- It is accepted and compiles, and the type id of its frame is the illegal one. -/
theorem Emission.topmost_type_id_illegal : ∃ compilation,
    Document.topmost.document.Accepted ∧
      Compiler.ofTrees.compile ⟨.folder [], []⟩ [Document.topmost.document] = .ok compilation ∧
      C.macroValue? (declarations (Compiler.ofTrees.outline compilation.protocols)) "KSRP_TANK_LEVEL_TYPE_ID" =
        C.Support.illegalTypeId? := by
  have haccepted : ∀ d ∈ [Document.topmost.document], d.Accepted := by simpa using Document.topmost_accepted
  obtain ⟨compilation, h⟩ := compiles_single ⟨.folder [], []⟩ Document.topmost_accepted (by decide +kernel)
  have hname : Compiler.ofTrees.naming.typeId "tank" "level" = "KSRP_TANK_LEVEL_TYPE_ID" := by decide +kernel
  have value := macroValue?_typeId (c := Compiler.ofTrees) (by decide) haccepted h (List.mem_singleton_self _)
    (List.mem_singleton_self _)
  refine ⟨compilation, Document.topmost_accepted, h, ?_⟩
  rw [← hname]
  exact value.trans (illegalTypeId?_eq_packed.mpr rfl).symm

end StatusFrames
