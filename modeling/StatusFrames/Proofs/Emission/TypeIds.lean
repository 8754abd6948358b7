/-
The type id of a frame packs the ids of its subsystem and its own into sixteen bits. The macro for it is an expression
over two enumerators; with the values that C gives them, type ids tell all frames of a compilation apart, and both ids
can be read off them.
-/
import StatusFrames.Proofs.C.Expression
import StatusFrames.Proofs.Emission.Enumerators
import StatusFrames.Proofs.Naming.Symbols

namespace StatusFrames

namespace Document

/-- The ids by which the frames of all documents are told apart. -/
def idPairs (documents : List Document) : List (UInt8 × UInt8) :=
  documents.flatMap fun d => d.protocol.frames.map fun frame => (d.subsystemId, frame.frameId)

theorem nodup_idPairs {documents : List Document} (hids : (documents.map (·.subsystemId)).Nodup)
    (hframes : ∀ d ∈ documents, (d.protocol.frames.map (·.frameId)).Nodup) : (idPairs documents).Nodup := by
  refine List.nodup_flatMap.mpr ⟨fun d hd => ?_, (List.pairwise_map.mp hids).imp fun {a b} hne => ?_⟩
  · refine List.Nodup.of_map Prod.snd ?_
    rw [List.map_map]
    exact hframes d hd
  · intro pair ha hb
    obtain ⟨_, -, rfl⟩ := List.mem_map.mp ha
    obtain ⟨_, -, same⟩ := List.mem_map.mp hb
    exact hne (Prod.mk.inj same).1.symm

end Document

/-- The ids of a subsystem and a frame in one number. -/
def packedIds (ids : UInt8 × UInt8) : Nat := ids.1.toNat * 0x100 + ids.2.toNat

theorem packedIds_shiftRight (ids : UInt8 × UInt8) : packedIds ids >>> 8 = ids.1.toNat := by
  have := ids.2.toNat_lt
  rw [packedIds, Nat.shiftRight_eq_div_pow]
  omega

theorem packedIds_and (ids : UInt8 × UInt8) : packedIds ids &&& 0xFF = ids.2.toNat := by
  have low : packedIds ids &&& 0xFF = packedIds ids % 0x100 := Nat.and_two_pow_sub_one_eq_mod _ 8
  have := ids.2.toNat_lt
  rw [low, packedIds]
  omega

theorem packedIds_injective : Function.Injective packedIds := by
  rintro ⟨a, b⟩ ⟨a', b'⟩ same
  have high := congrArg (· >>> 8) same
  have low := congrArg (· &&& 0xFF) same
  simp only [packedIds_shiftRight, packedIds_and] at high low
  rw [UInt8.toNat_inj.mp high, UInt8.toNat_inj.mp low]

namespace Emission

open Declaration (partsOf)

theorem typeId_mem {s : Outline.Setting} {p : Layout.Protocol} {frame : Layout.Frame} (hframe : frame ∈ p.frames) :
    .define (s.naming.typeId p.subsystem frame.name)
        ("((uint16_t)((" ++ s.naming.subsystemId p.subsystem ++ " << 8) | " ++
          s.naming.frameId p.subsystem frame.name ++ "))") ∈
      (protocolHeader (Outline.ofProtocol s p)).parts := by
  refine frameBlocks_subset (List.mem_map.mpr ⟨frame, hframe, rfl⟩) ?_
  have hconstant : constant (Outline.ofFrame s.naming p.subsystem frame).typeId ∈
      partsOf (frameBlocks (Outline.ofFrame s.naming p.subsystem frame)) := by
    rw [partsOf_frameBlocks]
    simp only [List.mem_append, List.mem_cons, true_or, or_true]
  exact hconstant

section

variable {c : Compiler} {disk : Files.Disk} {documents : List Document} {compilation : Compilation}
  (hlead : Text.isIdentifier c.naming.lead = true) (hd : ∀ d ∈ documents, d.Accepted)
  (h : c.compile disk documents = .ok compilation)

include hlead hd h

/-- C reads the macro of a frame as the ids of its document. -/
theorem macroValue?_typeId {d : Document} (hmem : d ∈ documents) {frame : Document.Frame}
    (hframe : frame ∈ d.protocol.frames) :
    C.macroValue? (declarations (c.outline compilation.protocols)) (c.naming.typeId d.subsystem frame.name) =
      some (packedIds (d.subsystemId, frame.frameId)) := by
  obtain ⟨hbuild, -, table, htable, -⟩ := Compiler.compile_eq_ok h
  have built := Compiler.built_of_build hbuild
  have counted := Outline.counted_of_built built hd c.options.includeRoot
  have wellFormed := (hd d hmem).wellFormed
  obtain ⟨p, hp, hplaced⟩ := built.layout hmem
  obtain ⟨placed, hmemPlaced, hframePlaced⟩ := forall₂_mem_left hplaced.frames hframe
  have hsubsystem : Text.isIdentifier p.subsystem = true := hplaced.subsystem ▸ wellFormed.subsystem
  have hname : Text.isIdentifier placed.name = true := hframePlaced.name ▸ (wellFormed.frames frame hframe).name
  have defined := C.replacement?_eq_some (nodup_ownNames htable)
    (mem_declarations hp (typeId_mem (s := ⟨c.naming, c.options.includeRoot⟩) hmemPlaced))
  have value := C.expression?_packed (Naming.subsystemId_isIdentifier hlead hsubsystem)
    (Naming.frameId_isIdentifier hlead hsubsystem hname) p.subsystemId.toNat_lt placed.id.toNat_lt
    (enumerator?_subsystemId htable counted hp) (enumerator?_frameId htable counted hp hmemPlaced)
  rw [← hplaced.subsystem, ← hplaced.subsystemId, ← hframePlaced.name, ← hframePlaced.id, C.macroValue?,
    Compiler.outline, defined, Option.bind_some, value, packedIds]

end

/-- Every frame of an accepted document has a macro for its type id in the header of its subsystem. Its value, with the
enumerators of all headers at hand, has the id of the subsystem above that of the frame, and no two frames of a
compilation have the same. -/
theorem type_ids_identify_frames {options : CompilerOptions} {c : Compiler} {disk : Files.Disk}
    {documents : List Document} {compilation : Compilation} (hc : Compiler.ofOptions options = .ok c)
    (hw : c.options.emitter = .construct ∨ c.options.templates = none) (hd : ∀ d ∈ documents, d.Accepted)
    (h : c.compile disk documents = .ok compilation) :
    (∀ d ∈ documents, ∀ frame ∈ d.protocol.frames, ∃ (header : Declaration) (typeId : Nat),
      (Outline.protocolPath d.subsystem, header) ∈ headerTrees (c.outline compilation.protocols) ∧
      (⟨Outline.protocolPath d.subsystem⟩, header.text) ∈ compilation.artifacts ∧
      .define (c.naming.typeId d.subsystem frame.name)
        ("((uint16_t)((" ++ c.naming.subsystemId d.subsystem ++ " << 8) | " ++
          c.naming.frameId d.subsystem frame.name ++ "))") ∈ header.parts ∧
      C.macroValue? (declarations (c.outline compilation.protocols)) (c.naming.typeId d.subsystem frame.name) =
        some typeId ∧
      typeId < 0x10000 ∧ typeId >>> 8 = d.subsystemId.toNat ∧ typeId &&& 0xFF = frame.frameId.toNat) ∧
    (documents.flatMap fun d => d.protocol.frames.map fun frame =>
      C.macroValue? (declarations (c.outline compilation.protocols))
        (c.naming.typeId d.subsystem frame.name)).Nodup := by
  obtain ⟨hlead, -, -⟩ := Compiler.ofOptions_eq_ok hc
  obtain ⟨hbuild, hemit, -⟩ := Compiler.compile_eq_ok h
  have built := Compiler.built_of_build hbuild
  constructor
  · intro d hmem frame hframe
    obtain ⟨p, hp, hplaced⟩ := built.layout hmem
    obtain ⟨placed, hmemPlaced, hframePlaced⟩ := forall₂_mem_left hplaced.frames hframe
    have written := fromTrees_of_emit hc hw (List.ne_nil_of_mem hmem) hd built hemit
    have hheader := protocolHeader_mem (s := ⟨c.naming, c.options.includeRoot⟩) hp
    have hdefine := typeId_mem (s := ⟨c.naming, c.options.includeRoot⟩) hmemPlaced
    have hartifact := (fromTrees_perm written).mem_iff.mpr (List.mem_map.mpr ⟨_, hheader, rfl⟩)
    rw [hplaced.subsystem, hframePlaced.name] at hdefine
    rw [hplaced.subsystem] at hheader hartifact
    refine ⟨_, _, hheader, hartifact, hdefine, macroValue?_typeId hlead hd h hmem hframe, ?_, packedIds_shiftRight _,
      packedIds_and _⟩
    have := d.subsystemId.toNat_lt
    have := frame.frameId.toNat_lt
    simp only [packedIds]
    omega
  · have values : (documents.flatMap fun d => d.protocol.frames.map fun frame =>
        C.macroValue? (declarations (c.outline compilation.protocols)) (c.naming.typeId d.subsystem frame.name)) =
          (Document.idPairs documents).map (some ∘ packedIds) := by
      rw [Document.idPairs, List.map_flatMap]
      refine List.flatMap_congr fun d hmem => ?_
      rw [List.map_map]
      exact List.map_congr_left fun frame hframe => macroValue?_typeId hlead hd h hmem hframe
    have hids : (documents.map (·.subsystemId)).Nodup := by
      have sorted := (Document.checkUnique_eq_ok.mp (Compiler.build_eq_ok.mp hbuild).1).2
      exact ((Document.sort_perm documents).map _).nodup_iff.mp sorted
    rw [values]
    exact (Document.nodup_idPairs hids fun d hmem => (hd d hmem).wellFormed.distinctIds).map
      ((Option.some_injective _).comp packedIds_injective)

/-- The frame of the second sample, whose subsystem has the id 3 and which has the id 200 itself. -/
theorem type_ids_identify_frames_samples : ∃ compilation,
    Compiler.ofTrees.compile ⟨.folder [], []⟩ [Document.sample, Document.fan] = .ok compilation ∧
      C.macroValue? (declarations (Compiler.ofTrees.outline compilation.protocols))
        (Compiler.ofTrees.naming.typeId "fan" "state") = some 968 ∧
      C.macroValue? (declarations (Compiler.ofTrees.outline compilation.protocols))
        (Compiler.ofTrees.naming.typeId "psu" "limits") ≠ some 968 := by
  obtain ⟨compilation, h⟩ := samples_compile ⟨.folder [], []⟩
  have haccepted : ∀ d ∈ [Document.sample, Document.fan], d.Accepted := by
    simpa using ⟨Document.sample_accepted, Document.fan_accepted⟩
  have hmem : Document.fan ∈ [Document.sample, Document.fan] := List.mem_cons_of_mem _ (List.mem_singleton_self _)
  obtain ⟨hids, hapart⟩ := type_ids_identify_frames Compiler.ofOptions_ofTrees (.inl rfl) haccepted h
  obtain ⟨-, typeId, -, -, -, hvalue, -, hhigh, hlow⟩ := hids Document.fan hmem _ (List.mem_singleton_self _)
  have low : typeId &&& 0xFF = typeId % 0x100 := Nat.and_two_pow_sub_one_eq_mod _ 8
  have hhigh : typeId >>> 8 = 3 := hhigh
  have hlow : typeId &&& 0xFF = 200 := hlow
  rw [Nat.shiftRight_eq_div_pow] at hhigh
  rw [low] at hlow
  obtain rfl : typeId = 968 := by omega
  refine ⟨compilation, h, hvalue, fun same => ?_⟩
  exact (List.nodup_cons.mp hapart).1 (List.mem_singleton.mpr (same.trans hvalue.symm))

end Emission

end StatusFrames
