/-
Names that C accepts. Main statement: all symbols and all struct members are identifiers, and no struct has two members
of one name.
-/
import StatusFrames.Proofs.Emission.Agreement
import StatusFrames.Proofs.Emission.Scope
import StatusFrames.Proofs.Emission.Structs
import StatusFrames.Proofs.Outline.Identifiers

namespace StatusFrames

open Text (isIdentifier)

/-- Names of which each is fit for C and stands for one member only. -/
structure MemberNames (names : List String) : Prop where
  identifiers : ∀ name ∈ names, isIdentifier name = true
  nodup : names.Nodup

/-! ## The struct of a frame -/

namespace Document.Frame

/-- The members of the struct of a frame: the device id, where devices are told apart, and the fields. -/
def memberNames (multiDevice : Bool) (f : Frame) : List String :=
  (if multiDevice then [deviceIdName] else []) ++ f.fields.map (·.name)

theorem WellFormed.memberNames {multiDevice : Bool} {f : Frame} (h : f.WellFormed multiDevice) :
    MemberNames (f.memberNames multiDevice) := by
  have hfields : ∀ name ∈ f.fields.map (·.name), isIdentifier name = true :=
    List.forall_mem_map.mpr fun x hx => (h.fields x hx).name
  cases hmulti : multiDevice with
  | false => exact ⟨hfields, h.distinctFields⟩
  | true =>
    have hfree : deviceIdName ∉ f.fields.map (·.name) := by
      intro hmem
      obtain ⟨x, hx, hname⟩ := List.mem_map.mp hmem
      exact (h.fields x hx).notReserved hmulti hname
    exact ⟨List.forall_mem_cons.mpr ⟨by decide, hfields⟩, List.nodup_cons.mpr ⟨hfree, h.distinctFields⟩⟩

end Document.Frame

section

variable {naming : Naming} {protocol : Document.Protocol} {declared : Document.Frame} {f : Layout.Frame}
  (h : f.Placed naming protocol declared)

include h

theorem Layout.Frame.Placed.map_name : f.fields.map (·.name) = declared.memberNames protocol.multiDevice := by
  obtain ⟨placed, hfields, hmatch⟩ := h.fields
  have hnames : placed.map (·.name) = declared.fields.map (·.name) := by
    refine forall₂_map_eq hmatch fun d x hx => ?_
    obtain ⟨entry, hx⟩ := hx
    exact hx.name
  rw [hfields, List.map_append, hnames, Document.Frame.memberNames]
  cases protocol.multiDevice <;> rfl

theorem Layout.Frame.Placed.map_member :
    (f.fields.map (·.member)).map (·.name) = declared.memberNames protocol.multiDevice := by
  rw [List.map_map, ← h.map_name]
  rfl

end

/-! ## The struct of an instance -/

namespace Document.Protocol

/-- The members of the struct of an instance: the latest frame of each kind, and the time since it came. -/
def memberNames (p : Protocol) : List String :=
  p.frames.map (·.name ++ "_instance") ++ p.frames.map (·.name ++ "_ms_since_last_update")

/-- The last letters tell the two kinds of members apart. -/
theorem instance_ne_clock (a b : String) : a ++ "_instance" ≠ b ++ "_ms_since_last_update" := by
  intro h
  have hlast := congrArg (fun s : String => s.toList.reverse.take 2) h
  simp at hlast

theorem WellFormed.memberNames {p : Protocol} (h : p.WellFormed) : MemberNames p.memberNames := by
  have letters : ∀ suffix : String, suffix.toList.all Text.isNameChar = true →
      ∀ name ∈ p.frames.map (·.name ++ suffix), isIdentifier name = true := fun suffix hsuffix =>
    List.forall_mem_map.mpr fun f hf => Text.isIdentifier_append (h.frames f hf).name hsuffix
  have distinct : ∀ suffix : String, (p.frames.map (·.name ++ suffix)).Nodup := by
    intro suffix
    have hmap : p.frames.map (·.name ++ suffix) = (p.frames.map (·.name)).map (· ++ suffix) := by
      rw [List.map_map]
      rfl
    rw [hmap]
    exact h.distinctFrames.map fun a b hab => String.append_left_inj _ |>.mp hab
  refine ⟨List.forall_mem_append.mpr ⟨letters _ (by decide), letters _ (by decide)⟩, ?_⟩
  refine List.nodup_append.mpr ⟨distinct _, distinct _, ?_⟩
  intro a ha b hb
  obtain ⟨f, -, rfl⟩ := List.mem_map.mp ha
  obtain ⟨g, -, rfl⟩ := List.mem_map.mp hb
  exact instance_ne_clock f.name g.name

end Document.Protocol

theorem Layout.Protocol.Placed.map_frames {naming : Naming} {d : Document} {p : Layout.Protocol} (h : p.Placed naming d)
    (suffix : String) : p.frames.map (·.name ++ suffix) = d.protocol.frames.map (·.name ++ suffix) :=
  forall₂_map_eq h.frames fun _ _ hf => by rw [hf.name]

/-! ## Structs in headers -/

namespace Emission

variable {typeName : String} {packed : Bool} {members : List Member}

theorem record_mem_protocolHeader {s : Outline.Setting} {p : Layout.Protocol} :
    .record typeName packed members ∈ (protocolHeader (Outline.ofProtocol s p)).parts ↔
      ∃ f ∈ p.frames, typeName = s.naming.frameType p.subsystem f.name ∧ packed = true ∧
        members = f.fields.map (·.member) := by
  rw [parts_protocolHeader, partsOf_inclusions]
  simp [protocolHeader, enumeration, Outline.ofProtocol, Layout.record_mem_frameBlocks]

theorem record_mem_instanceHeader {i : Outline.Instance} :
    .record typeName packed members ∈ (instanceHeader i).parts ↔
      typeName = i.typeName ∧ packed = false ∧
        members = i.members.map (fun m => .plain m.frameType m.frameMember) ++
          i.members.map fun m => .plain i.clockType m.clockMember := by
  rw [parts_instanceHeader, partsOf_inclusions]
  simp [instanceHeader, prototype]

theorem record_not_mem_commonHeader {o : Outline} : .record typeName packed members ∉ (commonHeader o).parts := by
  rw [parts_commonHeader, partsOf_inclusions]
  simp [commonHeader, enumeration]

theorem record_not_mem_utilsHeader {o : Outline} : .record typeName packed members ∉ (utilsHeader o).parts := by
  rw [parts_utilsHeader, partsOf_inclusions]
  simp [utilsHeader, constant, prototype]

/-- The members of the struct of an instance, in the order in which they are written. -/
theorem map_members_ofInstance {s : Outline.Setting} {d : Document} {p : Layout.Protocol} (h : p.Placed s.naming d) :
    ((Outline.ofInstance s p).members.map (fun m => Member.plain m.frameType m.frameMember) ++
      (Outline.ofInstance s p).members.map fun m => Member.plain (Outline.ofInstance s p).clockType m.clockMember).map
        (·.name) = d.protocol.memberNames := by
  rw [Document.Protocol.memberNames, ← h.map_frames, ← h.map_frames]
  simp [Outline.ofInstance, Member.plain, Function.comp_def]

theorem memberNames_headerTrees {s : Outline.Setting} {protocols : List Layout.Protocol}
    (h : ∀ p ∈ protocols, ∃ d : Document, d.Accepted ∧ p.Placed s.naming d) :
    ∀ header ∈ headerTrees (Outline.ofLayouts s protocols), ∀ typeName packed members,
      .record typeName packed members ∈ header.2.parts → MemberNames (members.map (·.name)) := by
  refine forall_headerTrees (List.forall_mem_map.mpr fun p hp => ?_) (List.forall_mem_map.mpr fun p hp => ?_) ?_ ?_
  · intro typeName packed members hmem
    obtain ⟨d, hd, hplaced⟩ := h p hp
    obtain ⟨f, hf, -, -, rfl⟩ := record_mem_protocolHeader.mp hmem
    obtain ⟨declared, hdeclared, hframe⟩ := forall₂_mem_right hplaced.frames hf
    rw [hframe.map_member]
    exact (hd.wellFormed.frames declared hdeclared).memberNames
  · intro typeName packed members hmem
    obtain ⟨d, hd, hplaced⟩ := h p hp
    obtain ⟨-, -, rfl⟩ := record_mem_instanceHeader.mp hmem
    have hnames := map_members_ofInstance hplaced
    exact hnames ▸ hd.wellFormed.memberNames
  · exact fun typeName packed members hmem => absurd hmem record_not_mem_commonHeader
  · exact fun typeName packed members hmem => absurd hmem record_not_mem_utilsHeader

/-- All registered symbols are identifiers, and so are the members of every struct in the headers, of which no struct has
two with one name. There is a struct for every frame, with the device id and the fields, and one for every instance, with
two members for each frame; they stand in the headers of their subsystem, whichever emitter wrote them (only templates of
the user's own may write anything else). -/
theorem names_fit_C {options : CompilerOptions} {c : Compiler} {disk : Files.Disk} {documents : List Document}
    {compilation : Compilation} (hc : Compiler.ofOptions options = .ok c) (hd : ∀ d ∈ documents, d.Accepted)
    (h : c.compile disk documents = .ok compilation) :
    (∃ table, (c.outline compilation.protocols).symbolTable = .ok table ∧ compilation.symbols = table.size ∧
      ∀ name ∈ table.names, isIdentifier name = true) ∧
    (∀ header ∈ headerTrees (c.outline compilation.protocols), ∀ typeName packed members,
      .record typeName packed members ∈ header.2.parts →
        (∀ m ∈ members, isIdentifier m.name = true) ∧ (members.map (·.name)).Nodup) ∧
    ∀ d ∈ documents, ∃ header instanceHeader,
      (Outline.protocolPath d.subsystem, header) ∈ headerTrees (c.outline compilation.protocols) ∧
      (Outline.instancePath d.subsystem, instanceHeader) ∈ headerTrees (c.outline compilation.protocols) ∧
      (c.options.emitter = .construct ∨ c.options.templates = none →
        compilation.artifacts.text? ⟨Outline.protocolPath d.subsystem⟩ = some header.text ∧
        compilation.artifacts.text? ⟨Outline.instancePath d.subsystem⟩ = some instanceHeader.text) ∧
      (∀ frame ∈ d.protocol.frames, ∃ members,
        .record (c.naming.frameType d.subsystem frame.name) true members ∈ header.parts ∧
        members.map (·.name) =
          (if d.protocol.multiDevice then ["device_id"] else []) ++ frame.fields.map (·.name)) ∧
      ∃ members, .record (c.naming.instanceType d.subsystem) false members ∈ instanceHeader.parts ∧
        members.map (·.name) = d.protocol.frames.map (·.name ++ "_instance") ++
          d.protocol.frames.map (·.name ++ "_ms_since_last_update") := by
  obtain ⟨hlead, -, -⟩ := Compiler.ofOptions_eq_ok hc
  obtain ⟨hbuild, hemit, table, htable, hsize⟩ := Compiler.compile_eq_ok h
  have built := Compiler.built_of_build hbuild
  have origin : ∀ p ∈ compilation.protocols, ∃ d : Document, d.Accepted ∧ p.Placed c.naming d := by
    intro p hp
    obtain ⟨d, hmem, hplaced⟩ := built.origin hp
    exact ⟨d, hd d hmem, hplaced⟩
  refine ⟨⟨table, htable, hsize, fun name hname => ?_⟩, fun header hheader typeName packed members hmem => ?_,
    fun d hmem => ?_⟩
  · obtain ⟨-, rfl⟩ := Outline.symbolTable_eq_ok.mp htable
    refine Outline.names_isIdentifier (s := ⟨c.naming, c.options.includeRoot⟩) hlead origin name
      ((Outline.map_symbols_perm _ _).mem_iff.mp ?_)
    simpa [SymbolTable.names, Compiler.outline] using hname
  · have names := memberNames_headerTrees origin header hheader typeName packed members hmem
    exact ⟨List.forall_mem_map.mp names.identifiers, names.nodup⟩
  · obtain ⟨p, hp, hplaced⟩ := built.layout hmem
    have hprotocol := protocolHeader_mem (s := ⟨c.naming, c.options.includeRoot⟩) hp
    have hinstance := instanceHeader_mem (s := ⟨c.naming, c.options.includeRoot⟩) hp
    rw [← hplaced.subsystem]
    refine ⟨_, _, hprotocol, hinstance, fun hw => ?_, fun frame hframe => ?_, ?_⟩
    · have written := fromTrees_of_emit hc hw (List.ne_nil_of_mem hmem) hd built hemit
      exact ⟨text?_of_fromTrees built hd written hprotocol, text?_of_fromTrees built hd written hinstance⟩
    · obtain ⟨f, hf, hframePlaced⟩ := forall₂_mem_left hplaced.frames hframe
      refine ⟨_, record_mem_protocolHeader.mpr ⟨f, hf, ?_, rfl, rfl⟩, hframePlaced.map_member⟩
      rw [hframePlaced.name]
    · exact ⟨_, record_mem_instanceHeader.mpr ⟨rfl, rfl, rfl⟩, map_members_ofInstance hplaced⟩

/-- The struct of the sample's frame starts with the device id, and the struct of its instance holds that frame. -/
theorem names_fit_C_samples : ∃ (compilation : Compilation) (header instanceHeader : Declaration)
    (members others : List Member),
    Compiler.ofTrees.compile ⟨.folder [], []⟩ [Document.sample, Document.fan] = .ok compilation ∧
      compilation.artifacts.text? ⟨Outline.protocolPath "psu"⟩ = some header.text ∧
      compilation.artifacts.text? ⟨Outline.instancePath "psu"⟩ = some instanceHeader.text ∧
      .record (Compiler.ofTrees.naming.frameType "psu" "limits") true members ∈ header.parts ∧
      members.map (·.name) = ["device_id", "mode", "level"] ∧
      .record (Compiler.ofTrees.naming.instanceType "psu") false others ∈ instanceHeader.parts ∧
      others.map (·.name) = ["limits_instance", "limits_ms_since_last_update"] ∧
      (∀ m ∈ members ++ others, isIdentifier m.name = true) := by
  obtain ⟨compilation, h⟩ := samples_compile ⟨.folder [], []⟩
  have haccepted : ∀ d ∈ [Document.sample, Document.fan], d.Accepted := by
    simpa using ⟨Document.sample_accepted, Document.fan_accepted⟩
  obtain ⟨-, hmembers, hstructs⟩ := names_fit_C Compiler.ofOptions_ofTrees haccepted h
  obtain ⟨header, instanceHeader, hheader, hinstance, htexts, hframes, others, hothers, hotherNames⟩ :=
    hstructs Document.sample List.mem_cons_self
  obtain ⟨members, hrecord, hnames⟩ := hframes _ (List.mem_singleton_self _)
  obtain ⟨htext, hinstanceText⟩ := htexts (.inl rfl)
  refine ⟨compilation, header, instanceHeader, members, others, h, htext, hinstanceText, hrecord, hnames, hothers,
    hotherNames, List.forall_mem_append.mpr ⟨?_, ?_⟩⟩
  · exact (hmembers _ hheader _ _ _ hrecord).1
  · exact (hmembers _ hinstance _ _ _ hothers).1

end Emission

end StatusFrames
