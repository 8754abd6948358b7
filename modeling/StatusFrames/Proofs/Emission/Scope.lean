/-
Names in headers are declared before they are used. Within a frame the order of the blocks does it; what a header needs
besides comes from headers that it includes, and these include each other without a cycle.
-/
import StatusFrames.Proofs.Emission.Names
import StatusFrames.Proofs.Emission.TypeIds
import StatusFrames.Proofs.Outline.Uses

namespace StatusFrames.Emission

open Declaration (Includes Provides Scoped ownNames partsOf scoped_append scoped_flatMap scoped_of_forall)
open Outline

/-! ## Scopes -/

theorem frameType_mem_names {p : Protocol} {f : Frame} (hf : f ∈ p.frames) : f.typeName ∈ (protocolHeader p).names := by
  rw [(protocolHeader_names_perm p).mem_iff]
  refine List.mem_append_right _ (List.mem_flatMap.mpr ⟨f, hf, ?_⟩)
  simp [Frame.names]

theorem frameIdType_mem_names (p : Protocol) : p.frameIds.typeName ∈ (protocolHeader p).names := by
  rw [(protocolHeader_names_perm p).mem_iff]
  simp [Enumeration.names]

section

variable {provides : Declaration → String → Prop} {known : String → Prop}

theorem scoped_inclusions (header : Header) : Scoped provides known (partsOf (inclusions header)) := by
  rw [partsOf_inclusions, scoped_append]
  exact ⟨scoped_of_forall (List.forall_mem_map.mpr fun _ _ => List.forall_mem_nil _),
    scoped_of_forall (List.forall_mem_map.mpr fun _ _ => List.forall_mem_nil _)⟩

theorem scoped_commonHeader (o : Outline) : Scoped provides known (commonHeader o).parts := by
  rw [parts_commonHeader]
  simp only [scoped_append]
  exact ⟨⟨⟨List.forall_mem_nil _, List.forall_mem_nil _, trivial⟩, scoped_inclusions _⟩, List.forall_mem_nil _, trivial⟩

variable (hknown : ∀ name ∈ C.ownWords, known name)

include hknown

theorem scoped_utilsHeader {o : Outline} (hcount : C.names o.subsystemCount.value = [])
    (hdispatch : ∀ p ∈ o.protocols, ∀ x ∈ p.dispatch, (prototype x).uses ⊆ p.frameIds.typeName :: C.ownWords)
    (hincluded : ∀ p ∈ o.protocols, ∃ d ∈ partsOf (inclusions o.utils), provides d p.frameIds.typeName) :
    Scoped provides known (utilsHeader o).parts := by
  rw [parts_utilsHeader]
  simp only [scoped_append]
  refine ⟨⟨⟨⟨List.forall_mem_nil _, List.forall_mem_nil _, trivial⟩, scoped_inclusions _⟩, ?_, trivial⟩, ?_⟩
  · rw [constant, Declaration.uses_define, hcount]
    exact List.forall_mem_nil _
  · refine scoped_flatMap fun p hp => scoped_of_forall (List.forall_mem_map.mpr fun x hx name hname => ?_)
    rcases List.mem_cons.mp (hdispatch p hp x hx hname) with rfl | hname
    · obtain ⟨d, hd, hprovided⟩ := hincluded p hp
      exact .inr ⟨d, List.mem_append_left _ (List.mem_append_right _ hd), hprovided⟩
    · exact .inl (hknown name hname)

variable (hprovides : ∀ d, ∀ name ∈ ownNames d, provides d name)

include hprovides

/-- What a field may use is there once the enumerations of its frame are. -/
theorem known_of_own {fields : List Field} {x : Field} (hx : x ∈ fields) {before : List Declaration}
    (hbefore : (fields.filterMap (·.enumType)).map enumeration ⊆ before) {name : String} (h : x.Own name) :
    known name ∨ ∃ d ∈ before, provides d name := by
  refine h.imp (hknown name) ?_
  rintro ⟨e, he, hname⟩
  refine ⟨enumeration e, hbefore (List.mem_map_of_mem (List.mem_filterMap.mpr ⟨x, hx, he⟩)), hprovides _ _ ?_⟩
  rwa [ownNames_enumeration]

/-- Functions of a field come behind both the enumerations and the struct of its frame. -/
theorem known_of_accessor {f : Frame} {x : Field} (hx : x ∈ f.fields) {before : List Declaration}
    (hbefore : (f.fields.filterMap (·.enumType)).map enumeration ⊆ before)
    (hstruct : ∃ d ∈ before, ownNames d = [f.typeName]) {name : String} (h : x.Own name ∨ name = f.typeName) :
    known name ∨ ∃ d ∈ before, provides d name := by
  rcases h with hown | rfl
  · exact known_of_own hknown hprovides hx hbefore hown
  · obtain ⟨d, hd, hnames⟩ := hstruct
    exact .inr ⟨d, hd, hprovides d _ (hnames ▸ List.mem_singleton_self _)⟩

/-- The struct of a frame, with its size, the check of its size and its ids behind it. -/
theorem scoped_struct {f : Frame} {subsystemId frameId : String} (h : f.SelfContained subsystemId frameId)
    (hsubsystem : known subsystemId) (hframe : known frameId) :
    Scoped provides known
      [.record f.typeName true
        (f.fields.map fun field => .placed field.storageType field.name field.offset field.width),
       constant f.sizeConstant,
       .staticAssert ("sizeof(" ++ f.typeName ++ ") == " ++ f.sizeConstant.name) f.sizeAssert,
       constant f.typeId, enumeration f.fieldIds] := by
  refine ⟨?_, ?_, ?_, ?_, List.forall_mem_nil _, trivial⟩
  · intro name hname
    obtain ⟨m, hm, hname⟩ := List.mem_flatMap.mp hname
    obtain ⟨x, hx, rfl⟩ := List.mem_map.mp hm
    exact hknown name ((h.fields x hx).storage name hname)
  · rw [constant, Declaration.uses_define, h.size]
    exact List.forall_mem_nil _
  · rw [Declaration.uses_staticAssert, h.assertion]
    refine List.forall_mem_cons.mpr ⟨.inl (.inl (hknown _ (by decide))), List.forall_mem_cons.mpr
      ⟨.inl (.inr (hprovides _ _ ?_)), List.forall_mem_singleton.mpr (.inr (hprovides _ _ ?_))⟩⟩
    · exact List.mem_singleton_self _
    · exact List.mem_singleton_self _
  · rw [constant, Declaration.uses_define, h.typeId]
    have ids : ∀ name ∈ ["uint16_t", subsystemId, frameId], known name := List.forall_mem_cons.mpr
      ⟨hknown _ (by decide), List.forall_mem_cons.mpr ⟨hsubsystem, List.forall_mem_singleton.mpr hframe⟩⟩
    exact fun name hname => .inl (.inl (.inl (ids name hname)))

theorem scoped_frameBlocks {f : Frame} {subsystemId frameId : String} (h : f.SelfContained subsystemId frameId)
    (hsubsystem : known subsystemId) (hframe : known frameId) :
    Scoped provides known (partsOf (frameBlocks f)) := by
  rw [partsOf_frameBlocks]
  simp only [scoped_append]
  refine ⟨⟨⟨⟨⟨?_, ?_⟩, ?_⟩, ?_⟩, ?_⟩, ?_⟩
  · exact scoped_of_forall (List.forall_mem_singleton.mpr (List.forall_mem_nil _))
  · exact scoped_of_forall (List.forall_mem_map.mpr fun e _ => List.forall_mem_nil _)
  · refine scoped_of_forall (List.forall_mem_map.mpr fun c hc name hname => ?_)
    obtain ⟨x, hx, hc⟩ := List.mem_flatMap.mp hc
    exact known_of_own hknown hprovides hx (List.subset_append_right _ _) ((h.fields x hx).constants c hc name hname)
  · exact scoped_struct (fun name hname => .inl (hknown name hname)) hprovides h (.inl hsubsystem) (.inl hframe)
  · refine scoped_of_forall (List.forall_mem_map.mpr (List.forall_mem_map.mpr fun x hx name hname => ?_))
    refine known_of_accessor hknown hprovides hx ?_ ⟨_, List.mem_append_right _ List.mem_cons_self, rfl⟩
      ((h.fields x hx).getter name hname)
    exact fun e he => List.mem_append_left _ (List.mem_append_left _ (List.mem_append_right _ he))
  · refine scoped_of_forall (List.forall_mem_map.mpr (List.forall_mem_map.mpr fun x hx name hname => ?_))
    refine known_of_accessor hknown hprovides hx ?_
      ⟨_, List.mem_append_left _ (List.mem_append_right _ List.mem_cons_self), rfl⟩ ((h.fields x hx).setter name hname)
    exact fun e he => List.mem_append_left _
      (List.mem_append_left _ (List.mem_append_left _ (List.mem_append_right _ he)))

theorem scoped_protocolHeader {p : Protocol} {subsystemId : String} (h : p.SelfContained subsystemId)
    (hsubsystem : ∃ d ∈ partsOf (inclusions p.header), provides d subsystemId) :
    Scoped provides known (protocolHeader p).parts := by
  rw [parts_protocolHeader]
  simp only [scoped_append]
  refine ⟨⟨⟨⟨List.forall_mem_nil _, List.forall_mem_nil _, trivial⟩, scoped_inclusions _⟩,
    List.forall_mem_nil _, trivial⟩, scoped_flatMap fun f hf => ?_⟩
  obtain ⟨v, hv, hself⟩ := h.frames f hf
  obtain ⟨d, hd, hprovided⟩ := hsubsystem
  refine scoped_frameBlocks (fun name hname => .inl (hknown name hname)) hprovides hself (.inr ?_) (.inr ?_)
  · exact ⟨d, List.mem_append_left _ (List.mem_append_right _ hd), hprovided⟩
  · refine ⟨enumeration p.frameIds, List.mem_append_right _ (List.mem_singleton_self _), hprovides _ _ ?_⟩
    rw [ownNames_enumeration]
    exact List.mem_cons_of_mem _ (List.mem_map_of_mem hv)

theorem scoped_instanceHeader {p : Protocol} {subsystemId : String} (h : p.SelfContained subsystemId)
    (hincluded : ∀ name ∈ (protocolHeader p).names,
      ∃ d ∈ partsOf (inclusions p.instanceOutline.header), provides d name) :
    Scoped provides known (instanceHeader p.instanceOutline).parts := by
  rw [parts_instanceHeader]
  simp only [scoped_append]
  refine ⟨⟨⟨⟨List.forall_mem_nil _, List.forall_mem_nil _, trivial⟩, scoped_inclusions _⟩, ?_, trivial⟩, ?_⟩
  · intro name hname
    obtain ⟨m, hm, hname⟩ := List.mem_flatMap.mp hname
    rcases List.mem_append.mp hm with hm | hm
    · obtain ⟨held, hheld, rfl⟩ := List.mem_map.mp hm
      obtain ⟨f, hf, rfl⟩ := h.members held hheld name hname
      obtain ⟨d, hd, hprovided⟩ := hincluded f.typeName (frameType_mem_names hf)
      exact .inr ⟨d, List.mem_append_right _ hd, hprovided⟩
    · obtain ⟨m, -, rfl⟩ := List.mem_map.mp hm
      exact .inl (hknown name (h.clock name hname))
  · refine scoped_of_forall (List.forall_mem_map.mpr fun x hx name hname => ?_)
    rcases List.mem_cons.mp (h.prototypes x hx hname) with rfl | hname
    · exact .inr ⟨_, List.mem_append_right _ (List.mem_singleton_self _), hprovides _ _ (List.mem_singleton_self _)⟩
    rcases List.mem_cons.mp hname with rfl | hname
    · obtain ⟨d, hd, hprovided⟩ := hincluded _ (frameIdType_mem_names p)
      exact .inr ⟨d, List.mem_append_left _ (List.mem_append_right _ hd), hprovided⟩
    · exact .inl (hknown name hname)

end

/-! ## Headers that include each other -/

theorem forall_headerTrees {o : Outline} {P : String × Declaration → Prop}
    (hprotocol : ∀ p ∈ o.protocols, P (p.header.path, protocolHeader p))
    (hinstance : ∀ p ∈ o.protocols, P (p.instanceOutline.header.path, instanceHeader p.instanceOutline))
    (hcommon : P (o.common.path, commonHeader o)) (hutils : P (o.utils.path, utilsHeader o)) :
    ∀ header ∈ headerTrees o, P header := by
  refine List.forall_mem_append.mpr ⟨List.forall_mem_flatMap.mpr fun p hp => ?_, ?_⟩
  · exact List.forall_mem_cons.mpr ⟨hprotocol p hp, List.forall_mem_singleton.mpr (hinstance p hp)⟩
  · exact List.forall_mem_cons.mpr ⟨hcommon, List.forall_mem_singleton.mpr hutils⟩

theorem provided_of_include {headers : List (String × Declaration)} {root path : String} {tree : Declaration}
    {header : Header} (h : (path, tree) ∈ headers) (hinclude : root ++ "/" ++ path ∈ header.includes) :
    ∀ name ∈ tree.names, ∃ d ∈ partsOf (inclusions header), Provides headers root d name := by
  intro name hname
  refine ⟨.inclusion (root ++ "/" ++ path) false, ?_, Declaration.provides_inclusion h hname⟩
  rw [partsOf_inclusions]
  exact List.mem_append_right _ (List.mem_map_of_mem hinclude)

/-- A header includes what stands at its top, if no other declaration is an inclusion. -/
theorem mem_includes {path name text : String} {header : Header} {body : List Declaration}
    (hbody : .inclusion path false ∉ partsOf body)
    (h : .inclusion path false ∈ (Declaration.guard name ([.comment text] ++ inclusions header ++ body)).parts) :
    path ∈ header.includes := by
  rw [Declaration.parts_guard, Declaration.partsOf_append, Declaration.partsOf_append, partsOf_inclusions] at h
  simpa [Declaration.parts, hbody] using h

/-- Headers of protocols stand between those that include nothing and those that are not included. -/
def depth (path : String) : Nat :=
  if "protocols/subsystems/".toList <+: path.toList then 1 else if path ∈ commonPath :: supportHeaders then 0 else 2

theorem depth_protocolPath (subsystem : String) : depth (protocolPath subsystem) = 1 := by
  have spelled : (protocolPath subsystem).toList =
      "protocols/subsystems/".toList ++ (subsystem ++ "_protocol.h").toList := by
    rw [← String.toList_append, ← String.append_assoc]
    rfl
  exact if_pos ⟨_, spelled.symm⟩

theorem depth_instancePath (subsystem : String) : depth (instancePath subsystem) = 2 := by
  have first : (instancePath subsystem).toList.head? = some 'i' := by
    rw [instancePath, String.append_assoc, String.toList_append]
    rfl
  have others : ∀ path ∈ commonPath :: supportHeaders, path.toList.head? ≠ some 'i' := by decide
  rw [depth, if_neg, if_neg]
  · exact fun hmem => others _ hmem first
  · rintro ⟨rest, hrest⟩
    rw [← hrest] at first
    exact absurd first (by simp)

theorem depth_common : ∀ path ∈ commonPath :: supportHeaders, depth path = 0 := by decide

theorem depth_utilsPath : depth utilsPath = 2 := by decide

section

variable {s : Setting} {protocols : List Layout.Protocol}

theorem scoped_headerTrees
    (h : ∀ p ∈ protocols, (ofProtocol s p).SelfContained (s.naming.subsystemId p.subsystem)) :
    ∀ header ∈ headerTrees (ofLayouts s protocols),
      Scoped (Provides (headerTrees (ofLayouts s protocols)) s.includeRoot) (· ∈ C.ownWords) header.2.parts := by
  have own : ∀ d, ∀ name ∈ ownNames d, Provides (headerTrees (ofLayouts s protocols)) s.includeRoot d name :=
    fun d name => .inl
  have hcommon : (commonPath, commonHeader (ofLayouts s protocols)) ∈ headerTrees (ofLayouts s protocols) :=
    List.mem_append_right _ List.mem_cons_self
  refine forall_headerTrees (List.forall_mem_map.mpr fun p hp => ?_) (List.forall_mem_map.mpr fun p hp => ?_) ?_ ?_
  · refine scoped_protocolHeader (fun _ => id) own (h p hp) (provided_of_include hcommon ?_ _ ?_)
    · exact List.mem_map_of_mem (List.mem_append_right _ (List.mem_singleton_self _))
    · rw [commonHeader_names]
      refine List.mem_cons_of_mem _ (List.mem_cons_of_mem _ ?_)
      exact List.mem_map.mpr ⟨_, List.mem_map_of_mem (List.mem_map_of_mem hp), rfl⟩
  · refine scoped_instanceHeader (fun _ => id) own (h p hp) (provided_of_include (protocolHeader_mem hp) ?_)
    exact List.mem_map_of_mem (List.mem_append_right _ (List.mem_singleton_self _))
  · exact scoped_commonHeader _
  · refine scoped_utilsHeader (fun _ => id) (C.names_nat _) (List.forall_mem_map.mpr fun p hp => (h p hp).dispatch)
      (List.forall_mem_map.mpr fun p hp => ?_)
    refine provided_of_include (protocolHeader_mem hp) ?_ _ (frameIdType_mem_names _)
    exact List.mem_map_of_mem (List.mem_cons_of_mem _ (List.mem_map_of_mem (List.mem_map_of_mem hp)))

/-- A header includes headers that are less deep, and these are there. -/
theorem included_headerTrees : ∀ header ∈ headerTrees (ofLayouts s protocols), ∀ path,
    .inclusion path false ∈ header.2.parts → ∃ file, path = s.includePath file ∧
      (file ∈ (headerTrees (ofLayouts s protocols)).map (·.1) ∨ file ∈ supportHeaders) ∧
      depth file < depth header.1 := by
  have low : ∀ file ∈ commonPath :: supportHeaders,
      (file ∈ (headerTrees (ofLayouts s protocols)).map (·.1) ∨ file ∈ supportHeaders) ∧ depth file = 0 := by
    intro file hfile
    refine ⟨(List.mem_cons.mp hfile).imp_left ?_, depth_common file hfile⟩
    rintro rfl
    exact List.mem_map_of_mem (List.mem_append_right _ List.mem_cons_self)
  have middle : ∀ p ∈ protocols,
      protocolPath p.subsystem ∈ (headerTrees (ofLayouts s protocols)).map (·.1) ∧
        depth (protocolPath p.subsystem) = 1 :=
    fun p hp => ⟨List.mem_map_of_mem (protocolHeader_mem hp), depth_protocolPath p.subsystem⟩
  refine forall_headerTrees (List.forall_mem_map.mpr fun p hp path h => ?_)
    (List.forall_mem_map.mpr fun p hp path h => ?_) (fun path h => ?_) fun path h => ?_
  · have hpath : path ∈ (supportHeaders ++ [commonPath]).map s.includePath := by
      refine mem_includes ?_ h
      simp [partsOf_frameBlocks, Declaration.partsOf_flatMap, enumeration, constant, prototype, Declaration.parts]
    obtain ⟨file, hfile, rfl⟩ := List.mem_map.mp hpath
    obtain ⟨hthere, hdepth⟩ := low file (by simpa [or_comm] using hfile)
    refine ⟨file, rfl, hthere, ?_⟩
    rw [hdepth, show (ofProtocol s p).header.path = protocolPath p.subsystem from rfl, (middle p hp).2]
    decide
  · have hpath : path ∈ (supportHeaders ++ [protocolPath p.subsystem]).map s.includePath := by
      refine mem_includes ?_ h
      simp [Declaration.partsOf_leaves (f := prototype) fun _ => rfl, prototype, Declaration.parts]
    obtain ⟨file, hfile, rfl⟩ := List.mem_map.mp hpath
    rw [show (ofProtocol s p).instanceOutline.header.path = instancePath p.subsystem from rfl, depth_instancePath]
    rcases List.mem_append.mp hfile with hfile | hfile
    · obtain ⟨hthere, hdepth⟩ := low file (List.mem_cons_of_mem _ hfile)
      exact ⟨file, rfl, hthere, by omega⟩
    · obtain rfl := List.mem_singleton.mp hfile
      obtain ⟨hthere, hdepth⟩ := middle p hp
      exact ⟨_, rfl, .inl hthere, by omega⟩
  · have hpath : path ∈ [] := by
      refine mem_includes ?_ h
      simp [enumeration, Declaration.parts]
    cases hpath
  · have hpath : path ∈ (commonPath :: (protocols.map (ofProtocol s)).map (·.header.path)).map s.includePath := by
      refine mem_includes ?_ h
      have prototypes : ∀ ps : List Prototype, partsOf (ps.map prototype) = ps.map prototype :=
        Declaration.partsOf_leaves fun _ => rfl
      simp [Declaration.partsOf_map, prototypes, constant, prototype, Declaration.parts]
    obtain ⟨file, hfile, rfl⟩ := List.mem_map.mp hpath
    rw [show (ofLayouts s protocols).utils.path = utilsPath from rfl, depth_utilsPath]
    rcases List.mem_cons.mp hfile with rfl | hfile
    · obtain ⟨hthere, hdepth⟩ := low commonPath List.mem_cons_self
      exact ⟨_, rfl, hthere, by omega⟩
    · obtain ⟨q, hq, rfl⟩ := List.mem_map.mp hfile
      obtain ⟨p, hp, rfl⟩ := List.mem_map.mp hq
      obtain ⟨hthere, hdepth⟩ := middle p hp
      exact ⟨_, rfl, .inl hthere, hdepth ▸ by decide⟩

end

theorem depth_lt_of_includes {s : Setting} {protocols : List Layout.Protocol} {path other : String}
    (h : Includes (headerTrees (ofLayouts s protocols)) s.includeRoot path other) : depth other < depth path := by
  obtain ⟨tree, hmem, hinclusion⟩ := h
  obtain ⟨file, hfile, -, hdepth⟩ := included_headerTrees _ hmem _ hinclusion
  obtain rfl : other = file := String.append_right_inj _ |>.mp hfile
  exact hdepth

/-- Whatever a header uses is a word of C's own or was declared before, in the same header or in one that it includes by
way of others. Headers include each other and the two support headers, and never themselves. -/
theorem declared_before_use {options : CompilerOptions} {c : Compiler} {disk : Files.Disk} {documents : List Document}
    {compilation : Compilation} (hc : Compiler.ofOptions options = .ok c) (he : c.options.emitter = .construct)
    (hd : ∀ d ∈ documents, d.Accepted) (h : c.compile disk documents = .ok compilation) :
    compilation.artifacts.Perm
        ((headerTrees (c.outline compilation.protocols)).map fun header => (⟨header.1⟩, header.2.text)) ∧
      (∀ header ∈ headerTrees (c.outline compilation.protocols),
        (∀ before part after, header.2.parts = before ++ part :: after → ∀ name ∈ part.uses,
          name ∈ C.ownWords ∨ ∃ d ∈ before,
            Provides (headerTrees (c.outline compilation.protocols)) c.options.includeRoot d name) ∧
        ∀ path, .inclusion path false ∈ header.2.parts → ∃ file, path = c.options.includeRoot ++ "/" ++ file ∧
          (⟨file⟩ ∈ compilation.artifacts.map (·.1) ∨ file ∈ ["frames.h", "common.h"])) ∧
      ∀ path, ¬Relation.TransGen
        (Includes (headerTrees (c.outline compilation.protocols)) c.options.includeRoot) path path := by
  obtain ⟨hlead, -, -⟩ := Compiler.ofOptions_eq_ok hc
  obtain ⟨hbuild, hemit, -⟩ := Compiler.compile_eq_ok h
  have built := Compiler.built_of_build hbuild
  have written : fromTrees (c.outline compilation.protocols) = .ok compilation.artifacts := by
    simpa [Compiler.emit, he] using hemit
  have same := fromTrees_perm written
  have self : ∀ p ∈ compilation.protocols,
      (ofProtocol ⟨c.naming, c.options.includeRoot⟩ p).SelfContained (c.naming.subsystemId p.subsystem) := by
    intro p hp
    obtain ⟨d, hmem, hplaced⟩ := built.origin hp
    exact selfContained_ofProtocol (s := ⟨c.naming, c.options.includeRoot⟩) hlead (hd d hmem) hplaced
  refine ⟨same, fun header hheader => ⟨fun before part after hparts => ?_, fun path hpath => ?_⟩, fun path => ?_⟩
  · exact (scoped_headerTrees self header hheader).provided hparts
  · obtain ⟨file, hfile, hthere, -⟩ := included_headerTrees header hheader path hpath
    refine ⟨file, hfile, hthere.imp_left fun hmem => ?_⟩
    obtain ⟨tree, htree, rfl⟩ := List.mem_map.mp hmem
    rw [(same.map _).mem_iff, List.map_map]
    exact List.mem_map_of_mem htree
  · exact Declaration.not_transGen_self depth (fun _ _ => depth_lt_of_includes) path

/-- The second sample has a type id, and what stands before it brings in the id of its subsystem. -/
theorem declared_before_use_samples : ∃ compilation header before part after,
    Compiler.ofTrees.compile ⟨.folder [], []⟩ [Document.sample, Document.fan] = .ok compilation ∧
      (protocolPath "fan", header) ∈ headerTrees (Compiler.ofTrees.outline compilation.protocols) ∧
      header.parts = before ++ part :: after ∧ Compiler.ofTrees.naming.typeId "fan" "state" ∈ part.ownNames ∧
      ∃ d ∈ before, Provides (headerTrees (Compiler.ofTrees.outline compilation.protocols))
        Compiler.ofTrees.options.includeRoot d (Compiler.ofTrees.naming.subsystemId "fan") := by
  obtain ⟨compilation, h⟩ := samples_compile ⟨.folder [], []⟩
  have haccepted : ∀ d ∈ [Document.sample, Document.fan], d.Accepted := by
    simpa using ⟨Document.sample_accepted, Document.fan_accepted⟩
  have hmem : Document.fan ∈ [Document.sample, Document.fan] := List.mem_cons_of_mem _ (List.mem_singleton_self _)
  obtain ⟨-, hscoped, -⟩ := declared_before_use Compiler.ofOptions_ofTrees rfl haccepted h
  have built := Compiler.built_of_build (Compiler.compile_eq_ok h).1
  obtain ⟨p, hp, hplaced⟩ := built.layout hmem
  obtain ⟨frame, hframe, hframePlaced⟩ := forall₂_mem_left hplaced.frames (List.mem_singleton_self _)
  have hheader := protocolHeader_mem (s := ⟨Compiler.ofTrees.naming, Compiler.ofTrees.options.includeRoot⟩) hp
  have hdefine := typeId_mem (s := ⟨Compiler.ofTrees.naming, Compiler.ofTrees.options.includeRoot⟩) hframe
  rw [hplaced.subsystem] at hheader
  rw [hplaced.subsystem, hframePlaced.name] at hdefine
  obtain ⟨before, after, hparts⟩ := List.append_of_mem hdefine
  have hused : Compiler.ofTrees.naming.subsystemId "fan" ∈
      C.names ("((uint16_t)((" ++ Compiler.ofTrees.naming.subsystemId "fan" ++ " << 8) | " ++
        Compiler.ofTrees.naming.frameId "fan" "state" ++ "))") := by
    rw [C.names_packed (by decide) (by decide)]
    exact List.mem_cons_of_mem _ List.mem_cons_self
  rcases (hscoped _ hheader).1 before _ after hparts _ hused with hown | hprovided
  · exact absurd hown (by decide)
  · exact ⟨compilation, _, before, _, after, h, hheader, hparts, List.mem_singleton_self _, hprovided⟩

end StatusFrames.Emission
