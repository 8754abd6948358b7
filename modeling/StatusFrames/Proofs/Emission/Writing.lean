/-
Writing declaration trees: no two headers go to one place, so all of them are written, and nothing else is.
-/
import StatusFrames.Proofs.Artifacts.Insertion
import StatusFrames.Proofs.Compiler.Built
import StatusFrames.Proofs.Outline.Paths

namespace StatusFrames

namespace Emission

theorem fromTrees_perm {o : Outline} {artifacts : Artifacts} (h : fromTrees o = .ok artifacts) :
    artifacts.Perm ((headerTrees o).map fun header => (⟨header.1⟩, header.2.text)) := by
  have := Artifacts.insertAll_perm h
  simpa [Artifacts.atPaths, Function.comp_def] using this

theorem fromTrees_ok {naming : Naming} {documents : List Document} {protocols : List Layout.Protocol}
    (hb : Compiler.Built naming documents protocols) (hd : ∀ d ∈ documents, d.Accepted) (includeRoot : String) :
    ∃ artifacts, fromTrees (Outline.ofLayouts ⟨naming, includeRoot⟩ protocols) = .ok artifacts := by
  refine Artifacts.insertAll_ok ?_ fun h _ => rfl
  rw [List.map_map]
  exact Outline.headerTrees_distinct (hb.subsystem_isIdentifier hd) hb.distinctSubsystems

section

variable {s : Outline.Setting} {protocols : List Layout.Protocol} {p : Layout.Protocol} (hp : p ∈ protocols)

include hp

theorem protocolHeader_mem :
    (Outline.protocolPath p.subsystem, protocolHeader (Outline.ofProtocol s p)) ∈
      headerTrees (Outline.ofLayouts s protocols) := by
  refine List.mem_append_left _ (List.mem_flatMap.mpr ⟨Outline.ofProtocol s p, List.mem_map.mpr ⟨p, hp, rfl⟩, ?_⟩)
  exact List.mem_cons_self

theorem instanceHeader_mem :
    (Outline.instancePath p.subsystem, instanceHeader (Outline.ofInstance s p)) ∈
      headerTrees (Outline.ofLayouts s protocols) := by
  refine List.mem_append_left _ (List.mem_flatMap.mpr ⟨Outline.ofProtocol s p, List.mem_map.mpr ⟨p, hp, rfl⟩, ?_⟩)
  exact List.mem_cons_of_mem _ List.mem_cons_self

end

/-- A header that was written is found at its path. -/
theorem text?_of_fromTrees {naming : Naming} {documents : List Document} {protocols : List Layout.Protocol}
    (hb : Compiler.Built naming documents protocols) (hd : ∀ d ∈ documents, d.Accepted) {includeRoot : String}
    {artifacts : Artifacts} (h : fromTrees (Outline.ofLayouts ⟨naming, includeRoot⟩ protocols) = .ok artifacts)
    {path : String} {tree : Declaration}
    (hmem : (path, tree) ∈ headerTrees (Outline.ofLayouts ⟨naming, includeRoot⟩ protocols)) :
    artifacts.text? ⟨path⟩ = some tree.text := by
  refine Artifacts.text?_of_insertAll h ?_ (List.mem_map.mpr ⟨_, hmem, rfl⟩)
  rw [List.map_map]
  exact Outline.headerTrees_distinct (hb.subsystem_isIdentifier hd) hb.distinctSubsystems

end Emission

/-- The compiler for the default options, but writing declaration trees. -/
def Compiler.ofTrees : Compiler := ⟨{}, { emitter := .construct }⟩

theorem Compiler.ofOptions_ofTrees : ofOptions { emitter := .construct } = .ok ofTrees := rfl

/-- Documents whose names do not collide are compiled. -/
theorem compiles_of_checked (disk : Files.Disk) {documents : List Document} (hd : ∀ d ∈ documents, d.Accepted)
    (h : ∃ protocols outline symbols, Compiler.ofDefaults.build documents = .ok protocols ∧
      Compiler.ofDefaults.checkedOutline protocols = .ok (outline, symbols)) :
    ∃ compilation, Compiler.ofTrees.compile disk documents = .ok compilation := by
  obtain ⟨protocols, outline, symbols, hb, hs⟩ := h
  obtain ⟨rfl, htable⟩ := Compiler.checkedOutline_eq_ok.mp hs
  obtain ⟨artifacts, ha⟩ := Emission.fromTrees_ok (Compiler.built_of_build hb) hd Outline.defaultIncludeRoot
  -- the emitter plays no part in what comes before it
  exact ⟨_, Compiler.compile_of_stages (c := Compiler.ofTrees) hb htable ha⟩

/-- One document whose names do not collide is compiled. -/
theorem compiles_single (disk : Files.Disk) {d : Document} (hd : d.Accepted)
    (h : ((do return [← Layout.ofDocument {} d]) >>= Compiler.ofDefaults.checkedOutline).isOk = true) :
    ∃ compilation, Compiler.ofTrees.compile disk [d] = .ok compilation := by
  refine compiles_of_checked disk (List.forall_mem_singleton.mpr hd) (Compiler.checked_of_isOk ?_)
  rwa [Compiler.build_singleton]

theorem sample_compiles (disk : Files.Disk) :
    ∃ compilation, Compiler.ofTrees.compile disk [Document.sample] = .ok compilation :=
  compiles_of_checked disk (by simpa using Document.sample_accepted) Compiler.sample_checked

theorem samples_compile (disk : Files.Disk) :
    ∃ compilation, Compiler.ofTrees.compile disk [Document.sample, Document.fan] = .ok compilation :=
  compiles_of_checked disk (by simpa using ⟨Document.sample_accepted, Document.fan_accepted⟩) Compiler.samples_checked

end StatusFrames
