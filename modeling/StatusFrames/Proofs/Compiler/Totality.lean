/-
Once the symbols of an outline are known not to collide, writing its headers as declaration trees cannot fail: the two
headers of each subsystem and the two common ones all go to different places, even where a file system ignores case. That
last point is not checked anywhere; it holds because the guards of headers are symbols and are in upper case.
-/
import StatusFrames.Proofs.Compiler.Modular
import StatusFrames.Proofs.Naming.Case

namespace StatusFrames

open Text (EqIgnoringCase)

namespace Outline

/-- The paths of the headers for some subsystems, in the order in which they are written. -/
def paths (subsystems : List String) : List String :=
  subsystems.flatMap (fun subsystem => [protocolPath subsystem, instancePath subsystem]) ++ [commonPath, utilsPath]

theorem map_headerTrees_path (s : Setting) (protocols : List Layout.Protocol) :
    (Emission.headerTrees (ofLayouts s protocols)).map (·.1) = paths (protocols.map (·.subsystem)) := by
  simp only [Emission.headerTrees, paths, List.map_append, List.map_flatMap, List.flatMap_map,
    show (ofLayouts s protocols).protocols = protocols.map (ofProtocol s) from rfl]
  rfl

theorem length_paths (subsystems : List String) : (paths subsystems).length = 2 * subsystems.length + 2 := by
  simp [paths, Nat.mul_comm]

/-! ## Ignoring case -/

theorem eqIgnoringCase_protocolPath {subsystem other : String} :
    EqIgnoringCase (protocolPath subsystem) (protocolPath other) ↔ EqIgnoringCase subsystem other := by
  unfold protocolPath
  rw [Text.eqIgnoringCase_append_right, Text.eqIgnoringCase_append_left]

theorem eqIgnoringCase_instancePath {subsystem other : String} :
    EqIgnoringCase (instancePath subsystem) (instancePath other) ↔ EqIgnoringCase subsystem other := by
  unfold instancePath
  rw [Text.eqIgnoringCase_append_right, Text.eqIgnoringCase_append_left]

/-- Headers of different kinds are in different folders, or have a different name at the top of one. -/
theorem kinds_differ (subsystem other : String) :
    ¬EqIgnoringCase (protocolPath subsystem) (instancePath other) ∧
      ¬EqIgnoringCase (protocolPath subsystem) commonPath ∧ ¬EqIgnoringCase (protocolPath subsystem) utilsPath ∧
      ¬EqIgnoringCase (instancePath subsystem) commonPath ∧ ¬EqIgnoringCase (instancePath subsystem) utilsPath ∧
      ¬EqIgnoringCase commonPath utilsPath := by
  unfold protocolPath instancePath
  rw [String.append_assoc, String.append_assoc, String.append_assoc, ← String.append_empty (s := commonPath),
    ← String.append_empty (s := utilsPath)]
  refine ⟨?_, ?_, ?_, ?_, ?_, ?_⟩
  · exact Text.not_eqIgnoringCase_append 0 (by decide) _ _
  · exact Text.not_eqIgnoringCase_append 10 (by decide) _ _
  · exact Text.not_eqIgnoringCase_append 10 (by decide) _ _
  · exact Text.not_eqIgnoringCase_append 0 (by decide) _ _
  · exact Text.not_eqIgnoringCase_append 0 (by decide) _ _
  · exact Text.not_eqIgnoringCase_append 19 (by decide) _ _

/-- Subsystems that differ in more than case have headers whose paths do so. -/
theorem paths_apart {subsystems : List String} (h : subsystems.Pairwise fun a b => ¬EqIgnoringCase a b) :
    (paths subsystems).Pairwise fun a b => ¬EqIgnoringCase a b := by
  refine List.pairwise_append.mpr ⟨List.pairwise_flatMap.mpr ⟨fun subsystem _ => ?_, h.imp ?_⟩, ?_, ?_⟩
  · simpa using (kinds_differ subsystem subsystem).1
  · intro a b hne x hx y hy
    simp only [List.mem_cons, List.not_mem_nil, or_false] at hx hy
    rcases hx with rfl | rfl <;> rcases hy with rfl | rfl
    · exact fun he => hne (eqIgnoringCase_protocolPath.mp he)
    · exact (kinds_differ a b).1
    · exact fun he => (kinds_differ b a).1 he.symm
    · exact fun he => hne (eqIgnoringCase_instancePath.mp he)
  · simpa using (kinds_differ "" "").2.2.2.2.2
  · intro x hx y hy
    obtain ⟨subsystem, -, hx⟩ := List.mem_flatMap.mp hx
    obtain ⟨-, protocolCommon, protocolUtils, instanceCommon, instanceUtils, -⟩ := kinds_differ subsystem subsystem
    simp only [List.mem_cons, List.not_mem_nil, or_false] at hx hy
    rcases hx with rfl | rfl <;> rcases hy with rfl | rfl
    · exact protocolCommon
    · exact protocolUtils
    · exact instanceCommon
    · exact instanceUtils

theorem headerGuard_mem_symbolsOf (s : Setting) (p : Layout.Protocol) :
    s.naming.headerGuard (p.subsystem ++ "_protocol") ∈ (symbolsOf s p).map (·.1) := by
  simp [symbolsOf, Protocol.symbols, ofProtocol]

/-- Subsystems whose guards were registered differ in more than case. -/
theorem subsystems_apart {s : Setting} {protocols : List Layout.Protocol} {table : SymbolTable}
    (htable : (ofLayouts s protocols).symbolTable = .ok table)
    (hid : ∀ p ∈ protocols, Text.isIdentifier p.subsystem = true) :
    (protocols.map (·.subsystem)).Pairwise fun a b => ¬EqIgnoringCase a b := by
  obtain ⟨hnodup, -⟩ := symbolTable_eq_ok.mp htable
  rw [symbols_ofLayouts, List.map_append, List.map_flatMap] at hnodup
  have disjoint := (List.nodup_flatMap.mp (List.nodup_append.mp hnodup).2.1).2
  refine List.pairwise_map.mpr (disjoint.imp_of_mem fun {p q} hp hq hpq he => ?_)
  have named : ∀ p ∈ protocols, ∀ c ∈ (p.subsystem ++ "_protocol").toList, Text.isNameChar c = true := by
    intro p hp c hc
    rcases List.mem_append.mp (String.toList_append ▸ hc) with hc | hc
    · exact Text.isNameChar_of_isIdentifier (hid p hp) c hc
    · exact List.all_eq_true.mp (by decide : "_protocol".toList.all Text.isNameChar = true) c hc
  have upper := Naming.upper_eq_of_eqIgnoringCase (named p hp) (named q hq) (Text.eqIgnoringCase_append_right.mpr he)
  have same : s.naming.headerGuard (p.subsystem ++ "_protocol") = s.naming.headerGuard (q.subsystem ++ "_protocol") := by
    unfold Naming.headerGuard
    rw [upper]
  refine hpq (headerGuard_mem_symbolsOf s p) ?_
  rw [same]
  exact headerGuard_mem_symbolsOf s q

end Outline

namespace Compiler

/-- The subsystems of layouts are those of the documents. -/
theorem Built.subsystems_perm {naming : Naming} {documents : List Document} {protocols : List Layout.Protocol}
    (h : Built naming documents protocols) : (protocols.map (·.subsystem)).Perm (documents.map (·.subsystem)) := by
  rw [forall₂_map_eq h.placed fun _ _ hp => hp.subsystem]
  exact (Document.sort_perm documents).map _

section

variable {c : Compiler} (disk : Files.Disk) {documents : List Document} (he : c.options.emitter = .construct)
  (hd : ∀ d ∈ documents, d.Accepted)

include he hd

theorem compile_of_checked {protocols : List Layout.Protocol} {outline : Outline} {symbols : SymbolTable}
    (hbuild : c.build documents = .ok protocols) (hchecked : c.checkedOutline protocols = .ok (outline, symbols)) :
    ∃ artifacts, Emission.fromTrees outline = .ok artifacts ∧
      c.compile disk documents = .ok ⟨protocols, artifacts, symbols.size⟩ := by
  obtain ⟨rfl, htable⟩ := checkedOutline_eq_ok.mp hchecked
  obtain ⟨artifacts, hwritten⟩ := Emission.fromTrees_ok (built_of_build hbuild) hd c.options.includeRoot
  have hemit : c.emit disk (c.outline protocols) = .ok artifacts := by
    rw [emit, he]
    exact hwritten
  exact ⟨artifacts, hwritten, compile_of_stages hbuild htable hemit⟩

/-- Where the checks fail, the compilation fails alike. -/
theorem compile_eq_error (e : CompileError) :
    c.compile disk documents = .error e ↔ (c.build documents >>= c.checkedOutline) = .error e := by
  cases hbuild : c.build documents with
  | error e' => simp [compile, hbuild]
  | ok protocols =>
    rw [ok_bind]
    cases hchecked : c.checkedOutline protocols with
    | error e' => simp [compile, hbuild, hchecked]
    | ok checked =>
      obtain ⟨outline, symbols⟩ := checked
      obtain ⟨artifacts, -, hcompile⟩ := compile_of_checked disk he hd hbuild hchecked
      simp [hcompile]

end

/-- The headers that were written, by their paths. -/
theorem paths_of_fromTrees {c : Compiler} {documents : List Document} {protocols : List Layout.Protocol}
    {artifacts : Artifacts} (hbuilt : Built c.naming documents protocols)
    (h : Emission.fromTrees (c.outline protocols) = .ok artifacts) :
    (artifacts.map (·.1.text)).Perm (Outline.paths (protocols.map (·.subsystem))) ∧
      (artifacts.map (·.1.text)).Perm (Outline.paths (documents.map (·.subsystem))) := by
  have written : (artifacts.map (·.1.text)).Perm (Outline.paths (protocols.map (·.subsystem))) := by
    have headers := (Emission.fromTrees_perm h).map (·.1.text)
    rw [List.map_map] at headers
    rwa [← Outline.map_headerTrees_path ⟨c.naming, c.options.includeRoot⟩]
  refine ⟨written, written.trans ?_⟩
  exact (hbuilt.subsystems_perm.flatMap_right _).append_right _

/-- Declaration trees are written without failure once the symbols are checked. So a compilation fails exactly where the
checks alone do, with their error, and otherwise there are two headers for each document and two more, at paths that
differ in more than the case of letters. -/
theorem emission_total {c : Compiler} (disk : Files.Disk) {documents : List Document}
    (he : c.options.emitter = .construct) (hd : ∀ d ∈ documents, d.Accepted) :
    (∀ e, c.compile disk documents = .error e ↔ (c.build documents >>= c.checkedOutline) = .error e) ∧
    ∀ protocols outline symbols, c.build documents = .ok protocols →
      c.checkedOutline protocols = .ok (outline, symbols) →
      ∃ artifacts, Emission.fromTrees outline = .ok artifacts ∧
        c.compile disk documents = .ok ⟨protocols, artifacts, symbols.size⟩ ∧
        artifacts.length = 2 * documents.length + 2 ∧
        (artifacts.map (·.1.text)).Perm (Outline.paths (documents.map (·.subsystem))) ∧
        artifacts.Pairwise fun a b => ¬EqIgnoringCase a.1.text b.1.text := by
  refine ⟨compile_eq_error disk he hd, fun protocols outline symbols hbuild hchecked => ?_⟩
  obtain ⟨artifacts, hwritten, hcompile⟩ := compile_of_checked disk he hd hbuild hchecked
  obtain ⟨rfl, htable⟩ := checkedOutline_eq_ok.mp hchecked
  have built := built_of_build hbuild
  obtain ⟨hlayouts, hdocuments⟩ := paths_of_fromTrees built hwritten
  refine ⟨artifacts, hwritten, hcompile, ?_, hdocuments, ?_⟩
  · have := hdocuments.length_eq
    rwa [List.length_map, Outline.length_paths, List.length_map] at this
  · have apart := Outline.paths_apart (Outline.subsystems_apart htable (built.subsystem_isIdentifier hd))
    exact List.pairwise_map.mp (hlayouts.symm.pairwise apart fun hne he => hne he.symm)

/-- The two samples give six headers. -/
theorem emission_total_samples : ∃ compilation,
    ofTrees.compile ⟨.folder [], []⟩ [Document.sample, Document.fan] = .ok compilation ∧
      compilation.artifacts.length = 6 ∧
      compilation.artifacts.Pairwise fun a b => ¬EqIgnoringCase a.1.text b.1.text := by
  obtain ⟨protocols, outline, symbols, hbuild, hchecked⟩ := samples_checked
  have haccepted : ∀ d ∈ [Document.sample, Document.fan], d.Accepted := by
    simpa using ⟨Document.sample_accepted, Document.fan_accepted⟩
  -- the emitter plays no part in what comes before it
  obtain ⟨artifacts, -, hcompile, hlength, -, hapart⟩ :=
    (emission_total (c := ofTrees) ⟨.folder [], []⟩ rfl haccepted).2 protocols outline symbols hbuild hchecked
  exact ⟨_, hcompile, hlength, hapart⟩

end Compiler

end StatusFrames
