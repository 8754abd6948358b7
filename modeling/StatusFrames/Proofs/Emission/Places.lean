/-
Where the headers of a compilation go. With trees and with templates alike, also with templates of one's own, every header
has a path of plain names, and no two headers have the same.
-/
import StatusFrames.Emission.Templates
import StatusFrames.Proofs.Emission.Writing

namespace StatusFrames

/-- A path of nothing but names. -/
def Files.Path.Named (p : Files.Path) : Prop := ∃ names : List String, p.components = names.map .name

namespace Artifacts

/-- Headers at different places, each at a path of nothing but names. -/
structure Spread (a : Artifacts) : Prop where
  named : ∀ x ∈ a, x.1.Named
  distinct : (a.map (·.1.components)).Nodup

theorem Spread.insert {a b : Artifacts} {path text : String} (h : a.Spread) (hpath : (Files.Path.mk path).Named)
    (hb : a.insert path text = .ok b) : b.Spread := by
  obtain ⟨hfree, rfl⟩ := insert_eq_ok.mp hb
  have perm : (put ⟨path⟩ text a).Perm _ := put_perm hfree
  refine ⟨fun x hx => ?_, (perm.map _).nodup_iff.mpr (List.nodup_cons.mpr ⟨?_, h.distinct⟩)⟩
  · rcases List.mem_cons.mp (perm.mem_iff.mp hx) with rfl | hx
    · exact hpath
    · exact h.named x hx
  · rw [List.mem_map]
    rintro ⟨e, he, heq⟩
    exact contains_eq_false.mp hfree e he heq

theorem Spread.insertAll {a b : Artifacts} {headers : List (String × String)} (h : a.Spread)
    (hpaths : ∀ header ∈ headers, (Files.Path.mk header.1).Named) (hb : a.insertAll headers = .ok b) : b.Spread := by
  induction headers generalizing a with
  | nil => exact Except.ok.inj hb ▸ h
  | cons header rest ih =>
    obtain ⟨hheader, hrest⟩ := List.forall_mem_cons.mp hpaths
    rw [insertAll_cons] at hb
    obtain ⟨between, hinsert, hmore⟩ := bind_eq_ok.mp hb
    exact ih (h.insert hheader hinsert) hrest hmore

theorem Spread.renderAll {library : Template.Library} {o : Outline} {a b : Artifacts} {jobs : List Emission.Job}
    (h : a.Spread) (hpaths : ∀ job ∈ jobs, (Files.Path.mk job.header.path).Named)
    (hb : Emission.renderAll library o a jobs = .ok b) : b.Spread := by
  induction jobs generalizing a with
  | nil => exact Except.ok.inj hb ▸ h
  | cons job rest ih =>
    obtain ⟨hjob, hrest⟩ := List.forall_mem_cons.mp hpaths
    simp only [Emission.renderAll, bind_eq_ok] at hb
    obtain ⟨text, -, between, hinsert, hmore⟩ := hb
    exact ih (h.insert hjob hinsert) hrest hmore

end Artifacts

namespace Emission

theorem headerTrees_named {s : Outline.Setting} {protocols : List Layout.Protocol}
    (h : ∀ p ∈ protocols, Text.isIdentifier p.subsystem = true) :
    ∀ path ∈ (headerTrees (Outline.ofLayouts s protocols)).map (·.1), (Files.Path.mk path).Named := by
  rintro path hpath
  obtain ⟨tree, htree, rfl⟩ := List.mem_map.mp hpath
  have place := List.mem_map_of_mem (f := fun tree => (Files.Path.mk tree.1).components) htree
  rw [Outline.components_headerTrees h] at place
  rcases List.mem_append.mp place with place | place
  · obtain ⟨p, -, place⟩ := List.mem_flatMap.mp place
    simp only [List.mem_cons, List.not_mem_nil, or_false] at place
    rcases place with place | place
    · exact ⟨["protocols", "subsystems", p.subsystem ++ "_protocol.h"], place⟩
    · exact ⟨["instances", p.subsystem ++ "_instance.h"], place⟩
  · simp only [List.mem_cons, List.not_mem_nil, or_false] at place
    rcases place with place | place
    · exact ⟨["protocols", "protocol_common.h"], place⟩
    · exact ⟨["protocols", "protocol_utils.h"], place⟩

/-- Templates are rendered for the same paths as trees. -/
theorem jobs_paths (o : Outline) : (jobs o).map (·.header.path) = (headerTrees o).map (·.1) := by
  rw [jobs, headerTrees, List.map_append, List.map_append, List.map_flatMap, List.map_flatMap]
  rfl

end Emission

theorem Compiler.artifacts_spread {c : Compiler} {disk : Files.Disk} {documents : List Document}
    {compilation : Compilation} (hd : ∀ d ∈ documents, d.Accepted) (h : c.compile disk documents = .ok compilation) :
    compilation.artifacts.Spread := by
  obtain ⟨hbuild, hemit, -⟩ := compile_eq_ok h
  have named := Emission.headerTrees_named (s := ⟨c.naming, c.options.includeRoot⟩)
    ((built_of_build hbuild).subsystem_isIdentifier hd)
  have start : Artifacts.Spread [] := ⟨nofun, List.nodup_nil⟩
  rw [emit] at hemit
  split at hemit
  · obtain ⟨library, -, hrendered⟩ := bind_eq_ok.mp hemit
    rw [← Emission.jobs_paths] at named
    exact start.renderAll (fun job hjob => named _ (List.mem_map_of_mem hjob)) hrendered
  · refine start.insertAll (List.forall_mem_map.mpr fun tree htree => ?_) hemit
    exact named _ (List.mem_map_of_mem htree)

end StatusFrames
