/-
Compilations forget the order of their documents. Everything behind the sorting sees the sorted list only, so two orders
of the same documents give the same layouts, the same headers, or the same error at the same place.
-/
import StatusFrames.Proofs.Emission.Writing

namespace StatusFrames.Compiler

theorem build_eq_of_perm (c : Compiler) {documents others : List Document} (hperm : documents.Perm others)
    (hapart : Document.Apart documents) : c.build documents = c.build others := by
  rw [build, build, Document.sort_eq_of_perm hperm hapart]

/-- Documents that can be told apart are built, outlined and compiled alike in every order, also where that fails, and
layouts always stand in the strict order of their subsystems. Files at different places are loaded in every order or in
none, and always as the same list of documents. -/
theorem compile_forgets_order (c : Compiler) (disk : Files.Disk) {documents others : List Document}
    (hperm : documents.Perm others) (hapart : Document.Apart documents) :
    c.build documents = c.build others ∧
      (∀ protocols, c.build documents = .ok protocols → protocols.Pairwise fun p q => p.subsystem < q.subsystem) ∧
      (c.build documents >>= c.checkedOutline) = (c.build others >>= c.checkedOutline) ∧
      c.compile disk documents = c.compile disk others ∧
      ∀ paths otherPaths : List Files.Path, paths.Perm otherPaths →
        (paths.Pairwise fun p q => p.components ≠ q.components) →
          ∀ loaded, Document.ofFiles disk paths = .ok loaded ↔ Document.ofFiles disk otherPaths = .ok loaded := by
  have built := c.build_eq_of_perm hperm hapart
  refine ⟨built, fun protocols h => (built_of_build h).increasing, ?_, ?_, ?_⟩
  · rw [built]
  · rw [compile, compile, built]
  · intro paths otherPaths hpaths hplaces loaded
    have hotherPlaces : otherPaths.Pairwise fun p q => p.components ≠ q.components :=
      hpaths.pairwise hplaces fun hne => hne.symm
    exact ⟨Document.ofFiles_of_perm hpaths hplaces, Document.ofFiles_of_perm hpaths.symm hotherPlaces⟩

/-- The two samples, given in both orders. -/
theorem compile_forgets_order_samples : Document.Apart [Document.sample, Document.fan] ∧ ∃ compilation,
    ofTrees.compile ⟨.folder [], []⟩ [Document.sample, Document.fan] = .ok compilation ∧
      ofTrees.compile ⟨.folder [], []⟩ [Document.fan, Document.sample] = .ok compilation ∧
      compilation.protocols.Pairwise fun p q => p.subsystem < q.subsystem := by
  have hapart : Document.Apart [Document.sample, Document.fan] := by decide +kernel
  obtain ⟨compilation, h⟩ := samples_compile ⟨.folder [], []⟩
  obtain ⟨-, hincreasing, -, hsame, -⟩ := compile_forgets_order ofTrees ⟨.folder [], []⟩
    (.swap Document.fan Document.sample []) hapart
  exact ⟨hapart, compilation, h, hsame ▸ h, hincreasing _ (compile_eq_ok h).1⟩

end StatusFrames.Compiler
