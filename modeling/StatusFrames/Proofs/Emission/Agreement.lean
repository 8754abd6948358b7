/-
The two ways to write headers agree: built-in templates and declaration trees give the same files with the same text.
-/
import StatusFrames.Proofs.Emission.Rendering
import StatusFrames.Proofs.Emission.Writing
import StatusFrames.Proofs.Outline.Regular

namespace StatusFrames.Emission

/-- With the built-in templates it makes no difference which way headers are written. -/
theorem emit_eq_fromTrees {options : CompilerOptions} {c : Compiler} {documents : List Document}
    {protocols : List Layout.Protocol} (disk : Files.Disk) (hc : Compiler.ofOptions options = .ok c)
    (hw : c.options.emitter = .construct ∨ c.options.templates = none ∧ documents ≠ [])
    (hd : ∀ d ∈ documents, d.Accepted) (hb : Compiler.Built c.naming documents protocols) :
    c.emit disk (c.outline protocols) = fromTrees (c.outline protocols) := by
  unfold Compiler.emit
  split
  next htemplate =>
    obtain ⟨hnone, hne⟩ := hw.resolve_left (by simp [htemplate])
    obtain ⟨hlead, -, -⟩ := Compiler.ofOptions_eq_ok hc
    have regular : (c.outline protocols).Regular := Outline.regular_ofLayouts hlead hne hd hb
    rw [hnone, fromTemplates_eq_fromTrees disk regular]
  next => rfl

theorem fromTrees_of_emit {options : CompilerOptions} {c : Compiler} {documents : List Document}
    {protocols : List Layout.Protocol} {disk : Files.Disk} {artifacts : Artifacts}
    (hc : Compiler.ofOptions options = .ok c)
    (hw : c.options.emitter = .construct ∨ c.options.templates = none) (hne : documents ≠ [])
    (hd : ∀ d ∈ documents, d.Accepted) (hb : Compiler.Built c.naming documents protocols)
    (he : c.emit disk (c.outline protocols) = .ok artifacts) : fromTrees (c.outline protocols) = .ok artifacts := by
  rwa [emit_eq_fromTrees disk hc (hw.imp_right fun h => ⟨h, hne⟩) hd hb] at he

/-- For accepted documents whose names do not collide, both ways to write headers succeed, with the same artifacts. -/
theorem writers_agree {options : CompilerOptions} {c : Compiler} {documents : List Document}
    {protocols : List Layout.Protocol} {outline : Outline} {symbols : SymbolTable} (disk : Files.Disk)
    (hc : Compiler.ofOptions options = .ok c) (hne : documents ≠ []) (hd : ∀ d ∈ documents, d.Accepted)
    (hb : c.build documents = .ok protocols) (hs : c.checkedOutline protocols = .ok (outline, symbols)) :
    ∃ artifacts, fromTemplates disk none outline = .ok artifacts ∧ fromTrees outline = .ok artifacts := by
  obtain ⟨hlead, -, -⟩ := Compiler.ofOptions_eq_ok hc
  obtain ⟨rfl, -⟩ := Compiler.checkedOutline_eq_ok.mp hs
  have built := Compiler.built_of_build hb
  have regular : (c.outline protocols).Regular := Outline.regular_ofLayouts hlead hne hd built
  obtain ⟨artifacts, written⟩ := fromTrees_ok built hd c.options.includeRoot
  exact ⟨artifacts, (fromTemplates_eq_fromTrees disk regular).trans written, written⟩

theorem writers_agree_sample : ∃ protocols outline symbols artifacts,
    Compiler.ofDefaults.build [Document.sample] = .ok protocols ∧
      Compiler.ofDefaults.checkedOutline protocols = .ok (outline, symbols) ∧
      fromTemplates ⟨.folder [], []⟩ none outline = .ok artifacts ∧ fromTrees outline = .ok artifacts := by
  obtain ⟨protocols, outline, symbols, hb, hs⟩ := Compiler.sample_checked
  obtain ⟨artifacts, same⟩ := writers_agree ⟨.folder [], []⟩ Compiler.ofOptions_defaults (List.cons_ne_nil _ [])
    (by simpa using Document.sample_accepted) hb hs
  exact ⟨protocols, outline, symbols, artifacts, hb, hs, same⟩

end StatusFrames.Emission
