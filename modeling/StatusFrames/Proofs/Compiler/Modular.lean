/-
Documents are compiled one beside the other. Whatever compiles together also compiles in parts: nothing that is checked of
all documents can fail for some of them, and the headers of a subsystem are written from its own layout alone.
-/
import StatusFrames.Proofs.Emission.Agreement
import StatusFrames.Proofs.Outline.Owners
import Mathlib.Data.List.Sort

namespace StatusFrames

open scoped List

namespace Outline

theorem symbols_sublist (s : Setting) {part protocols : List Layout.Protocol} (h : part <+ protocols) :
    (ofLayouts s part).symbols <+ (ofLayouts s protocols).symbols := by
  have flat : part.flatMap (symbolsOf s) <+ protocols.flatMap (symbolsOf s) := by
    induction h with
    | slnil => exact .slnil
    | cons p _ ih => exact ih.trans (List.sublist_append_right _ _)
    | cons_cons p _ ih => exact ih.append_left _
  rw [symbols_ofLayouts s part, symbols_ofLayouts s protocols]
  exact flat.append_left _

/-- Symbols that do not collide do not collide with fewer of them around. -/
theorem symbolTable_of_sublist {s : Setting} {part protocols : List Layout.Protocol} (h : part <+ protocols)
    {table : SymbolTable} (htable : (ofLayouts s protocols).symbolTable = .ok table) :
    ∃ kept, (ofLayouts s part).symbolTable = .ok kept := by
  obtain ⟨hnodup, -⟩ := symbolTable_eq_ok.mp htable
  exact ⟨_, symbolTable_eq_ok.mpr ⟨hnodup.sublist ((symbols_sublist s h).map _), rfl⟩⟩

end Outline

namespace Compiler

theorem build_of_subperm {c : Compiler} {documents part : List Document} {protocols : List Layout.Protocol}
    (h : c.build documents = .ok protocols) (hpart : part <+~ documents) :
    ∃ kept, c.build part = .ok kept ∧ kept <+ protocols := by
  obtain ⟨hunique, hplaced⟩ := build_eq_ok.mp h
  obtain ⟨hnames, hids⟩ := Document.checkUnique_eq_ok.mp hunique
  have hsorted : Document.sort part <+~ Document.sort documents :=
    ((Document.sort_perm part).subperm.trans hpart).trans (Document.sort_perm documents).symm.subperm
  have distinct : ∀ {β : Type} (f : Document → β), ((Document.sort documents).map f).Nodup →
      ((Document.sort part).map f).Nodup := by
    intro β f hnodup
    obtain ⟨l, hperm, hsub⟩ := hsorted
    exact (hperm.map f).nodup_iff.mp (hnodup.sublist (hsub.map f))
  have asymm : Std.Antisymm fun a b : Document => a.subsystem < b.subsystem :=
    ⟨fun _ _ hab hba => absurd hba hab.asymm⟩
  have hsub : Document.sort part <+ Document.sort documents :=
    List.sublist_of_subperm_of_pairwise hsorted (Document.increasing_sort (distinct _ hnames))
      (Document.increasing_sort hnames)
  obtain ⟨kept, hkept, hmatch⟩ := forall₂_of_sublist hsub hplaced
  exact ⟨kept, build_eq_ok.mpr ⟨Document.checkUnique_eq_ok.mpr ⟨distinct _ hnames, distinct _ hids⟩, hmatch⟩, hkept⟩

/-- The headers of a subsystem in a compilation are those of its layout. -/
theorem text?_of_compile {options : CompilerOptions} {c : Compiler} {disk : Files.Disk} {documents : List Document}
    {compilation : Compilation} (hc : ofOptions options = .ok c)
    (hw : c.options.emitter = .construct ∨ c.options.templates = none) (hd : ∀ d ∈ documents, d.Accepted)
    (h : c.compile disk documents = .ok compilation) {p : Layout.Protocol} (hp : p ∈ compilation.protocols) :
    compilation.artifacts.text? ⟨Outline.protocolPath p.subsystem⟩ =
        some (Emission.protocolHeader (Outline.ofProtocol ⟨c.naming, c.options.includeRoot⟩ p)).text ∧
      compilation.artifacts.text? ⟨Outline.instancePath p.subsystem⟩ =
        some (Emission.instanceHeader (Outline.ofInstance ⟨c.naming, c.options.includeRoot⟩ p)).text := by
  obtain ⟨hbuild, hemit, -⟩ := compile_eq_ok h
  have built := built_of_build hbuild
  obtain ⟨d, hmem, -⟩ := built.origin hp
  have written := Emission.fromTrees_of_emit hc hw (List.ne_nil_of_mem hmem) hd built hemit
  exact ⟨Emission.text?_of_fromTrees built hd written (Emission.protocolHeader_mem hp),
    Emission.text?_of_fromTrees built hd written (Emission.instanceHeader_mem hp)⟩

theorem eq_of_ofOptions {options : CompilerOptions} {c : Compiler} (h : ofOptions options = .ok c) :
    c = ⟨⟨options.lead⟩, options⟩ := by
  simp only [ofOptions, error_bind, refuse_eq_ok, then_eq_ok, pure_eq_ok] at h
  exact h.2.2.symm

/-- Of documents that compile together, any part compiles too, with either emitter (with the built-in templates there has
to be a document), and the two headers of a subsystem in the part have the text that they have in the whole. -/
theorem part_compiles {options : CompilerOptions} {c c' : Compiler} {emitter : Emitter}
    {templates : Option Files.Path} {disk : Files.Disk} (disk' : Files.Disk) {documents part : List Document}
    {whole : Compilation} (hc : ofOptions options = .ok c)
    (hc' : ofOptions { options with emitter := emitter, templates := templates } = .ok c')
    (hw : options.emitter = .construct ∨ options.templates = none)
    (hw' : emitter = .construct ∨ templates = none ∧ part ≠ []) (hd : ∀ d ∈ documents, d.Accepted)
    (h : c.compile disk documents = .ok whole) (hpart : part <+~ documents) :
    ∃ kept, c'.compile disk' part = .ok kept ∧ ∀ d ∈ part,
      (∃ text, whole.artifacts.text? ⟨Outline.protocolPath d.subsystem⟩ = some text ∧
        kept.artifacts.text? ⟨Outline.protocolPath d.subsystem⟩ = some text) ∧
      ∃ text, whole.artifacts.text? ⟨Outline.instancePath d.subsystem⟩ = some text ∧
        kept.artifacts.text? ⟨Outline.instancePath d.subsystem⟩ = some text := by
  obtain rfl := eq_of_ofOptions hc
  obtain rfl := eq_of_ofOptions hc'
  have hpartAccepted : ∀ d ∈ part, d.Accepted := fun d hmem => hd d (hpart.subset hmem)
  obtain ⟨hbuild, -, table, htable, -⟩ := compile_eq_ok h
  -- the emitter plays no part in layouts and outlines
  obtain ⟨protocols, hpartBuild, hsub⟩ := build_of_subperm hbuild hpart
  obtain ⟨partTable, hpartTable⟩ := Outline.symbolTable_of_sublist hsub htable
  have built := built_of_build hpartBuild
  obtain ⟨artifacts, hwritten⟩ := Emission.fromTrees_ok built hpartAccepted options.includeRoot
  have hpartEmit := (Emission.emit_eq_fromTrees disk' hc' hw' hpartAccepted built).trans hwritten
  have hkept := compile_of_stages (c := ⟨⟨options.lead⟩, { options with emitter := emitter, templates := templates }⟩)
    hpartBuild hpartTable hpartEmit
  refine ⟨_, hkept, fun d hmem => ?_⟩
  obtain ⟨p, hp, hplaced⟩ := built.layout hmem
  obtain ⟨hwholeProtocol, hwholeInstance⟩ := text?_of_compile hc hw hd h (hsub.subset hp)
  obtain ⟨hprotocol, hinstance⟩ := text?_of_compile hc' (hw'.imp_right And.left) hpartAccepted hkept hp
  rw [← hplaced.subsystem]
  exact ⟨⟨_, hwholeProtocol, hprotocol⟩, ⟨_, hwholeInstance, hinstance⟩⟩

/-- The first of the two samples alone, with the other emitter. -/
theorem part_compiles_sample : ∃ whole kept text,
    ofTrees.compile ⟨.folder [], []⟩ [Document.sample, Document.fan] = .ok whole ∧
      ofDefaults.compile ⟨.folder [], []⟩ [Document.sample] = .ok kept ∧
      whole.artifacts.text? ⟨"protocols/subsystems/psu_protocol.h"⟩ = some text ∧
      kept.artifacts.text? ⟨"protocols/subsystems/psu_protocol.h"⟩ = some text := by
  obtain ⟨whole, h⟩ := samples_compile ⟨.folder [], []⟩
  have haccepted : ∀ d ∈ [Document.sample, Document.fan], d.Accepted := by
    simpa using ⟨Document.sample_accepted, Document.fan_accepted⟩
  have hpart : [Document.sample] <+~ [Document.sample, Document.fan] :=
    (List.Sublist.cons_cons _ (List.nil_sublist _)).subperm
  have hdefaults : ofOptions { ofTrees.options with emitter := .template, templates := none } = .ok ofDefaults :=
    ofOptions_defaults
  obtain ⟨kept, hkept, same⟩ := part_compiles ⟨.folder [], []⟩ ofOptions_ofTrees hdefaults (.inl rfl)
    (.inr ⟨rfl, List.cons_ne_nil _ []⟩) haccepted h hpart
  obtain ⟨⟨text, hwhole, hpartText⟩, -⟩ := same Document.sample (List.mem_singleton_self _)
  exact ⟨whole, kept, text, h, hkept, hwhole, hpartText⟩

end Compiler

end StatusFrames
