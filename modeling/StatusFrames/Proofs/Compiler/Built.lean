/-
What a build that succeeded says: every layout comes from one of the documents, all documents have a layout, and no two
layouts share a subsystem name or id.
-/
import StatusFrames.Compiler
import StatusFrames.Proofs.Document.Literals
import StatusFrames.Proofs.Document.Order
import StatusFrames.Proofs.Layout.Placed

namespace StatusFrames

namespace Document

theorem checkUniqueAfter_eq_ok {seen documents : List Document} :
    checkUniqueAfter seen documents = .ok () ↔
      (documents.map (·.subsystem)).Nodup ∧ (documents.map (·.subsystemId)).Nodup ∧
        ∀ d ∈ documents, ∀ s ∈ seen, s.subsystem ≠ d.subsystem ∧ s.subsystemId ≠ d.subsystemId := by
  induction documents generalizing seen with
  | nil => simp [checkUniqueAfter]
  | cons d rest ih =>
    simp only [checkUniqueAfter]
    cases hname : seen.find? (·.subsystem == d.subsystem) with
    | some s =>
      have hs : s ∈ seen ∧ s.subsystem = d.subsystem :=
        ⟨List.mem_of_find?_eq_some hname, by simpa using List.find?_some hname⟩
      simp only [error_bind, reduceCtorEq, false_iff]
      rintro ⟨-, -, hfresh⟩
      exact (hfresh d List.mem_cons_self s hs.1).1 hs.2
    | none =>
      cases hid : seen.find? (·.subsystemId == d.subsystemId) with
      | some s =>
        have hs : s ∈ seen ∧ s.subsystemId = d.subsystemId :=
          ⟨List.mem_of_find?_eq_some hid, by simpa using List.find?_some hid⟩
        simp only [ok_bind, error_bind, reduceCtorEq, false_iff]
        rintro ⟨-, -, hfresh⟩
        exact (hfresh d List.mem_cons_self s hs.1).2 hs.2
      | none =>
        simp only [List.find?_eq_none, beq_iff_eq] at hname hid
        simp only [ok_bind, ih, List.map_cons, List.nodup_cons, List.mem_map, not_exists, not_and, List.mem_cons,
          forall_eq_or_imp]
        constructor
        · rintro ⟨h1, h2, h3⟩
          exact ⟨⟨fun x hx he => (h3 x hx).1.1 he.symm, h1⟩, ⟨fun x hx he => (h3 x hx).1.2 he.symm, h2⟩,
            fun s hs => ⟨hname s hs, hid s hs⟩, fun x hx => (h3 x hx).2⟩
        · rintro ⟨⟨hnames, h1⟩, ⟨hids, h2⟩, -, h3⟩
          exact ⟨h1, h2, fun x hx =>
            ⟨⟨fun he => hnames x hx he.symm, fun he => hids x hx he.symm⟩, h3 x hx⟩⟩

theorem checkUnique_eq_ok {documents : List Document} :
    checkUnique documents = .ok () ↔
      (documents.map (·.subsystem)).Nodup ∧ (documents.map (·.subsystemId)).Nodup := by
  rw [checkUnique, checkUniqueAfter_eq_ok]
  simp

end Document

namespace Compiler

/-- Layouts that were built from documents. -/
structure Built (naming : Naming) (documents : List Document) (protocols : List Layout.Protocol) : Prop where
  placed : List.Forall₂ (fun d p => p.Placed naming d) (Document.sort documents) protocols
  distinctSubsystems : (protocols.map (·.subsystem)).Nodup
  distinctIds : (protocols.map (·.subsystemId)).Nodup

theorem build_eq_ok {c : Compiler} {documents : List Document} {protocols : List Layout.Protocol} :
    c.build documents = .ok protocols ↔
      Document.checkUnique (Document.sort documents) = .ok () ∧
        List.Forall₂ (fun d p => Layout.ofDocument c.naming d = .ok p) (Document.sort documents) protocols := by
  simp only [build, then_eq_ok, mapM_eq_ok]

theorem built_of_build {c : Compiler} {documents : List Document} {protocols : List Layout.Protocol}
    (h : c.build documents = .ok protocols) : Built c.naming documents protocols := by
  obtain ⟨hunique, hplaced⟩ := build_eq_ok.mp h
  have hplaced : List.Forall₂ (fun d p => Layout.Protocol.Placed c.naming d p) (Document.sort documents) protocols :=
    hplaced.imp fun _ _ => Layout.ofDocument_eq_ok
  obtain ⟨h1, h2⟩ := Document.checkUnique_eq_ok.mp hunique
  refine ⟨hplaced, ?_, ?_⟩
  · rwa [forall₂_map_eq hplaced fun _ _ hp => hp.subsystem]
  · rwa [forall₂_map_eq hplaced fun _ _ hp => hp.subsystemId]

section
variable {naming : Naming} {documents : List Document} {protocols : List Layout.Protocol}

/-- Layouts stand in the strict order of their subsystems. -/
theorem Built.increasing (h : Built naming documents protocols) :
    protocols.Pairwise fun p q => p.subsystem < q.subsystem := by
  have same : protocols.map (·.subsystem) = (Document.sort documents).map (·.subsystem) :=
    forall₂_map_eq h.placed fun _ _ hp => hp.subsystem
  have sorted := Document.increasing_sort (same ▸ h.distinctSubsystems)
  rw [← List.pairwise_map (f := Layout.Protocol.subsystem) (R := (· < ·)), same]
  exact List.pairwise_map.mpr sorted

/-- Every layout comes from one of the documents. -/
theorem Built.origin (h : Built naming documents protocols) {p : Layout.Protocol} (hp : p ∈ protocols) :
    ∃ d ∈ documents, p.Placed naming d := by
  obtain ⟨d, hd, hplaced⟩ := forall₂_mem_right h.placed hp
  exact ⟨d, (Document.sort_perm documents).mem_iff.mp hd, hplaced⟩

/-- Every document has a layout. -/
theorem Built.layout (h : Built naming documents protocols) {d : Document} (hd : d ∈ documents) :
    ∃ p ∈ protocols, p.Placed naming d :=
  forall₂_mem_left h.placed ((Document.sort_perm documents).mem_iff.mpr hd)

/-- Every declared field was placed, under the names of its document. -/
theorem Built.field (h : Built naming documents protocols) {d : Document} (hd : d ∈ documents) {frame : Document.Frame}
    (hframe : frame ∈ d.protocol.frames) {field : Document.Field} (hfield : field ∈ frame.fields) :
    ∃ p ∈ protocols, p.subsystem = d.subsystem ∧ ∃ placed ∈ p.frames, placed.name = frame.name ∧
      ∃ f ∈ placed.fields, ∃ entry, f.Placed ⟨naming, p.subsystem, placed.name⟩ entry field := by
  obtain ⟨p, hp, hprotocol⟩ := h.layout hd
  obtain ⟨placed, hplaced, hframePlaced⟩ := forall₂_mem_left hprotocol.frames hframe
  obtain ⟨f, hf, entry, hfieldPlaced⟩ := hframePlaced.field hfield
  refine ⟨p, hp, hprotocol.subsystem, placed, hplaced, hframePlaced.name, f, hf, entry, ?_⟩
  rw [hprotocol.subsystem, hframePlaced.name]
  exact hfieldPlaced

/-- Subsystem names stand in paths and are fit for that. -/
theorem Built.subsystem_isIdentifier (h : Built naming documents protocols) (hd : ∀ d ∈ documents, d.Accepted) :
    ∀ p ∈ protocols, Text.isIdentifier p.subsystem = true := by
  intro p hp
  obtain ⟨d, hmem, hplaced⟩ := h.origin hp
  rw [hplaced.subsystem]
  exact (hd d hmem).wellFormed.subsystem

theorem Built.ne_nil (h : Built naming documents protocols) (hne : documents ≠ []) : protocols ≠ [] := by
  rintro rfl
  have hsorted : Document.sort documents = [] := List.forall₂_nil_right_iff.mp h.placed
  exact hne (List.Perm.eq_nil (hsorted ▸ (Document.sort_perm documents).symm))

end

/-- The checks of the options. -/
theorem ofOptions_eq_ok {options : CompilerOptions} {c : Compiler} (h : ofOptions options = .ok c) :
    Text.isIdentifier c.naming.lead = true ∧ checkIncludeRoot c.options.includeRoot = .ok () ∧ c.options = options := by
  simp only [ofOptions, error_bind, refuse_eq_ok, then_eq_ok, pure_eq_ok, Bool.not_eq_true', Bool.not_eq_false] at h
  obtain ⟨hlead, hroot, rfl⟩ := h
  exact ⟨hlead, hroot, rfl⟩

theorem checkedOutline_eq_ok {c : Compiler} {protocols : List Layout.Protocol} {outline : Outline}
    {symbols : SymbolTable} :
    c.checkedOutline protocols = .ok (outline, symbols) ↔
      outline = c.outline protocols ∧ outline.symbolTable = .ok symbols := by
  simp only [checkedOutline, bind_eq_ok, pure_eq_ok, Prod.mk.injEq]
  constructor
  · rintro ⟨_, hs, rfl, rfl⟩
    exact ⟨rfl, hs⟩
  · rintro ⟨rfl, hs⟩
    exact ⟨symbols, hs, rfl, rfl⟩

/-- The stages of a compilation that succeeded. -/
theorem compile_eq_ok {c : Compiler} {disk : Files.Disk} {documents : List Document} {compilation : Compilation}
    (h : c.compile disk documents = .ok compilation) :
    c.build documents = .ok compilation.protocols ∧
      c.emit disk (c.outline compilation.protocols) = .ok compilation.artifacts ∧
      ∃ table, (c.outline compilation.protocols).symbolTable = .ok table ∧ compilation.symbols = table.size := by
  simp only [compile, bind_eq_ok, pure_eq_ok] at h
  obtain ⟨protocols, hb, ⟨outline, table⟩, hs, artifacts, he, rfl⟩ := h
  obtain ⟨rfl, ht⟩ := checkedOutline_eq_ok.mp hs
  exact ⟨hb, he, table, ht, rfl⟩

theorem compile_of_stages {c : Compiler} {disk : Files.Disk} {documents : List Document}
    {protocols : List Layout.Protocol} {table : SymbolTable} {artifacts : Artifacts}
    (hbuild : c.build documents = .ok protocols) (htable : (c.outline protocols).symbolTable = .ok table)
    (hemit : c.emit disk (c.outline protocols) = .ok artifacts) :
    c.compile disk documents = .ok ⟨protocols, artifacts, table.size⟩ := by
  have hchecked := checkedOutline_eq_ok.mpr ⟨rfl, htable⟩
  simp only [compile, hbuild, hchecked, hemit, ok_bind]
  rfl

theorem build_singleton (c : Compiler) (d : Document) :
    c.build [d] = do return [← Layout.ofDocument c.naming d] := by
  simp only [build, Document.sort, List.mergeSort_singleton, List.mapM_cons, List.mapM_nil]
  rfl

/-! ## A compilation that succeeds -/

/-- The compiler for the default options. -/
def ofDefaults : Compiler := ⟨{}, {}⟩

theorem ofOptions_defaults : ofOptions {} = .ok ofDefaults := rfl

theorem checked_of_isOk {c : Compiler} {documents : List Document}
    (h : (c.build documents >>= c.checkedOutline).isOk = true) : ∃ protocols outline symbols,
      c.build documents = .ok protocols ∧ c.checkedOutline protocols = .ok (outline, symbols) := by
  obtain ⟨⟨outline, symbols⟩, hrun⟩ := ok_of_isOk h
  obtain ⟨protocols, hbuild, hchecked⟩ := bind_eq_ok.mp hrun
  exact ⟨protocols, outline, symbols, hbuild, hchecked⟩

theorem sample_checked : ∃ protocols outline symbols, ofDefaults.build [Document.sample] = .ok protocols ∧
    ofDefaults.checkedOutline protocols = .ok (outline, symbols) := by
  refine checked_of_isOk ?_
  rw [build_singleton]
  decide +kernel

theorem sort_samples : Document.sort [Document.sample, Document.fan] = [Document.fan, Document.sample] := by
  rw [Document.sort_eq_of_perm (.swap ..) (by decide +kernel)]
  exact List.mergeSort_of_pairwise (by decide +kernel)

theorem samples_checked : ∃ protocols outline symbols,
    ofDefaults.build [Document.sample, Document.fan] = .ok protocols ∧
      ofDefaults.checkedOutline protocols = .ok (outline, symbols) := by
  refine checked_of_isOk ?_
  rw [build, sort_samples]
  decide +kernel

end Compiler

end StatusFrames
