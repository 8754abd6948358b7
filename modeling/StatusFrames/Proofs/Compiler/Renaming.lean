/-
Compilations under two leading words. They end alike: both succeed or both fail for the same reason, and in outlines
that were written nothing but the leading word of C names is different.
-/
import StatusFrames.Proofs.Emission.Enumerators
import StatusFrames.Proofs.Compiler.Modular
import StatusFrames.Proofs.Outline.Renaming

namespace StatusFrames

open Naming (RenamedKey SameOutcome)

variable {old new : String}

/-! ## Artifacts -/

namespace Artifacts

variable {a b : Artifacts}

theorem contains_congr (h : a.map (·.1) = b.map (·.1)) (path : Files.Path) : a.contains path = b.contains path := by
  have same := congrArg (·.any (·.same path)) h
  simpa [contains, List.any_map, Function.comp_def] using same

theorem map_put_congr (h : a.map (·.1) = b.map (·.1)) (path : Files.Path) (text text' : String) :
    (put path text a).map (·.1) = (put path text' b).map (·.1) := by
  induction a generalizing b with
  | nil =>
    obtain rfl := List.map_eq_nil_iff.mp h.symm
    rfl
  | cons entry rest ih =>
    obtain ⟨other, others, rfl, hpath, hrest⟩ := List.map_eq_cons_iff.mp h.symm
    obtain ⟨q, _⟩ := entry
    obtain ⟨_, _⟩ := other
    subst hpath
    simp only [put]
    split
    · simp [hrest]
    · split
      · simp [hrest]
      · simp [ih hrest.symm]

/-- The text of headers plays no part in where they go. -/
theorem insertAll_renamed {headers others : List (String × String)} (hpaths : headers.map (·.1) = others.map (·.1))
    (h : a.map (·.1) = b.map (·.1)) :
    SameOutcome old new (fun a b => a.map (·.1) = b.map (·.1)) (a.insertAll headers) (b.insertAll others) := by
  induction headers generalizing a b others with
  | nil =>
    obtain rfl := List.map_eq_nil_iff.mp hpaths.symm
    exact .ok h
  | cons header rest ih =>
    obtain ⟨⟨path', text'⟩, rest', rfl, hpath, hrest⟩ := List.map_eq_cons_iff.mp hpaths.symm
    obtain ⟨path, text⟩ := header
    subst hpath
    have inserted : SameOutcome old new (fun a b => a.map (·.1) = b.map (·.1)) (a.insert path' text)
        (b.insert path' text') := by
      rw [insert, insert, contains_congr h]
      split
      · exact .failure rfl
      · exact .ok (map_put_congr h _ _ _)
    rw [insertAll_cons, insertAll_cons]
    exact inserted.bind fun a b hab => ih hrest.symm hab

end Artifacts

namespace Outline

open Emission (declarations headerTrees filter_declarations)

theorem Renamed.paths {a b : Outline} (h : a.Renamed old new b) :
    (headerTrees a).map (·.1) = (headerTrees b).map (·.1) := by
  have headers : List.Forall₂ (fun x y => x.1 = y.1) (headerTrees a) (headerTrees b) := by
    refine List.rel_append (List.rel_flatMap h.protocols fun p q hpq => ?_) ?_
    · exact .cons hpq.header.path (.cons hpq.instanceHeader.path .nil)
    · exact .cons h.common.path (.cons h.utils.path .nil)
  exact (forall₂_map_eq headers fun _ _ hxy => hxy.symm).symm

theorem enumerators_declarations (o : Outline) :
    C.enumerators (declarations o) = o.enumerations.flatMap fun e =>
      C.numbered 0 (e.enumerators.map fun v => (v.name, if v.explicit then some v.value else none)) := by
  have filtered : ∀ ds : List Declaration, C.enumerators (ds.filter Declaration.isEnumeration) = C.enumerators ds := by
    intro ds
    induction ds with
    | nil => rfl
    | cons d rest ih =>
      simp only [C.enumerators] at ih ⊢
      cases d <;> simp [Declaration.isEnumeration, List.filter_cons, ih]
  rw [← filtered, filter_declarations, C.enumerators, List.flatMap_map]
  rfl

/-- C gives renamed enumerators the same values, in the same order. -/
theorem Renamed.enumerators {a b : Outline} (h : a.Renamed old new b) :
    List.Forall₂ (RenamedKey old new) (C.enumerators (declarations a)) (C.enumerators (declarations b)) := by
  rw [enumerators_declarations, enumerators_declarations]
  exact List.rel_flatMap h.enumerations fun _ _ hef => numbered_renamed hef.enumerators 0

end Outline

namespace Document

theorem checkUniqueAfter_renamed (seen documents : List Document) :
    SameOutcome old new Eq (checkUniqueAfter seen documents) (checkUniqueAfter seen documents) := by
  induction documents generalizing seen with
  | nil => exact .ok rfl
  | cons d rest ih =>
    simp only [checkUniqueAfter]
    split
    · exact .failure rfl
    · split
      · exact .failure rfl
      · exact ih (d :: seen)

end Document

namespace Compiler

theorem build_renamed (c c' : Compiler) (documents : List Document) :
    SameOutcome c.naming.lead c'.naming.lead
      (List.Forall₂ (Layout.Protocol.Renamed c.naming.lead c'.naming.lead)) (c.build documents)
      (c'.build documents) :=
  (Document.checkUniqueAfter_renamed [] _).bind fun _ _ _ =>
    .mapM fun d _ => Layout.ofDocument_renamed c.naming c'.naming d

theorem outline_renamed (c c' : Compiler) (hroot : c'.options.includeRoot = c.options.includeRoot)
    {protocols others : List Layout.Protocol}
    (h : List.Forall₂ (Layout.Protocol.Renamed c.naming.lead c'.naming.lead) protocols others) :
    (c.outline protocols).Renamed c.naming.lead c'.naming.lead (c'.outline others) := by
  rw [outline, outline, hroot]
  exact Outline.ofLayouts_renamed c.naming c'.naming c.options.includeRoot h

theorem checkedOutline_renamed {c c' : Compiler} {protocols others : List Layout.Protocol}
    (h : (c.outline protocols).Renamed old new (c'.outline others)) :
    SameOutcome old new
      (fun x y => x.1 = c.outline protocols ∧ y.1 = c'.outline others ∧ x.2.size = y.2.size)
      (c.checkedOutline protocols) (c'.checkedOutline others) := by
  have table := SymbolTable.registerAll_renamed h.symbols (t := {}) (u := {}) .nil
  rw [← Outline.symbolTable_eq, ← Outline.symbolTable_eq] at table
  exact table.bind fun t u htu => .ok ⟨rfl, rfl, htu.length_eq⟩

theorem emit_renamed {c c' : Compiler} (disk : Files.Disk) (he : c.options.emitter = .construct)
    (he' : c'.options.emitter = .construct) {a b : Outline} (h : a.Renamed old new b) :
    SameOutcome old new (fun x y => x.map (·.1) = y.map (·.1)) (c.emit disk a) (c'.emit disk b) := by
  simp only [emit, he, he']
  refine Artifacts.insertAll_renamed ?_ rfl
  rw [List.map_map, List.map_map]
  exact h.paths

/-- Under another leading word the symbols are the same but for that word, in the same order. A compilation ends alike:
it fails where it failed before, or finds the same two owners of one name, or writes headers at the same paths from an
outline with the same places, widths, types and sizes, whose enumerators have the same values. -/
theorem lead_only_renames {options : CompilerOptions} {lead : String} {c c' : Compiler} (disk : Files.Disk)
    (documents : List Document) (hc : ofOptions options = .ok c)
    (hc' : ofOptions { options with lead := lead } = .ok c') (he : options.emitter = .construct) :
    SameOutcome options.lead lead
        (fun protocols others => List.Forall₂ (RenamedKey options.lead lead) (c.outline protocols).symbols
          (c'.outline others).symbols)
        (c.build documents) (c'.build documents) ∧
      SameOutcome options.lead lead
        (fun a b => a.artifacts.map (·.1) = b.artifacts.map (·.1) ∧ a.symbols = b.symbols ∧
          (c.outline a.protocols).Renamed options.lead lead (c'.outline b.protocols) ∧
          List.Forall₂ (RenamedKey options.lead lead)
            (C.enumerators (Emission.declarations (c.outline a.protocols)))
            (C.enumerators (Emission.declarations (c'.outline b.protocols))))
        (c.compile disk documents) (c'.compile disk documents) := by
  obtain rfl := eq_of_ofOptions hc
  obtain rfl := eq_of_ofOptions hc'
  have layouts := build_renamed ⟨⟨options.lead⟩, options⟩ ⟨⟨lead⟩, { options with lead := lead }⟩ documents
  have outlines := @outline_renamed ⟨⟨options.lead⟩, options⟩ ⟨⟨lead⟩, { options with lead := lead }⟩ rfl
  refine ⟨layouts.imp fun _ _ h => (outlines h).symbols, layouts.bind fun protocols others h => ?_⟩
  have renamed := outlines h
  refine (checkedOutline_renamed renamed).bind ?_
  rintro ⟨_, t⟩ ⟨_, u⟩ ⟨rfl, rfl, hsize⟩
  exact (emit_renamed disk he he renamed).bind fun a b hab => .ok ⟨hab, hsize, renamed, renamed.enumerators⟩

/-- The two samples under a leading word that looks like a name of the first. -/
theorem lead_only_renames_samples : ∃ a b,
    ofTrees.compile ⟨.folder [], []⟩ [Document.sample, Document.fan] = .ok a ∧
      compile ⟨⟨"KSRP_PSU"⟩, { ofTrees.options with lead := "KSRP_PSU" }⟩ ⟨.folder [], []⟩
        [Document.sample, Document.fan] = .ok b ∧
      a.artifacts.map (·.1) = b.artifacts.map (·.1) ∧ a.symbols = b.symbols := by
  obtain ⟨a, h⟩ := samples_compile ⟨.folder [], []⟩
  have hc' : ofOptions { ofTrees.options with lead := "KSRP_PSU" } =
      .ok ⟨⟨"KSRP_PSU"⟩, { ofTrees.options with lead := "KSRP_PSU" }⟩ := rfl
  obtain ⟨-, same⟩ := lead_only_renames ⟨.folder [], []⟩ [Document.sample, Document.fan] ofOptions_ofTrees hc' rfl
  rw [h] at same
  generalize compile _ _ _ = other at same ⊢
  cases same with
  | ok hab => exact ⟨a, _, h, rfl, hab.1, hab.2.1⟩

end Compiler

end StatusFrames
