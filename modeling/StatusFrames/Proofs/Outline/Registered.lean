/-
The symbols of an outline by kind. Symbols are listed element by element, each id beside the element it belongs to; that
pairing loses nothing as long as there is one id for every element, and then the list is a rearrangement of the names by
kind.
-/
import StatusFrames.Outline.Drafting
import StatusFrames.Proofs.Outline.SymbolList
import Mathlib.Data.List.Perm.Basic

namespace StatusFrames

namespace Outline

/-! ## One id for every element -/

def Frame.Aligned (f : Frame) : Prop := f.fields.length = f.fieldIds.enumerators.length

structure Protocol.Aligned (p : Protocol) : Prop where
  frameIds : p.frames.length = p.frameIds.enumerators.length
  frames : ∀ f ∈ p.frames, f.Aligned

theorem length_fieldIds (naming : Naming) (subsystem frame : String) (first : Nat) (fields : List Layout.Field) :
    (fieldIds naming subsystem frame first fields).length = fields.length := by
  induction fields generalizing first with
  | nil => rfl
  | cons field rest ih => simp [fieldIds, ih]

theorem aligned_ofFrame (naming : Naming) (subsystem : String) (f : Layout.Frame) :
    (ofFrame naming subsystem f).Aligned := by
  simp [Frame.Aligned, ofFrame, length_fieldIds]

theorem aligned_ofProtocol (s : Setting) (p : Layout.Protocol) : (ofProtocol s p).Aligned := by
  refine ⟨by simp [ofProtocol], ?_⟩
  simp only [ofProtocol, List.forall_mem_map]
  exact fun f _ => aligned_ofFrame s.naming p.subsystem f

/-! ## Names by kind -/

def Enumeration.names (e : Enumeration) : List String := e.typeName :: e.enumerators.map (·.name)

/-- The names that a field brings in besides its id. -/
def Field.names (f : Field) : List String :=
  [f.getter.name, f.setter.name] ++ f.enumType.toList.flatMap (·.names) ++ f.constants.map (·.name)

/-- The names that a frame brings in besides its id. -/
def Frame.names (f : Frame) : List String :=
  [f.typeName, f.sizeConstant.name, f.typeId.name, f.fieldIds.typeName] ++ f.fieldIds.enumerators.map (·.name) ++
    f.fields.flatMap (·.names)

/-- The names that a protocol brings in besides its id. -/
def Protocol.names (p : Protocol) : List String :=
  [p.header.guard, p.instanceOutline.header.guard, p.frameIds.typeName, p.instanceOutline.typeName] ++
    (p.dispatch ++ p.instanceOutline.prototypes).map (·.name) ++ p.frameIds.enumerators.map (·.name) ++
    p.frames.flatMap (·.names)

/-- Elements beside their ids are the ids and the elements. -/
theorem flatMap_zip_perm {α β : Type} {as : List α} {bs : List β} (h : as.length = bs.length) (id : β → String)
    (names : α → List String) :
    ((as.zip bs).flatMap fun pair => id pair.2 :: names pair.1).Perm (bs.map id ++ as.flatMap names) := by
  have ids : (as.zip bs).flatMap (fun pair => [id pair.2]) = bs.map id := by
    rw [← List.map_eq_flatMap, ← Function.comp_def id Prod.snd, ← List.map_map, List.map_snd_zip (Nat.le_of_eq h.symm)]
  have elements : (as.zip bs).flatMap (fun pair => names pair.1) = as.flatMap names := by
    rw [← List.flatMap_map Prod.fst names, List.map_fst_zip (Nat.le_of_eq h)]
  rw [← ids, ← elements]
  exact (List.flatMap_append_perm (as.zip bs) (fun pair => [id pair.2]) fun pair => names pair.1).symm

theorem Field.map_symbols (f : Field) (fieldId : Enumerator) (owner : String → Owner) :
    (f.symbols fieldId owner).map (·.1) = fieldId.name :: f.names := by
  cases h : f.enumType <;> simp [symbols, names, h, Enumeration.names, Function.comp_def]

theorem Frame.map_symbols_perm {f : Frame} (h : f.Aligned) (frameId : Enumerator) (document : Files.Path)
    (subsystem : String) : ((f.symbols frameId document subsystem).map (·.1)).Perm (frameId.name :: f.names) := by
  simp only [symbols, names, List.map_append, List.map_cons, List.map_nil, List.map_flatMap, Field.map_symbols,
    ← List.cons_append, List.append_assoc]
  exact (flatMap_zip_perm h _ _).append_left _

theorem Protocol.map_symbols_perm {p : Protocol} (h : p.Aligned) (subsystemId : Enumerator) :
    ((p.symbols subsystemId).map (·.1)).Perm (subsystemId.name :: p.names) := by
  have frames : ((p.frames.zip p.frameIds.enumerators).flatMap fun pair =>
      (pair.1.symbols pair.2 p.document p.subsystem).map (·.1)).Perm
      (p.frameIds.enumerators.map (·.name) ++ p.frames.flatMap (·.names)) := by
    refine .trans (.flatMap_left _ fun pair hpair => ?_) (flatMap_zip_perm h.frameIds _ _)
    exact Frame.map_symbols_perm (h.frames pair.1 (List.of_mem_zip hpair).1) _ _ _
  simp only [symbols, names, List.map_append, List.map_cons, List.map_nil, List.map_flatMap, List.map_map,
    Function.comp_def, ← List.cons_append, List.append_assoc]
  exact (frames.append_left _).append_left _ |>.append_left _

end Outline

/-- All names of an outline. -/
def Outline.names (o : Outline) : List String :=
  [o.common.guard, o.utils.guard, o.subsystemIds.typeName, o.subsystemCount.name] ++
    o.subsystemIds.enumerators.map (·.name) ++ o.protocols.flatMap (·.names)

theorem Outline.map_symbols_perm (s : Setting) (protocols : List Layout.Protocol) :
    ((ofLayouts s protocols).symbols.map (·.1)).Perm (ofLayouts s protocols).names := by
  have aligned : ∀ p ∈ (ofLayouts s protocols).protocols, p.Aligned := by
    simp only [ofLayouts, List.forall_mem_map]
    exact fun p _ => aligned_ofProtocol s p
  have ids : (ofLayouts s protocols).protocols.length = (ofLayouts s protocols).subsystemIds.enumerators.length := by
    simp [ofLayouts]
  generalize ofLayouts s protocols = o at aligned ids
  have elements : ((o.protocols.zip o.subsystemIds.enumerators).flatMap fun pair =>
      (pair.1.symbols pair.2).map (·.1)).Perm
      (o.subsystemIds.enumerators.map (·.name) ++ o.protocols.flatMap (·.names)) := by
    refine .trans (.flatMap_left _ fun pair hpair => ?_) (flatMap_zip_perm ids _ _)
    exact Protocol.map_symbols_perm (aligned pair.1 (List.of_mem_zip hpair).1) _
  simp only [symbols, names, List.map_append, List.map_cons, List.map_nil, List.map_flatMap, List.append_assoc]
  exact elements.append_left _

end StatusFrames
