/-
Outlines under another leading word: every C name is renamed, and paths, places, widths, sizes and the values of
enumerators stay. One relation for each kind of data, and one lemma for each function that makes it.
-/
import StatusFrames.Emission.Tree
import StatusFrames.Proofs.Outline.SymbolList
import StatusFrames.Proofs.C.Program
import StatusFrames.Proofs.Layout.Renaming
import StatusFrames.Proofs.Outline.Enumerations

namespace StatusFrames

namespace Outline

open Naming (RenamedKey)

/-- The value of a constant may be the name of an enumerator, so nothing is said about it here. -/
structure Constant.Renamed (old new : String) (a b : Constant) : Prop where
  name : Naming.Renamed old new a.name b.name
  role : a.role = b.role

structure Enumerator.Renamed (old new : String) (a b : Enumerator) : Prop where
  name : Naming.Renamed old new a.name b.name
  others : b = { a with name := b.name }

structure Enumeration.Renamed (old new : String) (a b : Enumeration) : Prop where
  typeName : Naming.Renamed old new a.typeName b.typeName
  enumerators : List.Forall₂ (Enumerator.Renamed old new) a.enumerators b.enumerators

structure Prototype.Renamed (old new : String) (a b : Prototype) : Prop where
  name : Naming.Renamed old new a.name b.name
  role : a.role = b.role

structure Field.Renamed (old new : String) (a b : Field) : Prop where
  name : a.name = b.name
  storageType : a.storageType = b.storageType
  offset : a.offset = b.offset
  width : a.width = b.width
  enumType : Option.Rel (Enumeration.Renamed old new) a.enumType b.enumType
  constants : List.Forall₂ (Constant.Renamed old new) a.constants b.constants
  getter : a.getter.Renamed old new b.getter
  setter : a.setter.Renamed old new b.setter

structure Frame.Renamed (old new : String) (a b : Frame) : Prop where
  name : a.name = b.name
  id : a.id = b.id
  size : a.size = b.size
  typeName : Naming.Renamed old new a.typeName b.typeName
  sizeConstant : a.sizeConstant.Renamed old new b.sizeConstant
  sizeValue : a.sizeConstant.value = b.sizeConstant.value
  typeId : a.typeId.Renamed old new b.typeId
  fieldIds : a.fieldIds.Renamed old new b.fieldIds
  fields : List.Forall₂ (Field.Renamed old new) a.fields b.fields

structure Header.Renamed (old new : String) (a b : Header) : Prop where
  guard : Naming.Renamed old new a.guard b.guard
  others : b = { a with guard := b.guard }

theorem Header.Renamed.path {old new : String} {a b : Header} (h : a.Renamed old new b) : a.path = b.path := by
  rw [h.others]

structure Protocol.Renamed (old new : String) (a b : Protocol) : Prop where
  subsystem : a.subsystem = b.subsystem
  subsystemId : a.subsystemId = b.subsystemId
  document : a.document = b.document
  header : a.header.Renamed old new b.header
  frameIds : a.frameIds.Renamed old new b.frameIds
  frames : List.Forall₂ (Frame.Renamed old new) a.frames b.frames
  dispatch : List.Forall₂ (Prototype.Renamed old new) a.dispatch b.dispatch
  instanceHeader : a.instanceOutline.header.Renamed old new b.instanceOutline.header
  instanceType : Naming.Renamed old new a.instanceOutline.typeName b.instanceOutline.typeName
  instancePrototypes :
    List.Forall₂ (Prototype.Renamed old new) a.instanceOutline.prototypes b.instanceOutline.prototypes

end Outline

structure Outline.Renamed (old new : String) (a b : Outline) : Prop where
  common : a.common.Renamed old new b.common
  subsystemIds : a.subsystemIds.Renamed old new b.subsystemIds
  utils : a.utils.Renamed old new b.utils
  subsystemCount : a.subsystemCount.Renamed old new b.subsystemCount
  protocols : List.Forall₂ (Outline.Protocol.Renamed old new) a.protocols b.protocols

namespace Outline

open Naming (RenamedKey renamed_symbol)

/-! ## Drafting -/

section

variable (n m : Naming) (subsystem frame : String)

theorem checkConstants_renamed (field : String) (position : Nat) (check : Layout.HealthCheck) :
    List.Forall₂ (Constant.Renamed n.lead m.lead)
      (Place.checkConstants ⟨n, subsystem, frame, field⟩ position check)
      (Place.checkConstants ⟨m, subsystem, frame, field⟩ position check) := by
  have base : Naming.Renamed n.lead m.lead (n.healthCheck subsystem frame field check.result position)
      (m.healthCheck subsystem frame field check.result position) := renamed_symbol n m _
  have text : ∀ (suffix : String) (text : Option String), List.Forall₂ (Constant.Renamed n.lead m.lead)
      (text.map fun text => (⟨n.healthCheck subsystem frame field check.result position ++ suffix, Text.quoted text,
        "health check #" ++ toString position⟩ : Constant)).toList
      (text.map fun text => (⟨m.healthCheck subsystem frame field check.result position ++ suffix, Text.quoted text,
        "health check #" ++ toString position⟩ : Constant)).toList := by
    intro suffix text
    cases text with
    | none => exact .nil
    | some text => exact .cons ⟨base.append suffix, rfl⟩ .nil
  refine List.rel_append (List.rel_append ?_ (text _ _)) (text _ _)
  cases check.condition with
  | exact value => exact .cons ⟨base, rfl⟩ .nil
  | range min max => exact .cons ⟨base.append _, rfl⟩ (.cons ⟨base.append _, rfl⟩ .nil)

theorem allCheckConstants_renamed (field : String) (position : Nat) (checks : List Layout.HealthCheck) :
    List.Forall₂ (Constant.Renamed n.lead m.lead)
      (Place.allCheckConstants ⟨n, subsystem, frame, field⟩ position checks)
      (Place.allCheckConstants ⟨m, subsystem, frame, field⟩ position checks) := by
  induction checks generalizing position with
  | nil => exact .nil
  | cons check rest ih =>
    exact List.rel_append (checkConstants_renamed n m subsystem frame field position check) (ih (position + 1))

theorem ofField_renamed {a b : Layout.Field} (h : a.Renamed n.lead m.lead b) :
    (ofField n subsystem frame a).Renamed n.lead m.lead (ofField m subsystem frame b) := by
  obtain ⟨name, declaredType, storageType, offset, width, kind, initial, checks⟩ := a
  obtain ⟨hkind, hothers⟩ := h
  generalize b.kind = other at hkind hothers
  subst hothers
  refine ⟨rfl, rfl, rfl, rfl, ?_, ?_, ⟨renamed_symbol n m _, rfl⟩, ⟨renamed_symbol n m _, rfl⟩⟩
  · cases hkind with
    | native | boolCast | deviceId => exact .none
    | enumCast htype values =>
      refine .some ⟨htype, ?_⟩
      simp only [Place.enumeration, List.forall₂_map_left_iff, List.forall₂_map_right_iff]
      exact List.forall₂_same.mpr fun v _ => ⟨renamed_symbol n m _, rfl⟩
  · refine List.rel_append ?_ (allCheckConstants_renamed n m subsystem frame name 1 checks)
    cases initial with
    | none => exact .nil
    | some literal => exact .cons ⟨renamed_symbol n m _, rfl⟩ .nil

theorem fieldIds_renamed {as bs : List Layout.Field} (h : List.Forall₂ (Layout.Field.Renamed n.lead m.lead) as bs)
    (first : Nat) :
    List.Forall₂ (Enumerator.Renamed n.lead m.lead) (fieldIds n subsystem frame first as)
      (fieldIds m subsystem frame first bs) := by
  induction h generalizing first with
  | nil => exact .nil
  | @cons a b _ _ hab _ ih =>
    have same : b.name = a.name := by rw [hab.others]
    simp only [fieldIds, same]
    exact .cons ⟨renamed_symbol n m _, rfl⟩ (ih (first + 1))

theorem size_eq_of_renamed {old new : String} {as bs : List Layout.Field}
    (h : List.Forall₂ (Layout.Field.Renamed old new) as bs) :
    as.foldr (fun field rest => field.width + rest) 0 = bs.foldr (fun field rest => field.width + rest) 0 := by
  induction h with
  | nil => rfl
  | @cons a b _ _ hab _ ih =>
    have same : b.width = a.width := by rw [hab.others]
    rw [List.foldr_cons, List.foldr_cons, ih, same]

theorem ofFrame_renamed {a b : Layout.Frame} (h : a.Renamed n.lead m.lead b) :
    (ofFrame n subsystem a).Renamed n.lead m.lead (ofFrame m subsystem b) := by
  obtain ⟨name, id, fields⟩ := a
  obtain ⟨hfields, hothers⟩ := h
  generalize b.fields = others at hfields hothers
  subst hothers
  have size : Layout.Frame.size ⟨name, id, fields⟩ = Layout.Frame.size ⟨name, id, others⟩ := size_eq_of_renamed hfields
  refine ⟨rfl, rfl, size, renamed_symbol n m _, ⟨renamed_symbol n m _, rfl⟩, ?_, ⟨renamed_symbol n m _, rfl⟩,
    ⟨renamed_symbol n m _, fieldIds_renamed n m subsystem name hfields 0⟩, ?_⟩
  · exact congrArg toString size
  · exact List.rel_map (fun _ _ hab => ofField_renamed n m subsystem name hab) hfields

end

section

variable (n m : Naming) (includeRoot : String)

theorem ofProtocol_renamed {a b : Layout.Protocol} (h : a.Renamed n.lead m.lead b) :
    (ofProtocol ⟨n, includeRoot⟩ a).Renamed n.lead m.lead (ofProtocol ⟨m, includeRoot⟩ b) := by
  obtain ⟨subsystem, subsystemId, multiDevice, source, frames⟩ := a
  obtain ⟨hframes, hothers⟩ := h
  generalize b.frames = others at hframes hothers
  subst hothers
  have prototype : ∀ (parts : List String) (returnType returnType' : String) (params params' : List String)
      (role : String), Prototype.Renamed n.lead m.lead ⟨returnType, n.symbol parts, params, role⟩
        ⟨returnType', m.symbol parts, params', role⟩ := fun parts _ _ _ _ _ => ⟨renamed_symbol n m parts, rfl⟩
  refine ⟨rfl, rfl, rfl, ⟨renamed_symbol n m _, rfl⟩, ⟨renamed_symbol n m _, ?_⟩, ?_, ?_,
    ⟨renamed_symbol n m _, rfl⟩, renamed_symbol n m _, ?_⟩
  · refine List.rel_map (fun a b hab => ?_) hframes
    rw [hab.others]
    exact ⟨renamed_symbol n m _, rfl⟩
  · exact List.rel_map (fun _ _ hab => ofFrame_renamed n m subsystem hab) hframes
  · exact .cons (prototype ..) (.cons (prototype ..) .nil)
  · exact .cons (prototype ..) (.cons (prototype ..) (.cons (prototype ..) (.cons (prototype ..) .nil)))

theorem ofLayouts_renamed {as bs : List Layout.Protocol}
    (h : List.Forall₂ (Layout.Protocol.Renamed n.lead m.lead) as bs) :
    (ofLayouts ⟨n, includeRoot⟩ as).Renamed n.lead m.lead (ofLayouts ⟨m, includeRoot⟩ bs) := by
  have protocols : List.Forall₂ (Protocol.Renamed n.lead m.lead) (as.map (ofProtocol ⟨n, includeRoot⟩))
      (bs.map (ofProtocol ⟨m, includeRoot⟩)) :=
    List.rel_map (fun _ _ hab => ofProtocol_renamed n m includeRoot hab) h
  have paths : (bs.map (ofProtocol ⟨m, includeRoot⟩)).map (·.header.path) =
      (as.map (ofProtocol ⟨n, includeRoot⟩)).map (·.header.path) :=
    forall₂_map_eq protocols fun _ _ hab => hab.header.path.symm
  refine ⟨⟨renamed_symbol n m _, rfl⟩, ⟨renamed_symbol n m _, ?_⟩, ⟨renamed_symbol n m _, ?_⟩,
    ⟨renamed_symbol n m _, rfl⟩, protocols⟩
  · refine List.rel_map (fun a b hab => ?_) protocols
    rw [hab.subsystem, hab.subsystemId]
    exact ⟨renamed_symbol n m _, rfl⟩
  · simp only [ofLayouts, paths]
    rfl

end

/-! ## Symbols -/

section

variable {old new : String}

theorem forall₂_zip {α β γ δ : Type} {R : α → β → Prop} {S : γ → δ → Prop} {as : List α} {bs : List β} {cs : List γ}
    {ds : List δ} (h : List.Forall₂ R as bs) (h' : List.Forall₂ S cs ds) :
    List.Forall₂ (fun x y => R x.1 y.1 ∧ S x.2 y.2) (as.zip cs) (bs.zip ds) := by
  induction h generalizing cs ds with
  | nil => exact .nil
  | cons hab _ ih =>
    cases h' with
    | nil => exact .nil
    | cons hcd hrest => exact .cons ⟨hab, hcd⟩ (ih hrest)

theorem Field.symbols_renamed {a b : Field} (h : a.Renamed old new b) {x y : Enumerator} (hid : x.Renamed old new y)
    (owner : String → Owner) : List.Forall₂ (RenamedKey old new) (a.symbols x owner) (b.symbols y owner) := by
  refine List.rel_append (List.rel_append (.cons ⟨hid.name, rfl⟩ (.cons ?_ (.cons ?_ .nil))) ?_) ?_
  · exact ⟨h.getter.name, congrArg owner h.getter.role⟩
  · exact ⟨h.setter.name, congrArg owner h.setter.role⟩
  · have enumType := h.enumType
    generalize a.enumType = e, b.enumType = e' at enumType
    cases enumType with
    | none => exact .nil
    | some henum =>
      refine List.rel_append (.cons ⟨henum.typeName, rfl⟩ (List.rel_map (fun v w hvw => ?_) henum.enumerators)) .nil
      rw [hvw.others]
      exact ⟨hvw.name, rfl⟩
  · exact List.rel_map (fun c d hcd => ⟨hcd.name, congrArg owner hcd.role⟩) h.constants

theorem Frame.symbols_renamed {a b : Frame} (h : a.Renamed old new b) {x y : Enumerator} (hid : x.Renamed old new y)
    (document : Files.Path) (subsystem : String) :
    List.Forall₂ (RenamedKey old new) (a.symbols x document subsystem) (b.symbols y document subsystem) := by
  simp only [symbols, h.name, h.sizeConstant.role, h.typeId.role]
  refine List.rel_append (.cons ⟨hid.name, rfl⟩ (.cons ⟨h.typeName, rfl⟩ (.cons ⟨h.sizeConstant.name, rfl⟩
    (.cons ⟨h.typeId.name, rfl⟩ (.cons ⟨h.fieldIds.typeName, rfl⟩ .nil))))) ?_
  refine List.rel_flatMap (forall₂_zip h.fields h.fieldIds.enumerators) fun pair other hpair => ?_
  obtain ⟨hfield, hfieldId⟩ := hpair
  rw [hfield.name]
  exact Field.symbols_renamed hfield hfieldId _

theorem Protocol.symbols_renamed {a b : Protocol} (h : a.Renamed old new b) {x y : Enumerator}
    (hid : x.Renamed old new y) : List.Forall₂ (RenamedKey old new) (a.symbols x) (b.symbols y) := by
  have role : y.role = x.role := by rw [hid.others]
  simp only [symbols, h.document, h.subsystem, role]
  refine List.rel_append (List.rel_append (.cons ⟨hid.name, rfl⟩ (.cons ⟨h.header.guard, rfl⟩
    (.cons ⟨h.instanceHeader.guard, rfl⟩ (.cons ⟨h.frameIds.typeName, rfl⟩ (.cons ⟨h.instanceType, rfl⟩ .nil))))) ?_) ?_
  · exact List.rel_map (fun p q hpq => ⟨hpq.name, congrArg (Owner.ofElement _ _) hpq.role⟩)
      (List.rel_append h.dispatch h.instancePrototypes)
  · exact List.rel_flatMap (forall₂_zip h.frames h.frameIds.enumerators) fun pair other hpair =>
      Frame.symbols_renamed hpair.1 hpair.2 _ _

theorem Renamed.symbols {a b : Outline} (h : a.Renamed old new b) :
    List.Forall₂ (RenamedKey old new) a.symbols b.symbols := by
  refine List.rel_append (.cons ⟨h.common.guard, rfl⟩ (.cons ⟨h.utils.guard, rfl⟩ (.cons ⟨h.subsystemIds.typeName, rfl⟩
    (.cons ⟨h.subsystemCount.name, congrArg Owner.output h.subsystemCount.role⟩ .nil)))) ?_
  exact List.rel_flatMap (forall₂_zip h.protocols h.subsystemIds.enumerators) fun pair other hpair =>
    Protocol.symbols_renamed hpair.1 hpair.2

/-! ## Enumerators -/

theorem Renamed.enumerations {a b : Outline} (h : a.Renamed old new b) :
    List.Forall₂ (Enumeration.Renamed old new) a.enumerations b.enumerations := by
  refine List.rel_append (List.rel_flatMap h.protocols fun p q hpq => .cons hpq.frameIds ?_)
    (.cons h.subsystemIds .nil)
  refine List.rel_flatMap hpq.frames fun f g hfg => List.rel_append ?_ (.cons hfg.fieldIds .nil)
  exact List.rel_filterMap (fun x y hxy => hxy.enumType) hfg.fields

/-- C counts renamed enumerators alike. -/
theorem numbered_renamed {as bs : List Enumerator} (h : List.Forall₂ (Enumerator.Renamed old new) as bs) (next : Nat) :
    List.Forall₂ (RenamedKey old new)
      (C.numbered next (as.map fun v => (v.name, if v.explicit then some v.value else none)))
      (C.numbered next (bs.map fun v => (v.name, if v.explicit then some v.value else none))) := by
  induction h generalizing next with
  | nil => exact .nil
  | @cons a b _ _ hab _ ih =>
    have explicit : b.explicit = a.explicit := by rw [hab.others]
    have value : b.value = a.value := by rw [hab.others]
    simp only [List.map_cons, C.numbered, explicit, value]
    exact .cons ⟨hab.name, rfl⟩ (ih _)

end

end Outline

end StatusFrames
