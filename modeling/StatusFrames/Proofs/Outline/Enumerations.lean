/-
The enumerations of an outline, and how C counts them. Subsystem and frame ids are written with their values, field ids
are counted from zero, and the labels of a field leave out what counting gives anyway. Either way C arrives at the values
that the outline holds, and within one enumeration these differ.
-/
import StatusFrames.Emission.Tree
import StatusFrames.Outline.Drafting
import StatusFrames.Proofs.C.Program
import StatusFrames.Proofs.Compiler.Built
import StatusFrames.Proofs.Layout.Numbering

namespace StatusFrames

/-- All enumerations of an outline, in the order in which headers declare them. -/
def Outline.enumerations (o : Outline) : List Outline.Enumeration :=
  o.protocols.flatMap (fun p =>
    p.frameIds :: p.frames.flatMap fun f => f.fields.filterMap (·.enumType) ++ [f.fieldIds]) ++ [o.subsystemIds]

namespace Outline

section

variable {o : Outline} {p : Protocol} (hp : p ∈ o.protocols)

include hp

theorem frameIds_mem : p.frameIds ∈ o.enumerations :=
  List.mem_append_left _ (List.mem_flatMap.mpr ⟨p, hp, List.mem_cons_self⟩)

variable {f : Frame} (hf : f ∈ p.frames)

include hf

theorem mem_enumerations_of_frame {e : Enumeration} (he : e ∈ f.fields.filterMap (·.enumType) ++ [f.fieldIds]) :
    e ∈ o.enumerations := by
  refine List.mem_append_left _ (List.mem_flatMap.mpr ⟨p, hp, List.mem_cons_of_mem _ ?_⟩)
  exact List.mem_flatMap.mpr ⟨f, hf, he⟩

theorem fieldIds_mem : f.fieldIds ∈ o.enumerations :=
  mem_enumerations_of_frame hp hf (List.mem_append_right _ (List.mem_singleton_self _))

theorem enumType_mem {field : Field} (hfield : field ∈ f.fields) {e : Enumeration} (he : field.enumType = some e) :
    e ∈ o.enumerations :=
  mem_enumerations_of_frame hp hf (List.mem_append_left _ (List.mem_filterMap.mpr ⟨field, hfield, he⟩))

end

theorem subsystemIds_mem (o : Outline) : o.subsystemIds ∈ o.enumerations :=
  List.mem_append_right _ (List.mem_singleton_self _)

/-- C counts an enumeration to the values that the outline has for it, and these differ. -/
structure Enumeration.Counted (e : Enumeration) : Prop where
  numbered : C.enumerators [Emission.enumeration e] = e.enumerators.map fun v => (v.name, v.value)
  distinct : (e.enumerators.map (·.value)).Nodup

theorem enumerators_enumeration (e : Enumeration) :
    C.enumerators [Emission.enumeration e] =
      C.numbered 0 (e.enumerators.map fun v => (v.name, if v.explicit then some v.value else none)) := by
  simp [C.enumerators, Emission.enumeration]

/-! ## Values that are written or counted on -/

/-- Every enumerator whose value is not written is one more than the one before it; the first of them is `next`. -/
def CountsFrom : Nat → List Enumerator → Prop
  | _, [] => True
  | next, v :: rest => (v.explicit = true ∨ v.value = next) ∧ CountsFrom (v.value + 1) rest

theorem CountsFrom.numbered {next : Nat} {es : List Enumerator} (h : CountsFrom next es) :
    C.numbered next (es.map fun v => (v.name, if v.explicit then some v.value else none)) =
      es.map fun v => (v.name, v.value) := by
  induction es generalizing next with
  | nil => rfl
  | cons v rest ih =>
    obtain ⟨hv, hrest⟩ := h
    have hvalue : (if v.explicit then some v.value else none).getD next = v.value := by
      rcases hv with hv | hv
      · simp [hv]
      · cases v.explicit <;> simp [hv]
    simp only [List.map_cons, C.numbered, hvalue, ih hrest]

theorem countsFrom_of_explicit {next : Nat} {es : List Enumerator} (h : ∀ v ∈ es, v.explicit = true) :
    CountsFrom next es := by
  induction es generalizing next with
  | nil => trivial
  | cons v rest ih =>
    obtain ⟨hv, hrest⟩ := List.forall_mem_cons.mp h
    exact ⟨.inl hv, ih hrest⟩

theorem Enumeration.counted_of_countsFrom {e : Enumeration} (h : CountsFrom 0 e.enumerators)
    (hdistinct : (e.enumerators.map (·.value)).Nodup) : e.Counted :=
  ⟨(enumerators_enumeration e).trans h.numbered, hdistinct⟩

theorem nodup_map_toNat {α : Type} {f : α → UInt8} {xs : List α} (h : (xs.map f).Nodup) :
    (xs.map fun x => (f x).toNat).Nodup := by
  have := h.map fun _ _ => UInt8.toNat_inj.mp
  rwa [List.map_map] at this

/-- Ids that are written differ in C if they do so in the document. -/
theorem counted_ids {α : Type} (typeName : String) (xs : List α) (enumerator : α → Enumerator) (id : α → UInt8)
    (hvalue : ∀ x, (enumerator x).value = (id x).toNat) (hexplicit : ∀ x, (enumerator x).explicit = true)
    (hdistinct : (xs.map id).Nodup) : Enumeration.Counted ⟨typeName, xs.map enumerator⟩ := by
  refine Enumeration.counted_of_countsFrom (countsFrom_of_explicit ?_) ?_
  · simp [hexplicit]
  · have distinct := nodup_map_toNat hdistinct
    simpa [Function.comp_def, hvalue] using distinct

/-! ## Field ids -/

section

variable (naming : Naming) (subsystem frame : String)

theorem countsFrom_fieldIds (first : Nat) (fields : List Layout.Field) :
    CountsFrom first (fieldIds naming subsystem frame first fields) := by
  induction fields generalizing first with
  | nil => trivial
  | cons field rest ih => exact ⟨.inr rfl, ih (first + 1)⟩

theorem map_value_fieldIds (first : Nat) (fields : List Layout.Field) :
    (fieldIds naming subsystem frame first fields).map (·.value) = List.range' first fields.length := by
  induction fields generalizing first with
  | nil => rfl
  | cons field rest ih => simp [fieldIds, ih, List.range'_succ]

theorem fieldId_mem {fields : List Layout.Field} {first n : Nat} {field : Layout.Field}
    (h : fields[n]? = some field) :
    ∃ v ∈ fieldIds naming subsystem frame first fields,
      v.name = naming.fieldId subsystem frame field.name ∧ v.value = first + n := by
  induction fields generalizing first n with
  | nil => simp at h
  | cons other rest ih =>
    cases n with
    | zero =>
      obtain rfl : other = field := by simpa using h
      exact ⟨_, List.mem_cons_self, rfl, rfl⟩
    | succ n =>
      have hrest : rest[n]? = some field := by simpa using h
      obtain ⟨v, hv, hname, hvalue⟩ := @ih (first + 1) n hrest
      exact ⟨v, List.mem_cons_of_mem _ hv, hname, by omega⟩

theorem counted_fieldIds (typeName : String) (fields : List Layout.Field) :
    Enumeration.Counted ⟨typeName, fieldIds naming subsystem frame 0 fields⟩ := by
  refine Enumeration.counted_of_countsFrom (countsFrom_fieldIds naming subsystem frame 0 fields) ?_
  rw [map_value_fieldIds]
  exact List.nodup_range'

end

/-! ## Labels -/

theorem counted_labels (p : Place) (typeName : String) {entries : List Document.EnumValue}
    {values : List Layout.EnumValue} (h : Layout.Numbered entries values) : (p.enumeration typeName values).Counted := by
  refine ⟨?_, ?_⟩
  · have numbered := Layout.numbered_enumerators h.numbers h.explicit
      (p.naming.enumLabel p.subsystem p.frame p.field)
    rw [enumerators_enumeration]
    simpa [Place.enumeration, Function.comp_def] using numbered
  · have distinct := nodup_map_toNat h.distinct
    simpa [Place.enumeration, Function.comp_def] using distinct

theorem enumType_ofField (naming : Naming) (subsystem frame : String) {f : Layout.Field} {typeName : String}
    {values : List Layout.EnumValue} (hkind : f.kind = .enumCast typeName values) :
    (ofField naming subsystem frame f).enumType =
      some (Place.enumeration ⟨naming, subsystem, frame, f.name⟩ typeName f.enumValues) := by
  simp [ofField, Layout.Field.enumType?, hkind]

theorem kind_of_mem_enumValues {f : Layout.Field} {v : Layout.EnumValue} (hv : v ∈ f.enumValues) :
    ∃ typeName, f.kind = .enumCast typeName f.enumValues := by
  cases hkind : f.kind with
  | enumCast typeName values => exact ⟨typeName, by rw [Layout.Field.enumValues_eq hkind]⟩
  | native | boolCast | deviceId => simp [Layout.Field.enumValues, Layout.FieldKind.enumValues, hkind] at hv

/-- The labels of an enum field were numbered. -/
theorem numbered_of_enumCast {naming : Naming} {protocol : Document.Protocol} {declared : Document.Frame}
    {frame : Layout.Frame} (h : frame.Placed naming protocol declared) :
    ∀ field ∈ frame.fields, ∀ typeName values, field.kind = .enumCast typeName values →
      ∃ entries, Layout.Numbered entries values := by
  refine h.forall_fields nofun fun d _ entry field hplaced typeName values hkind => ?_
  obtain ⟨hof, numbered⟩ := hplaced.enumeration (hplaced.kind_of_enumCast hkind)
  obtain ⟨-, rfl⟩ := Layout.FieldKind.enumCast.inj (hkind.symm.trans hof)
  exact ⟨_, numbered⟩

theorem counted_ofField {naming : Naming} {subsystem frame : String} {field : Layout.Field}
    (h : ∀ typeName values, field.kind = .enumCast typeName values → ∃ entries, Layout.Numbered entries values) :
    ∀ e ∈ (ofField naming subsystem frame field).enumType, e.Counted := by
  intro e he
  cases hk : field.kind with
  | enumCast typeName values =>
    obtain ⟨entries, numbered⟩ := h typeName values hk
    rw [enumType_ofField naming subsystem frame hk, Layout.Field.enumValues_eq hk] at he
    exact Option.mem_some.mp he ▸ counted_labels _ typeName numbered
  | native | boolCast | deviceId => simp [ofField, Layout.Field.enumType?, hk] at he

/-! ## All enumerations -/

theorem counted_ofProtocol {s : Setting} {d : Document} {p : Layout.Protocol} (hd : d.Accepted)
    (hplaced : p.Placed s.naming d) :
    (ofProtocol s p).frameIds.Counted ∧ ∀ f ∈ (ofProtocol s p).frames,
      f.fieldIds.Counted ∧ ∀ e ∈ f.fields.filterMap (·.enumType), e.Counted := by
  refine ⟨counted_ids _ _ _ Layout.Frame.id (fun _ => rfl) (fun _ => rfl) ?_, ?_⟩
  · rw [forall₂_map_eq hplaced.frames fun _ _ hframe => hframe.id]
    exact hd.wellFormed.distinctIds
  · intro f hf
    obtain ⟨frame, hframe, rfl⟩ := List.mem_map.mp hf
    obtain ⟨declared, -, hframePlaced⟩ := forall₂_mem_right hplaced.frames hframe
    refine ⟨counted_fieldIds s.naming p.subsystem frame.name _ frame.fields, fun e he => ?_⟩
    obtain ⟨x, hx, he⟩ := List.mem_filterMap.mp he
    obtain ⟨field, hfield, rfl⟩ := List.mem_map.mp hx
    exact counted_ofField (numbered_of_enumCast hframePlaced field hfield) e he

theorem counted_of_built {naming : Naming} {documents : List Document} {protocols : List Layout.Protocol}
    (hb : Compiler.Built naming documents protocols) (hd : ∀ d ∈ documents, d.Accepted) (includeRoot : String) :
    ∀ e ∈ (ofLayouts ⟨naming, includeRoot⟩ protocols).enumerations, e.Counted := by
  intro e he
  rcases List.mem_append.mp he with he | he
  · obtain ⟨q, hq, he⟩ := List.mem_flatMap.mp he
    obtain ⟨p, hp, rfl⟩ := List.mem_map.mp hq
    obtain ⟨d, hmem, hplaced⟩ := hb.origin hp
    obtain ⟨hframeIds, hframes⟩ := counted_ofProtocol (s := ⟨naming, includeRoot⟩) (hd d hmem) hplaced
    rcases List.mem_cons.mp he with rfl | he
    · exact hframeIds
    · obtain ⟨f, hf, he⟩ := List.mem_flatMap.mp he
      obtain ⟨hfieldIds, hlabels⟩ := hframes f hf
      rcases List.mem_append.mp he with he | he
      · exact hlabels e he
      · exact List.mem_singleton.mp he ▸ hfieldIds
  · obtain rfl := List.mem_singleton.mp he
    have subsystems := counted_ids naming.subsystemIdType protocols
      (fun p => ⟨naming.subsystemId p.subsystem, p.subsystemId.toNat, true, "subsystem id"⟩)
      Layout.Protocol.subsystemId (fun _ => rfl) (fun _ => rfl) hb.distinctIds
    simpa [ofLayouts, ofProtocol, Function.comp_def] using subsystems

end Outline

end StatusFrames
