/-
The names that a protocol uses. Whatever stands in the constants of a field and in the types of its functions is a word
of C's own, the struct of its frame, or comes from the field's own enumeration. Frames need the ids of their subsystem
and their own besides, and what belongs to the protocol as a whole needs its frames.
-/
import StatusFrames.Emission.Tree
import StatusFrames.Proofs.C.Numerals
import StatusFrames.Proofs.C.Scope
import StatusFrames.Proofs.Naming.Symbols
import StatusFrames.Proofs.Outline.Constants
import StatusFrames.Proofs.Outline.Enumerations
import StatusFrames.Proofs.Outline.Registered

namespace StatusFrames

namespace Outline

open Layout (Domain)

/-- A name that a field may use: the field's enumeration is all that it needs. -/
def Field.Own (f : Field) (name : String) : Prop := name ∈ C.ownWords ∨ ∃ e ∈ f.enumType, name ∈ e.names

/-! ## Constants -/

theorem names_literal (p : Place) {d : Domain} {literal : Literal} (h : d.check literal = .ok ())
    (hlabels : ∀ v ∈ d.enumValues,
      Text.isIdentifier (p.naming.enumLabel p.subsystem p.frame p.field v.label) = true) :
    ∀ name ∈ C.names (p.literal literal), name ∈ C.ownWords ∨
      ∃ v ∈ d.enumValues, name = p.naming.enumLabel p.subsystem p.frame p.field v.label := by
  intro name hname
  cases literal with
  | bool b =>
    refine .inl ?_
    cases b with
    | true =>
      have words : ∀ name ∈ C.names "true", name ∈ C.ownWords := by decide
      exact words name hname
    | false =>
      have words : ∀ name ∈ C.names "false", name ∈ C.ownWords := by decide
      exact words name hname
  | integer i =>
    have none : C.names (p.literal (.integer i)) = [] := C.names_integer i
    rw [none] at hname
    cases hname
  | unsigned n =>
    have none : C.names (p.literal (.unsigned n)) = [] := C.names_unsigned n
    rw [none] at hname
    cases hname
  | float x =>
    have none : C.names (p.literal (.float x)) = [] := C.names_write _ (Domain.isFinite_of_check h)
    rw [none] at hname
    cases hname
  | label label =>
    obtain ⟨v, hv, rfl⟩ := Domain.label_of_check h
    have one : C.names (p.literal (.label v.label)) = [p.naming.enumLabel p.subsystem p.frame p.field v.label] :=
      C.names_eq_singleton (hlabels v hv)
    rw [one] at hname
    exact .inr ⟨v, hv, List.mem_singleton.mp hname⟩

/-- A constant holds a literal that was admitted, or a text. -/
def Constant.From (p : Place) (d : Domain) (c : Constant) : Prop :=
  (∃ literal, d.check literal = .ok () ∧ c.value = p.literal literal) ∨ ∃ text, c.value = Text.quoted text

theorem checkConstants_from {p : Place} {d : Domain} {position : Nat} {check : Document.HealthCheck}
    {placed : Layout.HealthCheck} (h : Layout.healthCheck d check = .ok placed) :
    ∀ c ∈ p.checkConstants position placed, c.From p d := by
  obtain ⟨condition, hcondition, rfl⟩ := Layout.healthCheck_eq_ok.mp h
  intro c hc
  have text : ∀ (name role : String) (text : Option String),
      c ∈ (text.map fun text => (⟨name, Text.quoted text, role⟩ : Constant)).toList → c.From p d := by
    intro name role text hc
    cases text with
    | none => cases hc
    | some text =>
      rw [List.mem_singleton.mp hc]
      exact .inr ⟨text, rfl⟩
  rcases List.mem_append.mp hc with hc | hc
  · rcases List.mem_append.mp hc with hc | hc
    · rcases Domain.condition_eq_ok.mp hcondition with
        ⟨value, -, -, -, -, hvalue, rfl⟩ | ⟨low, high, -, -, -, -, hlow, hhigh, -, rfl⟩
      · rw [List.mem_singleton.mp hc]
        exact .inl ⟨value, hvalue, rfl⟩
      · rcases List.mem_cons.mp hc with rfl | hc
        · exact .inl ⟨low, hlow, rfl⟩
        · rw [List.mem_singleton.mp hc]
          exact .inl ⟨high, hhigh, rfl⟩
    · exact text _ _ _ hc
  · exact text _ _ _ hc

theorem allCheckConstants_from {p : Place} {d : Domain} {position : Nat} {checks : List Document.HealthCheck}
    {placed : List Layout.HealthCheck}
    (h : List.Forall₂ (fun check placed => Layout.healthCheck d check = .ok placed) checks placed) :
    ∀ c ∈ p.allCheckConstants position placed, c.From p d := by
  induction h generalizing position with
  | nil => nofun
  | cons hcheck _ ih => exact List.forall_mem_append.mpr ⟨checkConstants_from hcheck, ih⟩

section

variable {scope : Layout.Scope} {entry : TypeEntry} {declared : Document.Field} {f : Layout.Field}
  (h : f.Placed scope entry declared)

include h

theorem constants_from :
    ∀ c ∈ (ofField scope.naming scope.subsystem scope.frame f).constants,
      c.From ⟨scope.naming, scope.subsystem, scope.frame, f.name⟩ (f.domain entry) := by
  refine List.forall_mem_append.mpr ⟨fun c hc => ?_, allCheckConstants_from h.healthChecks⟩
  obtain ⟨literal, hliteral, rfl⟩ := Option.mem_map.mp (Option.mem_toList.mp hc)
  rw [h.initial] at hliteral
  exact .inl ⟨literal, h.admitted literal hliteral, rfl⟩

end

/-! ## Fields -/

/-- All that a field needs besides the struct of its frame is its own. -/
structure Field.SelfContained (frameType : String) (f : Field) : Prop where
  storage : ∀ name ∈ C.names f.storageType, name ∈ C.ownWords
  constants : ∀ c ∈ f.constants, ∀ name ∈ C.names c.value, f.Own name
  getter : ∀ name ∈ (Emission.prototype f.getter).uses, f.Own name ∨ name = frameType
  setter : ∀ name ∈ (Emission.prototype f.setter).uses, f.Own name ∨ name = frameType

theorem numberType_isIdentifier {type : String} (h : type ∈ C.numberTypes.map (·.name)) :
    Text.isIdentifier type = true := by
  have table : ∀ type ∈ C.numberTypes.map (·.name), Text.isIdentifier type = true := by decide
  exact table type h

theorem numberType_ownWord {type : String} (h : type ∈ C.numberTypes.map (·.name)) : type ∈ C.ownWords :=
  List.mem_append_right _ h

section

variable (naming : Naming) (subsystem frame : String) {f : Layout.Field}
  (hstorage : f.storageType ∈ C.numberTypes.map (·.name))
  (htype : ∀ typeName values, f.kind = .enumCast typeName values → Text.isIdentifier typeName = true)

include hstorage htype

/-- The type that the functions of a field use. -/
theorem apiType_own :
    Text.isIdentifier (apiType f) = true ∧ (ofField naming subsystem frame f).Own (apiType f) := by
  cases hk : f.kind with
  | boolCast =>
    have api : apiType f = "bool" := by simp [apiType, hk]
    rw [api]
    exact ⟨by decide, .inl (by decide)⟩
  | enumCast typeName values =>
    have api : apiType f = typeName := by simp [apiType, hk]
    rw [api]
    exact ⟨htype typeName values hk, .inr ⟨_, enumType_ofField naming subsystem frame hk, List.mem_cons_self⟩⟩
  | native | deviceId =>
    have api : apiType f = f.storageType := by simp [apiType, hk]
    rw [api]
    exact ⟨numberType_isIdentifier hstorage, .inl (numberType_ownWord hstorage)⟩

theorem selfContained_ofField (hframe : Text.isIdentifier (naming.frameType subsystem frame) = true)
    (hconstants : ∀ c ∈ (ofField naming subsystem frame f).constants, ∀ name ∈ C.names c.value,
      (ofField naming subsystem frame f).Own name) :
    (ofField naming subsystem frame f).SelfContained (naming.frameType subsystem frame) := by
  obtain ⟨hapi, hown⟩ := apiType_own naming subsystem frame hstorage htype
  have storage : C.names f.storageType = [f.storageType] := C.names_eq_singleton (numberType_isIdentifier hstorage)
  have getter : (Emission.prototype (ofField naming subsystem frame f).getter).uses =
      [apiType f, "const", naming.frameType subsystem frame] := by
    have param := C.names_constParameter hframe (by decide : C.Apart " *frame") (by decide)
    simp only [Emission.prototype, Declaration.uses, ofField, List.flatMap_cons, List.flatMap_nil, param,
      C.names_eq_singleton hapi]
    rfl
  have setter : (Emission.prototype (ofField naming subsystem frame f).setter).uses =
      ["void", naming.frameType subsystem frame, apiType f] := by
    have void : C.names "void" = ["void"] := by decide
    have param := C.names_parameter hframe (by decide : C.Apart " *frame") (by decide)
    have value := C.names_parameter hapi (by decide : C.Apart " value") (by decide)
    simp only [Emission.prototype, Declaration.uses, ofField, List.flatMap_cons, List.flatMap_nil, void, param, value]
    rfl
  refine ⟨?_, hconstants, ?_, ?_⟩
  · intro name hname
    obtain rfl : name = f.storageType := List.mem_singleton.mp (storage ▸ hname)
    exact numberType_ownWord hstorage
  · rw [getter]
    exact List.forall_mem_cons.mpr ⟨.inl hown,
      List.forall_mem_cons.mpr ⟨.inl (.inl (by decide)), List.forall_mem_singleton.mpr (.inr rfl)⟩⟩
  · rw [setter]
    exact List.forall_mem_cons.mpr ⟨.inl (.inl (by decide)),
      List.forall_mem_cons.mpr ⟨.inr rfl, List.forall_mem_singleton.mpr (.inl hown)⟩⟩

end

theorem label_mem_names (p : Place) (typeName : String) {values : List Layout.EnumValue} {v : Layout.EnumValue}
    (hv : v ∈ values) :
    p.naming.enumLabel p.subsystem p.frame p.field v.label ∈ (p.enumeration typeName values).names := by
  refine List.mem_cons_of_mem _ ?_
  rw [Place.enumeration, List.map_map]
  exact List.mem_map_of_mem hv

section

variable {naming : Naming} {subsystem frame : String} (hlead : Text.isIdentifier naming.lead = true)
  (hsubsystem : Text.isIdentifier subsystem = true) (hframe : Text.isIdentifier frame = true) {multiDevice : Bool}
  {entry : TypeEntry} {declared : Document.Field} {f : Layout.Field} (hwf : declared.WellFormed multiDevice)
  (hplaced : f.Placed ⟨naming, subsystem, frame⟩ entry declared)

include hlead hsubsystem hframe hwf hplaced

theorem enumType_isIdentifier_of_placed {typeName : String} {values : List Layout.EnumValue}
    (hkind : f.kind = .enumCast typeName values) : Text.isIdentifier typeName = true := by
  obtain ⟨hof, -⟩ := hplaced.enumeration (hplaced.kind_of_enumCast hkind)
  obtain ⟨rfl, -⟩ := Layout.FieldKind.enumCast.inj (hkind.symm.trans hof)
  exact Naming.enumType_isIdentifier hlead hsubsystem hframe hwf.name

theorem enumLabel_isIdentifier_of_placed {v : Layout.EnumValue} (hv : v ∈ f.enumValues) :
    Text.isIdentifier (naming.enumLabel subsystem frame f.name v.label) = true := by
  obtain ⟨typeName, hkind⟩ := kind_of_mem_enumValues hv
  obtain ⟨-, numbered⟩ := hplaced.enumeration (hplaced.kind_of_enumCast hkind)
  obtain ⟨e, he, hlabel⟩ := List.mem_map.mp (numbered.label_mem hv)
  rw [hplaced.name]
  exact Naming.enumLabel_isIdentifier hlead hsubsystem hframe hwf.name (hlabel ▸ hwf.labels e he)

theorem constants_own : ∀ c ∈ (ofField naming subsystem frame f).constants, ∀ name ∈ C.names c.value,
    (ofField naming subsystem frame f).Own name := by
  intro c hc name hname
  rcases constants_from hplaced c hc with ⟨literal, hcheck, hvalue⟩ | ⟨text, hvalue⟩
  · rw [hvalue] at hname
    refine (names_literal ⟨naming, subsystem, frame, f.name⟩ hcheck (fun v hv => ?_) name hname).imp_right ?_
    · exact enumLabel_isIdentifier_of_placed hlead hsubsystem hframe hwf hplaced hv
    · rintro ⟨v, hv, rfl⟩
      obtain ⟨typeName, hkind⟩ := kind_of_mem_enumValues hv
      exact ⟨_, enumType_ofField naming subsystem frame hkind,
        label_mem_names ⟨naming, subsystem, frame, f.name⟩ typeName hv⟩
  · rw [hvalue, C.names_quoted] at hname
    cases hname

end

theorem numberType_of_sizeOf? {type : String} {width : Nat} (h : C.sizeOf? type = some width) :
    type ∈ C.numberTypes.map (·.name) := by
  obtain ⟨entry, hentry, -⟩ := Option.map_eq_some_iff.mp h
  have hname : entry.name = type := by simpa using List.find?_some hentry
  exact List.mem_map.mpr ⟨entry, List.mem_of_find?_eq_some hentry, hname⟩

/-- All fields of a frame that was placed, the device id included. -/
theorem selfContained_of_placed {naming : Naming} {protocol : Document.Protocol} {declared : Document.Frame}
    {frame : Layout.Frame} (hlead : Text.isIdentifier naming.lead = true)
    (hsubsystem : Text.isIdentifier protocol.subsystem = true) (hwf : declared.WellFormed protocol.multiDevice)
    (hplaced : frame.Placed naming protocol declared) :
    ∀ field ∈ frame.fields, (ofField naming protocol.subsystem frame.name field).SelfContained
      (naming.frameType protocol.subsystem frame.name) := by
  rw [hplaced.name]
  have htype := Naming.frameType_isIdentifier hlead hsubsystem hwf.name
  refine hplaced.forall_fields ?_ fun d hmem entry field hfield => ?_
  · exact selfContained_ofField naming protocol.subsystem declared.name (by decide) nofun htype nofun
  · have hsize := Registry.sizeOf?_storage hfield.type hfield.storageType hfield.width
    exact selfContained_ofField naming protocol.subsystem declared.name (numberType_of_sizeOf? hsize.1)
      (fun _ _ => enumType_isIdentifier_of_placed hlead hsubsystem hwf.name (hwf.fields d hmem) hfield) htype
      (constants_own hlead hsubsystem hwf.name (hwf.fields d hmem) hfield)

/-! ## Frames and protocols -/

/-- All that a frame needs besides two ids is its own. -/
structure Frame.SelfContained (subsystemId frameId : String) (f : Frame) : Prop where
  fields : ∀ x ∈ f.fields, x.SelfContained f.typeName
  size : C.names f.sizeConstant.value = []
  assertion : C.names ("sizeof(" ++ f.typeName ++ ") == " ++ f.sizeConstant.name) =
    ["sizeof", f.typeName, f.sizeConstant.name]
  typeId : C.names f.typeId.value = ["uint16_t", subsystemId, frameId]

/-- All that a protocol needs besides the id of its subsystem is its own. -/
structure Protocol.SelfContained (subsystemId : String) (p : Protocol) : Prop where
  frames : ∀ f ∈ p.frames, ∃ v ∈ p.frameIds.enumerators, f.SelfContained subsystemId v.name
  members : ∀ m ∈ p.instanceOutline.members, ∀ name ∈ C.names m.frameType, ∃ f ∈ p.frames, name = f.typeName
  clock : ∀ name ∈ C.names p.instanceOutline.clockType, name ∈ C.ownWords
  prototypes : ∀ x ∈ p.instanceOutline.prototypes,
    (Emission.prototype x).uses ⊆ p.instanceOutline.typeName :: p.frameIds.typeName :: C.ownWords
  dispatch : ∀ x ∈ p.dispatch, (Emission.prototype x).uses ⊆ p.frameIds.typeName :: C.ownWords

theorem selfContained_ofFrame {naming : Naming} {protocol : Document.Protocol} {declared : Document.Frame}
    {frame : Layout.Frame} (hlead : Text.isIdentifier naming.lead = true)
    (hsubsystem : Text.isIdentifier protocol.subsystem = true) (hwf : declared.WellFormed protocol.multiDevice)
    (hplaced : frame.Placed naming protocol declared) :
    (ofFrame naming protocol.subsystem frame).SelfContained (naming.subsystemId protocol.subsystem)
      (naming.frameId protocol.subsystem frame.name) := by
  have hname : Text.isIdentifier frame.name = true := hplaced.name ▸ hwf.name
  have fields := selfContained_of_placed hlead hsubsystem hwf hplaced
  refine ⟨List.forall_mem_map.mpr fields, C.names_nat frame.size, ?_, ?_⟩
  · exact C.names_sizeAssert (Naming.frameType_isIdentifier hlead hsubsystem hname)
      (Naming.frameSize_isIdentifier hlead hsubsystem hname)
  · exact C.names_packed (Naming.subsystemId_isIdentifier hlead hsubsystem)
      (Naming.frameId_isIdentifier hlead hsubsystem hname)

theorem uses_prototype_subset {returnType name role : String} {params known : List String}
    (hreturn : C.names returnType ⊆ known) (hparams : ∀ param ∈ params, (C.names param).dropLast ⊆ known) :
    (Emission.prototype ⟨returnType, name, params, role⟩).uses ⊆ known := by
  refine List.append_subset.mpr ⟨hreturn, fun n hn => ?_⟩
  obtain ⟨param, hparam, hn⟩ := List.mem_flatMap.mp hn
  exact hparams param hparam hn

section

variable {naming : Naming} {subsystem : String} (hid : Text.isIdentifier (naming.frameIdType subsystem) = true)

include hid

theorem instancePrototypes_uses (htype : Text.isIdentifier (naming.instanceType subsystem) = true) :
    ∀ x ∈ instancePrototypes naming subsystem,
      (Emission.prototype x).uses ⊆ naming.instanceType subsystem :: naming.frameIdType subsystem :: C.ownWords := by
  generalize hknown : naming.instanceType subsystem :: naming.frameIdType subsystem :: C.ownWords = known
  have pointer : (C.names (naming.instanceType subsystem ++ " *instance")).dropLast ⊆ known := by
    rw [C.names_parameter htype (by decide) (by decide), ← hknown]
    simp
  have constPointer : (C.names ("const " ++ naming.instanceType subsystem ++ " *instance")).dropLast ⊆ known := by
    rw [C.names_constParameter htype (by decide) (by decide), ← hknown]
    simp [C.ownWords]
  have frameId : (C.names (naming.frameIdType subsystem ++ " frame_id")).dropLast ⊆ known := by
    rw [C.names_parameter hid (by decide) (by decide), ← hknown]
    simp
  have own : ∀ {names : List String}, (∀ n ∈ names, n ∈ C.ownWords) → names ⊆ known :=
    fun h n hn => hknown ▸ List.mem_cons_of_mem _ (List.mem_cons_of_mem _ (h n hn))
  refine List.forall_mem_cons.mpr ⟨?_, List.forall_mem_cons.mpr ⟨?_, List.forall_mem_cons.mpr ⟨?_,
    List.forall_mem_singleton.mpr ?_⟩⟩⟩
  · exact uses_prototype_subset (own (by decide)) (List.forall_mem_singleton.mpr pointer)
  · exact uses_prototype_subset (own (by decide)) (List.forall_mem_cons.mpr ⟨pointer, List.forall_mem_cons.mpr
      ⟨frameId, List.forall_mem_cons.mpr ⟨own (by decide), List.forall_mem_singleton.mpr (own (by decide))⟩⟩⟩)
  · exact uses_prototype_subset (own (by decide)) (List.forall_mem_cons.mpr ⟨pointer,
      List.forall_mem_singleton.mpr (own (by decide))⟩)
  · exact uses_prototype_subset (own (by decide)) (List.forall_mem_cons.mpr ⟨constPointer,
      List.forall_mem_singleton.mpr frameId⟩)

theorem dispatch_uses (sizeLookup idCheck sizeRole idRole : String) :
    ∀ x ∈ ([⟨"size_t", sizeLookup, [naming.frameIdType subsystem ++ " frame_id"], sizeRole⟩,
      ⟨"bool", idCheck, ["uint16_t type_id"], idRole⟩] : List Prototype),
      (Emission.prototype x).uses ⊆ naming.frameIdType subsystem :: C.ownWords := by
  have own : ∀ {names : List String}, (∀ n ∈ names, n ∈ C.ownWords) →
      names ⊆ naming.frameIdType subsystem :: C.ownWords := fun h n hn => List.mem_cons_of_mem _ (h n hn)
  have frameId : (C.names (naming.frameIdType subsystem ++ " frame_id")).dropLast ⊆
      naming.frameIdType subsystem :: C.ownWords := by
    rw [C.names_parameter hid (by decide) (by decide)]
    simp
  refine List.forall_mem_cons.mpr ⟨?_, List.forall_mem_singleton.mpr ?_⟩
  · exact uses_prototype_subset (own (by decide)) (List.forall_mem_singleton.mpr frameId)
  · exact uses_prototype_subset (own (by decide)) (List.forall_mem_singleton.mpr (own (by decide)))

end

theorem selfContained_ofProtocol {s : Setting} {d : Document} {p : Layout.Protocol}
    (hlead : Text.isIdentifier s.naming.lead = true) (hd : d.Accepted) (hplaced : p.Placed s.naming d) :
    (ofProtocol s p).SelfContained (s.naming.subsystemId p.subsystem) := by
  have wellFormed := hd.wellFormed
  have hsubsystem : Text.isIdentifier p.subsystem = true := hplaced.subsystem ▸ wellFormed.subsystem
  have hid := Naming.frameIdType_isIdentifier hlead hsubsystem
  refine ⟨?_, ?_, ?_, ?_, ?_⟩
  · intro f hf
    obtain ⟨frame, hframe, rfl⟩ := List.mem_map.mp hf
    obtain ⟨declared, hdeclared, hframePlaced⟩ := forall₂_mem_right hplaced.frames hframe
    refine ⟨_, List.mem_map.mpr ⟨frame, hframe, rfl⟩, ?_⟩
    rw [hplaced.subsystem]
    exact selfContained_ofFrame hlead wellFormed.subsystem (wellFormed.frames declared hdeclared) hframePlaced
  · intro m hm name hname
    obtain ⟨frame, hframe, rfl⟩ := List.mem_map.mp hm
    obtain ⟨declared, hdeclared, hframePlaced⟩ := forall₂_mem_right hplaced.frames hframe
    have hframeName : Text.isIdentifier frame.name = true :=
      hframePlaced.name ▸ (wellFormed.frames declared hdeclared).name
    have one := C.names_eq_singleton (Naming.frameType_isIdentifier hlead hsubsystem hframeName)
    exact ⟨_, List.mem_map.mpr ⟨frame, hframe, rfl⟩, List.mem_singleton.mp (one ▸ hname)⟩
  · exact (by decide : ∀ name ∈ C.names clockType, name ∈ C.ownWords)
  · exact instancePrototypes_uses hid (Naming.instanceType_isIdentifier hlead hsubsystem)
  · exact dispatch_uses hid _ _ _ _

end Outline

end StatusFrames
