/-
Nothing of an outline breaks the line it stands on: names are made of letters and digits, numbers of digits and signs,
and texts are quoted.
-/
import StatusFrames.Proofs.Outline.Identifiers
import StatusFrames.Proofs.Text.Lines

namespace StatusFrames

open Text (OneLine)

/-! ## Numbers -/

namespace Decimal

theorem break_not_mem_positionalText {digits : List Char} (h : '\n' ∉ digits) (point : Int) :
    '\n' ∉ positionalText digits point := by
  unfold positionalText
  split
  · simp [h]
  split
  · simp [h]
  · have front : '\n' ∉ digits.take point.toNat := fun hmem => h (List.mem_of_mem_take hmem)
    have back : '\n' ∉ digits.drop point.toNat := fun hmem => h (List.mem_of_mem_drop hmem)
    simp [front, back]

theorem break_not_mem_toDigits (n : Nat) : '\n' ∉ Nat.toDigits 10 n :=
  fun hmem => absurd (C.isDigit_of_mem_toDigits _ hmem) (by decide)

theorem break_not_mem_scientificText {digits : List Char} (h : '\n' ∉ digits) (plusSign : Bool) (point : Int) :
    '\n' ∉ scientificText plusSign digits point := by
  have sign : '\n' ∉ (if point - 1 < 0 then ['-'] else if plusSign then ['+'] else []) := by
    split
    · decide
    split <;> decide
  have exponent := break_not_mem_toDigits (point - 1).natAbs
  rcases digits with _ | ⟨d, _ | ⟨e, rest⟩⟩
  all_goals
    simp only [scientificText, List.mem_append, not_or]
    refine ⟨⟨⟨?_, by decide⟩, sign⟩, exponent⟩
  · simp
  · exact h
  · simpa using h

theorem oneLine_write (style : Style) (x : Float) : OneLine (style.write x) := by
  have signed : ∀ (negative : Prop) [Decidable negative] {cs : List Char}, '\n' ∉ cs →
      OneLine (String.ofList ((if negative then [] else ['-']) ++ cs)) := by
    intro negative _ cs hcs
    rw [OneLine, String.toList_ofList]
    split <;> simp [hcs]
  unfold Style.write
  dsimp only
  split
  · decide
  split
  · exact signed _ (by decide)
  split
  · exact signed _ (by decide)
  · refine signed _ ?_
    unfold Style.unsigned
    dsimp only
    split
    · exact break_not_mem_positionalText (break_not_mem_toDigits _) _
    split
    · decide
    split
    · exact break_not_mem_positionalText (break_not_mem_toDigits _) _
    · exact break_not_mem_scientificText (break_not_mem_toDigits _) _ _

end Decimal

/-! ## Names -/

theorem Naming.symbol_ne_typedef (n : Naming) (parts : List String) : n.symbol parts ≠ "typedef" := by
  intro h
  have underscore : '_' ∈ (n.symbol parts).toList := by simp [symbol]
  rw [h] at underscore
  exact absurd underscore (by decide)

namespace Outline

open Naming (Part)

/-! ## Constants -/

theorem oneLine_literal (p : Place) {d : Layout.Domain} {literal : Literal} (h : d.check literal = .ok ())
    (hlabels : ∀ v ∈ d.enumValues, Text.isIdentifier (p.naming.enumLabel p.subsystem p.frame p.field v.label) = true) :
    OneLine (p.literal literal) := by
  cases literal with
  | bool b =>
    show OneLine (Literal.bool b).source
    cases b <;> decide
  | integer i =>
    simp only [Place.literal, Literal.source]
    split
    · decide
    cases i with
    | ofNat n => exact Text.oneLine_repr n
    | negSucc n =>
      have text : toString (Int.negSucc n) = "-" ++ toString (n + 1) := rfl
      rw [text]
      simp +decide
  | unsigned n => simp +decide [Place.literal, Literal.source]
  | float x => exact Decimal.oneLine_write _ x
  | label label =>
    obtain ⟨v, hv, rfl⟩ := Layout.Domain.label_of_check h
    exact Text.oneLine_of_isIdentifier (hlabels v hv)

/-! ## What has a line of its own -/

structure Prototype.OnLine (p : Prototype) : Prop where
  returnType : Text.isIdentifier p.returnType = true
  /-- It would start like a struct. -/
  notTypedef : p.returnType ≠ "typedef"
  name : OneLine p.name
  params : ∀ param ∈ p.params, OneLine param

structure Constant.OnLine (c : Constant) : Prop where
  name : OneLine c.name
  value : OneLine c.value

structure Enumeration.OnLines (e : Enumeration) : Prop where
  typeName : OneLine e.typeName
  enumerators : ∀ v ∈ e.enumerators, OneLine v.name

structure Field.OnLines (f : Field) : Prop where
  name : OneLine f.name
  storageType : Text.isIdentifier f.storageType = true
  enumType : ∀ e ∈ f.enumType, e.OnLines
  constants : ∀ c ∈ f.constants, c.OnLine
  getter : f.getter.OnLine
  setter : f.setter.OnLine

structure Frame.OnLines (f : Frame) : Prop where
  name : OneLine f.name
  typeName : OneLine f.typeName
  fields : ∀ x ∈ f.fields, x.OnLines
  sizeConstant : f.sizeConstant.OnLine
  typeId : f.typeId.OnLine
  fieldIds : f.fieldIds.OnLines

structure Header.OnLines (h : Header) : Prop where
  guard : OneLine h.guard
  systemIncludes : ∀ path ∈ h.systemIncludes, OneLine path
  includes : ∀ path ∈ h.includes, OneLine path

structure Protocol.OnLines (p : Protocol) : Prop where
  subsystem : OneLine p.subsystem
  guard : OneLine p.header.guard
  frameIds : p.frameIds.OnLines
  frames : ∀ f ∈ p.frames, f.OnLines

section

variable {naming : Naming} {subsystem frame : String} (hlead : Text.isIdentifier naming.lead = true)
  (hsubsystem : Text.isIdentifier subsystem = true) (hframe : Text.isIdentifier frame = true)

include hlead

theorem oneLine_of_parts {parts : List String} (h : ∀ part ∈ parts, Part part) : OneLine (naming.symbol parts) :=
  Text.oneLine_of_isIdentifier (isIdentifier_of_parts hlead h)

include hsubsystem hframe

/-- A field whose own names and constants do not break lines. -/
theorem onLines_ofField {f : Layout.Field} (hname : Text.isIdentifier f.name = true)
    (hstorage : f.storageType ∈ C.numberTypes.map (·.name))
    (htype : ∀ typeName values, f.kind = .enumCast typeName values →
      typeName = naming.enumType subsystem frame f.name)
    (hlabels : ∀ v ∈ f.enumValues, Text.isIdentifier (naming.enumLabel subsystem frame f.name v.label) = true)
    (hconstants : ∀ c ∈ (ofField naming subsystem frame f).constants, c.OnLine) :
    (ofField naming subsystem frame f).OnLines := by
  have frameType := Text.oneLine_of_isIdentifier (Naming.frameType_isIdentifier hlead hsubsystem hframe)
  have enumType := Naming.enumType_isIdentifier hlead hsubsystem hframe hname
  obtain ⟨hapi, -⟩ := apiType_own naming subsystem frame hstorage fun typeName values hk =>
    htype typeName values hk ▸ enumType
  have void : Text.isIdentifier "void" = true ∧ "void" ≠ "typedef" := by decide
  have notTypedef : apiType f ≠ "typedef" := by
    have numbers : ∀ type ∈ C.numberTypes.map (·.name), type ≠ "typedef" := by decide
    cases hk : f.kind with
    | boolCast => simp [apiType, hk]
    | enumCast typeName values =>
      rw [apiType, hk, htype typeName values hk]
      exact Naming.symbol_ne_typedef _ _
    | native | deviceId =>
      rw [apiType, hk]
      exact numbers _ hstorage
  refine ⟨Text.oneLine_of_isIdentifier hname, numberType_isIdentifier hstorage, fun e he => ?_, hconstants, ?_, ?_⟩
  · cases hk : f.kind with
    | enumCast typeName values =>
      have hvalues := Layout.Field.enumValues_eq hk
      simp only [ofField, Layout.Field.enumType?, hvalues, hk, Option.map_some, Option.mem_some_iff] at he
      rw [hvalues] at hlabels
      obtain rfl := he
      refine ⟨Text.oneLine_of_isIdentifier (htype typeName values hk ▸ enumType), List.forall_mem_map.mpr fun v hv => ?_⟩
      exact Text.oneLine_of_isIdentifier (hlabels v hv)
    | native | boolCast | deviceId => simp [ofField, Layout.Field.enumType?, hk] at he
  · refine ⟨hapi, notTypedef, oneLine_of_parts hlead ?_, List.forall_mem_singleton.mpr ?_⟩
    · exact List.forall_mem_cons.mpr ⟨.fixed (by decide), List.forall_mem_cons.mpr ⟨.camel hsubsystem,
        List.forall_mem_cons.mpr ⟨.camel hframe, List.forall_mem_singleton.mpr (.camel hname)⟩⟩⟩
    · simp +decide [frameType]
  · refine ⟨void.1, void.2, oneLine_of_parts hlead ?_, List.forall_mem_cons.mpr ⟨?_, List.forall_mem_singleton.mpr ?_⟩⟩
    · exact List.forall_mem_cons.mpr ⟨.fixed (by decide), List.forall_mem_cons.mpr ⟨.camel hsubsystem,
        List.forall_mem_cons.mpr ⟨.camel hframe, List.forall_mem_singleton.mpr (.camel hname)⟩⟩⟩
    · simp +decide [frameType]
    · simp +decide [Text.oneLine_of_isIdentifier hapi]

end

section

variable {naming : Naming} {protocol : Document.Protocol} {declared : Document.Frame} {f : Layout.Frame}
  (hlead : Text.isIdentifier naming.lead = true) (hsubsystem : Text.isIdentifier protocol.subsystem = true)
  (hwf : declared.WellFormed protocol.multiDevice) (hplaced : f.Placed naming protocol declared)

include hlead hsubsystem hwf

theorem onLine_constants {d : Document.Field} (hd : d ∈ declared.fields) {entry : TypeEntry} {x : Layout.Field}
    (hx : x.Placed ⟨naming, protocol.subsystem, declared.name⟩ entry d) :
    ∀ c ∈ (ofField naming protocol.subsystem declared.name x).constants, c.OnLine := by
  have hwell := hwf.fields d hd
  intro c hc
  refine ⟨Text.oneLine_of_isIdentifier (constants_isIdentifier hlead hsubsystem hwf.name hwell hx c hc), ?_⟩
  rcases constants_from hx c hc with ⟨literal, hcheck, hvalue⟩ | ⟨text, hvalue⟩
  · rw [hvalue]
    exact oneLine_literal _ hcheck fun v hv =>
      enumLabel_isIdentifier_of_placed hlead hsubsystem hwf.name hwell hx hv
  · rw [hvalue]
    exact Text.oneLine_quoted text

include hplaced

theorem onLines_fields : ∀ x ∈ f.fields, (ofField naming protocol.subsystem declared.name x).OnLines := by
  refine hplaced.forall_fields ?_ fun d hd entry x hx => ?_
  · exact onLines_ofField hlead hsubsystem hwf.name (by decide) (by decide) nofun nofun nofun
  · have hwell := hwf.fields d hd
    have hsize := Registry.sizeOf?_storage hx.type hx.storageType hx.width
    refine onLines_ofField hlead hsubsystem hwf.name (hx.name ▸ hwell.name) (numberType_of_sizeOf? hsize.1) ?_ ?_
      (onLine_constants hlead hsubsystem hwf hd hx)
    · intro typeName values hkind
      obtain ⟨hof, -⟩ := hx.enumeration (hx.kind_of_enumCast hkind)
      obtain ⟨rfl, -⟩ := Layout.FieldKind.enumCast.inj (hkind.symm.trans hof)
      rw [hx.name]
    · exact fun v hv => enumLabel_isIdentifier_of_placed hlead hsubsystem hwf.name hwell hx hv

theorem onLines_ofFrame : (ofFrame naming protocol.subsystem f).OnLines := by
  have hname : Text.isIdentifier f.name = true := hplaced.name ▸ hwf.name
  have ids := fieldIds_isIdentifier hlead hsubsystem hname 0 (fieldName_isIdentifier hwf hplaced)
  have subsystemId := Text.oneLine_of_isIdentifier (Naming.subsystemId_isIdentifier hlead hsubsystem)
  have frameId := Text.oneLine_of_isIdentifier (Naming.frameId_isIdentifier hlead hsubsystem hname)
  refine ⟨Text.oneLine_of_isIdentifier hname,
    Text.oneLine_of_isIdentifier (Naming.frameType_isIdentifier hlead hsubsystem hname),
    List.forall_mem_map.mpr (hplaced.name ▸ onLines_fields hlead hsubsystem hwf hplaced),
    ⟨Text.oneLine_of_isIdentifier (Naming.frameSize_isIdentifier hlead hsubsystem hname), Text.oneLine_repr _⟩,
    ⟨oneLine_of_parts hlead ?_, ?_⟩,
    ⟨oneLine_of_parts hlead ?_, fun v hv => Text.oneLine_of_isIdentifier (ids v hv)⟩⟩
  · exact List.forall_mem_cons.mpr ⟨.upper hsubsystem,
      List.forall_mem_cons.mpr ⟨.upper hname, List.forall_mem_singleton.mpr (.fixed (by decide))⟩⟩
  · simp +decide [ofFrame, subsystemId, frameId]
  · exact List.forall_mem_cons.mpr ⟨.camel hsubsystem,
      List.forall_mem_cons.mpr ⟨.camel hname, List.forall_mem_singleton.mpr (.fixed (by decide))⟩⟩

end

/-- The outline of a protocol whose document was accepted. -/
theorem onLines_ofProtocol {s : Setting} {d : Document} {p : Layout.Protocol}
    (hlead : Text.isIdentifier s.naming.lead = true) (hd : d.Accepted) (hplaced : p.Placed s.naming d) :
    (ofProtocol s p).OnLines := by
  have hwf := hd.wellFormed
  have hsubsystem : Text.isIdentifier p.subsystem = true := hplaced.subsystem ▸ hwf.subsystem
  have hstem := Text.isIdentifier_append hsubsystem (b := "_protocol") (by decide)
  have origin : ∀ f ∈ p.frames, ∃ declared ∈ d.protocol.frames, f.Placed s.naming d.protocol declared :=
    fun f hf => forall₂_mem_right hplaced.frames hf
  refine ⟨Text.oneLine_of_isIdentifier hsubsystem, oneLine_of_parts hlead ?_,
    ⟨Text.oneLine_of_isIdentifier (Naming.frameIdType_isIdentifier hlead hsubsystem),
      List.forall_mem_map.mpr fun f hf => ?_⟩, List.forall_mem_map.mpr fun f hf => ?_⟩
  · exact List.forall_mem_cons.mpr ⟨.upper hstem, List.forall_mem_singleton.mpr (.fixed (by decide))⟩
  · obtain ⟨declared, hdeclared, hframe⟩ := origin f hf
    have hname : Text.isIdentifier f.name = true := hframe.name ▸ (hwf.frames declared hdeclared).name
    exact Text.oneLine_of_isIdentifier (Naming.frameId_isIdentifier hlead hsubsystem hname)
  · obtain ⟨declared, hdeclared, hframe⟩ := origin f hf
    rw [hplaced.subsystem]
    exact onLines_ofFrame hlead hwf.subsystem (hwf.frames declared hdeclared) hframe

/-- What the functions of a subsystem return. -/
def resultTypes : List String := ["bool", "size_t", "void", clockType]

theorem onLine_of_resultType {f : Prototype} (htype : f.returnType ∈ resultTypes) (hname : OneLine f.name)
    (hparams : ∀ param ∈ f.params, OneLine param) : f.OnLine := by
  have types : ∀ type ∈ resultTypes, Text.isIdentifier type = true ∧ type ≠ "typedef" := by decide
  exact ⟨(types _ htype).1, (types _ htype).2, hname, hparams⟩

structure Instance.OnLines (i : Instance) : Prop where
  guard : OneLine i.header.guard
  typeName : OneLine i.typeName
  clockType : Text.isIdentifier i.clockType = true
  frameTypes : ∀ m ∈ i.members, Text.isIdentifier m.frameType = true
  memberNames : ∀ m ∈ i.members, OneLine m.frameMember ∧ OneLine m.clockMember
  prototypes : ∀ f ∈ i.prototypes, f.OnLine

section

variable {s : Setting} {d : Document} {p : Layout.Protocol} (hlead : Text.isIdentifier s.naming.lead = true)
  (hd : d.Accepted) (hplaced : p.Placed s.naming d)

include hlead hd hplaced

theorem oneLine_functions :
    ∀ f ∈ (ofProtocol s p).dispatch ++ (ofProtocol s p).instanceOutline.prototypes, OneLine f.name := by
  intro f hf
  refine Text.oneLine_of_isIdentifier (protocol_isIdentifier hlead hd hplaced f.name ?_)
  exact List.mem_append_left _ (List.mem_append_left _ (List.mem_append_right _ (List.mem_map.mpr ⟨f, hf, rfl⟩)))

theorem onLine_dispatch : ∀ f ∈ (ofProtocol s p).dispatch, f.OnLine := by
  have hsubsystem : Text.isIdentifier p.subsystem = true := hplaced.subsystem ▸ hd.wellFormed.subsystem
  have frameIdType := Text.oneLine_of_isIdentifier (Naming.frameIdType_isIdentifier hlead hsubsystem)
  have names := (List.forall_mem_append.mp (oneLine_functions hlead hd hplaced)).1
  intro f hf
  have name := names f hf
  simp only [ofProtocol, List.mem_cons, List.not_mem_nil, or_false] at hf
  rcases hf with rfl | rfl
  all_goals exact onLine_of_resultType (by simp [resultTypes]) name (by simp +decide [frameIdType])

theorem onLines_ofInstance : (ofInstance s p).OnLines := by
  have hsubsystem : Text.isIdentifier p.subsystem = true := hplaced.subsystem ▸ hd.wellFormed.subsystem
  have frameIdType := Text.oneLine_of_isIdentifier (Naming.frameIdType_isIdentifier hlead hsubsystem)
  have instanceType := Text.oneLine_of_isIdentifier (Naming.instanceType_isIdentifier hlead hsubsystem)
  have guard : OneLine (ofInstance s p).header.guard := by
    refine Text.oneLine_of_isIdentifier (protocol_isIdentifier hlead hd hplaced _ ?_)
    simp [Protocol.names, ofProtocol]
  have frames : ∀ f ∈ p.frames, Text.isIdentifier f.name = true := by
    intro f hf
    obtain ⟨declared, hdeclared, hframe⟩ := forall₂_mem_right hplaced.frames hf
    exact hframe.name ▸ (hd.wellFormed.frames declared hdeclared).name
  have names := (List.forall_mem_append.mp (oneLine_functions hlead hd hplaced)).2
  have clock : Text.isIdentifier clockType = true := by decide
  refine ⟨guard, instanceType, clock, List.forall_mem_map.mpr fun f hf => ?_, List.forall_mem_map.mpr fun f hf => ?_,
    fun f hf => ?_⟩
  · exact Naming.frameType_isIdentifier hlead hsubsystem (frames f hf)
  · simp +decide [Text.oneLine_of_isIdentifier (frames f hf)]
  · have name := names f hf
    simp only [ofInstance, instancePrototypes, List.mem_cons, List.not_mem_nil, or_false] at hf
    rcases hf with rfl | rfl | rfl | rfl
    all_goals exact onLine_of_resultType (by simp [resultTypes]) name (by simp +decide [instanceType, frameIdType])

end

end Outline

structure Outline.OnLines (o : Outline) : Prop where
  commonGuard : OneLine o.common.guard
  utilsGuard : OneLine o.utils.guard
  subsystemIds : o.subsystemIds.OnLines
  subsystemCount : o.subsystemCount.OnLine
  dispatch : ∀ p ∈ o.protocols, ∀ f ∈ p.dispatch, f.OnLine

theorem Outline.onLines_ofLayouts {s : Setting} {protocols : List Layout.Protocol}
    (hlead : Text.isIdentifier s.naming.lead = true)
    (h : ∀ p ∈ protocols, ∃ d : Document, d.Accepted ∧ p.Placed s.naming d) : (ofLayouts s protocols).OnLines := by
  have names : ∀ name ∈ (ofLayouts s protocols).names, OneLine name := fun name hname =>
    Text.oneLine_of_isIdentifier (names_isIdentifier hlead h name hname)
  refine ⟨names _ ?_, names _ ?_, ⟨names _ ?_, fun v hv => names _ ?_⟩, ⟨names _ ?_, Text.oneLine_repr _⟩,
    List.forall_mem_map.mpr fun p hp => ?_⟩
  · simp [Outline.names]
  · simp [Outline.names]
  · simp [Outline.names]
  · exact List.mem_append_left _ (List.mem_append_right _ (List.mem_map.mpr ⟨v, hv, rfl⟩))
  · simp [Outline.names]
  · obtain ⟨d, hd, hplaced⟩ := h p hp
    exact onLine_dispatch hlead hd hplaced

end StatusFrames
