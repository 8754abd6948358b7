/-
Every constant in the headers means what the document said. A literal of a field ends up in one `#define`; what C makes
of its text, with the enumerators of all headers at hand, is the value of the literal.
-/
import StatusFrames.Proofs.Emission.Agreement
import StatusFrames.Proofs.Emission.Names
import StatusFrames.Proofs.Naming.Symbols
import StatusFrames.Proofs.Outline.Constants
import StatusFrames.Proofs.Outline.Meaning

namespace StatusFrames.Emission

open Declaration (ownNames partsOf)

/-- All declarations of all headers. -/
def declarations (o : Outline) : List Declaration := (headerTrees o).flatMap fun header => header.2.parts

theorem declaredNames_eq (o : Outline) : declaredNames o = (declarations o).flatMap ownNames := by
  rw [declarations, List.flatMap_assoc]
  rfl

section

variable {s : Outline.Setting} {protocols : List Layout.Protocol} {table : SymbolTable}
  (htable : (Outline.ofLayouts s protocols).symbolTable = .ok table)

include htable

theorem nodup_ownNames : ((declarations (Outline.ofLayouts s protocols)).flatMap ownNames).Nodup := by
  rw [← declaredNames_eq]
  exact (declaredNames_registered htable).2.1

/-- A macro has one definition in all headers together. -/
theorem eq_of_define {name a b : String} (ha : .define name a ∈ declarations (Outline.ofLayouts s protocols))
    (hb : .define name b ∈ declarations (Outline.ofLayouts s protocols)) : a = b := by
  have same := C.eq_of_common_name (nodup_ownNames htable) ha hb (List.mem_singleton_self name)
    (List.mem_singleton_self name)
  exact (Declaration.define.inj same).2

end

section

variable {s : Outline.Setting} {protocols : List Layout.Protocol} {p : Layout.Protocol} (hp : p ∈ protocols)

include hp

theorem mem_declarations {declaration : Declaration}
    (h : declaration ∈ (protocolHeader (Outline.ofProtocol s p)).parts) :
    declaration ∈ declarations (Outline.ofLayouts s protocols) :=
  List.mem_flatMap.mpr ⟨_, protocolHeader_mem hp, h⟩

end

section

variable {s : Outline.Setting} {p : Layout.Protocol} {frame : Layout.Frame} {f : Layout.Field}
  (hframe : frame ∈ p.frames) (hf : f ∈ frame.fields)

include hframe hf

theorem constant_mem {constant : Outline.Constant}
    (h : constant ∈ (Outline.ofField s.naming p.subsystem frame.name f).constants) :
    .define constant.name constant.value ∈ (protocolHeader (Outline.ofProtocol s p)).parts := by
  refine frameBlocks_subset (List.mem_map.mpr ⟨frame, hframe, rfl⟩) ?_
  have hconstant : constant ∈ (Outline.ofFrame s.naming p.subsystem frame).fields.flatMap (·.constants) :=
    List.mem_flatMap.mpr ⟨_, List.mem_map.mpr ⟨f, hf, rfl⟩, h⟩
  rw [partsOf_frameBlocks]
  simp only [List.mem_append]
  exact .inl (.inl (.inl (.inr (List.mem_map.mpr ⟨constant, hconstant, rfl⟩))))

theorem enumeration_mem {typeName : String} {values : List Layout.EnumValue} (h : f.kind = .enumCast typeName values) :
    .enumeration typeName (values.map fun v =>
        (s.naming.enumLabel p.subsystem frame.name f.name v.label, if v.explicit then some v.value.toNat else none)) ∈
      (protocolHeader (Outline.ofProtocol s p)).parts := by
  refine frameBlocks_subset (List.mem_map.mpr ⟨frame, hframe, rfl⟩) ?_
  have henum : Outline.Place.enumeration ⟨s.naming, p.subsystem, frame.name, f.name⟩ typeName values ∈
      (Outline.ofFrame s.naming p.subsystem frame).fields.filterMap (·.enumType) := by
    refine List.mem_filterMap.mpr ⟨_, List.mem_map.mpr ⟨f, hf, rfl⟩, ?_⟩
    simp [Outline.ofField, Layout.Field.enumType?, Layout.Field.enumValues_eq h, h]
  rw [partsOf_frameBlocks]
  simp only [List.mem_append]
  refine .inl (.inl (.inl (.inl (.inr (List.mem_map.mpr ⟨_, henum, ?_⟩)))))
  simp [enumeration, Outline.Place.enumeration, Function.comp_def]

end

/-! ## Enumerators -/

/-- A C name of the output is never one of the two words for booleans, since it holds an underscore. -/
theorem nameValue?_symbol (enumerator? : String → Option Int) (naming : Naming) (parts : List String) :
    C.nameValue? enumerator? (naming.symbol parts) = (enumerator? (naming.symbol parts)).bind C.Value.signed? := by
  have underscore : '_' ∈ (naming.symbol parts).toList := by simp [Naming.symbol]
  have htrue : naming.symbol parts ≠ "true" := by
    intro h
    rw [h] at underscore
    exact absurd underscore (by decide)
  have hfalse : naming.symbol parts ≠ "false" := by
    intro h
    rw [h] at underscore
    exact absurd underscore (by decide)
  rw [C.nameValue?, if_neg htrue, if_neg hfalse]

theorem constant?_enumLabel {enumerator? : String → Option Int} {naming : Naming}
    (hlead : Text.isIdentifier naming.lead = true) {subsystem frame field label : String}
    (hsubsystem : Text.isIdentifier subsystem = true) (hframe : Text.isIdentifier frame = true)
    (hfield : Text.isIdentifier field = true) (hlabel : Text.isIdentifier label = true) {n : UInt8}
    (h : enumerator? (naming.enumLabel subsystem frame field label) = some (n.toNat : Int)) :
    C.constant? enumerator? (naming.enumLabel subsystem frame field label) = some (n.toNat : Int) := by
  have identifier := Naming.enumLabel_isIdentifier hlead hsubsystem hframe hfield hlabel
  have small : C.Value.signed? n.toNat = some ⟨n.toNat, false⟩ := if_pos (by have := n.toNat_lt; omega)
  rw [C.constant?_name enumerator? identifier]
  simp only [Naming.enumLabel] at h ⊢
  rw [nameValue?_symbol, h, Option.bind_some, small]
  rfl

section

variable {s : Outline.Setting} {p : Layout.Protocol} {frame : Layout.Frame} {f : Layout.Field} {entry : TypeEntry}
  {declared : Document.Field} (hframe : frame ∈ p.frames) (hf : f ∈ frame.fields)
  (hplaced : f.Placed ⟨s.naming, p.subsystem, frame.name⟩ entry declared) (hkind : entry.kind = .enum)
  {v : Layout.EnumValue} (hv : v ∈ f.enumValues)

include hframe hf hplaced hkind hv

/-- C numbers the enumerator of a label as the layout does. -/
theorem enumerator_of_placed : ∃ enumerators, v.label ∈ declared.values.map (·.name) ∧
    .enumeration (s.naming.enumType p.subsystem frame.name declared.name) enumerators ∈
      (protocolHeader (Outline.ofProtocol s p)).parts ∧
    (s.naming.enumLabel p.subsystem frame.name declared.name v.label, v.value.toNat) ∈ C.numbered 0 enumerators := by
  obtain ⟨hof, numbered⟩ := hplaced.enumeration hkind
  refine ⟨_, numbered.label_mem hv, enumeration_mem hframe hf hof, ?_⟩
  rw [Layout.numbered_enumerators numbered.numbers numbered.explicit, ← hplaced.name]
  exact List.mem_map.mpr ⟨v, hv, rfl⟩

theorem enumerator?_of_placed {protocols : List Layout.Protocol} {table : SymbolTable}
    (htable : (Outline.ofLayouts s protocols).symbolTable = .ok table) (hp : p ∈ protocols) :
    C.enumerator? (declarations (Outline.ofLayouts s protocols))
      (s.naming.enumLabel p.subsystem frame.name declared.name v.label) = some (v.value.toNat : Int) := by
  obtain ⟨enumerators, -, henumeration, hnumber⟩ := enumerator_of_placed hframe hf hplaced hkind hv
  exact C.enumerator?_eq_some (nodup_ownNames htable) (mem_declarations hp henumeration) hnumber

end

/-! ## Constants -/

/-- The text for a literal of a placed field means the literal, with the enumerators of all headers at hand. -/
theorem means_of_placed {s : Outline.Setting} (hlead : Text.isIdentifier s.naming.lead = true)
    {protocols : List Layout.Protocol} {table : SymbolTable}
    (htable : (Outline.ofLayouts s protocols).symbolTable = .ok table) {p : Layout.Protocol} (hp : p ∈ protocols)
    {frame : Layout.Frame} (hframe : frame ∈ p.frames) {f : Layout.Field} (hf : f ∈ frame.fields)
    (hsubsystem : Text.isIdentifier p.subsystem = true) (hname : Text.isIdentifier frame.name = true)
    {entry : TypeEntry} {declared : Document.Field} {multiDevice : Bool}
    (hplaced : f.Placed ⟨s.naming, p.subsystem, frame.name⟩ entry declared) (hwf : declared.WellFormed multiDevice)
    (hkind : entry.kind ≠ .float) {literal : Literal} (hcanonical : literal.Canonical)
    (hcheck : (f.domain entry).check literal = .ok ()) :
    ∃ value, Outline.Means (C.enumerator? (declarations (Outline.ofLayouts s protocols))) declared f literal
        (Outline.Place.literal ⟨s.naming, p.subsystem, frame.name, f.name⟩ literal) value ∧
      (entry.kind = .enum → ∃ v ∈ f.enumValues, value = (v.value.toNat : Int)) := by
  have enumerators (hk : entry.kind = .enum) : ∀ v ∈ f.enumValues,
      C.constant? (C.enumerator? (declarations (Outline.ofLayouts s protocols)))
        (s.naming.enumLabel p.subsystem frame.name f.name v.label) = some (v.value.toNat : Int) := by
    intro v hv
    obtain ⟨-, numbered⟩ := hplaced.enumeration hk
    obtain ⟨e, he, hlabel⟩ := List.mem_map.mp (numbered.label_mem hv)
    rw [hplaced.name]
    exact constant?_enumLabel hlead hsubsystem hname hwf.name (hlabel ▸ hwf.labels e he)
      (enumerator?_of_placed hframe hf hplaced hk hv htable hp)
  have htakes := hplaced.domain.takes hcheck fun hk => absurd hk hkind
  exact Outline.means_of_takes ⟨s.naming, p.subsystem, frame.name, f.name⟩ hplaced hkind hwf.distinctLabels enumerators
    hcanonical htakes

/-- Every literal of a field that is no floating-point number has its `#define` in the header of its subsystem, and this
is the only one of its name, whichever emitter wrote it (only templates of the user's own may write anything else). C
reads the text as the value that the literal has in the document, which fits the storage type of the field; for an enum
field it is the number of one of the field's own enumerators. -/
theorem constants_mean_literals {options : CompilerOptions} {c : Compiler} {disk : Files.Disk}
    {documents : List Document} {compilation : Compilation} (hc : Compiler.ofOptions options = .ok c)
    (hw : c.options.emitter = .construct ∨ c.options.templates = none) (hd : ∀ d ∈ documents, d.Accepted)
    (h : c.compile disk documents = .ok compilation) {d : Document} (hmem : d ∈ documents) {frame : Document.Frame}
    (hframe : frame ∈ d.protocol.frames) {field : Document.Field} (hfield : field ∈ frame.fields)
    (htype : field.typeName ≠ "float" ∧ field.typeName ≠ "double") {name : String} {literal : Literal}
    (hl : (name, literal) ∈ field.constants c.naming d.subsystem frame.name) :
    ∃ header text value,
      (Outline.protocolPath d.subsystem, header) ∈ headerTrees (c.outline compilation.protocols) ∧
      (⟨Outline.protocolPath d.subsystem⟩, header.text) ∈ compilation.artifacts ∧
      .define name text ∈ header.parts ∧
      ("#define " ++ name ++ " " ++ text).toList <:+: header.text.toList ∧
      (∀ other, .define name other ∈ declarations (c.outline compilation.protocols) → other = text) ∧
      C.constant? (C.enumerator? (declarations (c.outline compilation.protocols))) text = some value ∧
      field.valueOf? literal = some value ∧
      C.Holds (Registry.storageName field.typeName) value ∧
      (field.typeName = "enum" → ∃ label n enumerators, label ∈ field.values.map (·.name) ∧
        .enumeration (c.naming.enumType d.subsystem frame.name field.name) enumerators ∈ header.parts ∧
        (c.naming.enumLabel d.subsystem frame.name field.name label, n) ∈ C.numbered 0 enumerators ∧
        value = (n : Int)) := by
  obtain ⟨hlead, -, -⟩ := Compiler.ofOptions_eq_ok hc
  obtain ⟨hbuild, hemit, table, htable, -⟩ := Compiler.compile_eq_ok h
  have built := Compiler.built_of_build hbuild
  have wellFormed := (hd d hmem).wellFormed
  have hframeWf := wellFormed.frames frame hframe
  have hcanonical := (hd d hmem).canonical_of_constant hframe hfield hl
  obtain ⟨p, hp, hsubsystem, placed, hplaced, hname, f, hf, entry, hscope⟩ := built.field hmem hframe hfield
  rw [← hsubsystem, ← hname] at hl ⊢
  obtain ⟨⟨role, hconstant⟩, hcheck⟩ := Outline.constant_of_mem hscope hl
  have hdefine := constant_mem (s := ⟨c.naming, c.options.includeRoot⟩) hplaced hf hconstant
  have hprinted := Declaration.infix_of_mem_parts hdefine
  rw [Declaration.text_define] at hprinted
  obtain ⟨value, means, henum⟩ := means_of_placed (s := ⟨c.naming, c.options.includeRoot⟩) hlead htable hp hplaced hf
    (hsubsystem ▸ wellFormed.subsystem) (hname ▸ hframeWf.name) hscope (hframeWf.fields field hfield)
    (Registry.kind_ne_float hscope.type htype) hcanonical hcheck
  have written := fromTrees_of_emit hc hw (List.ne_nil_of_mem hmem) hd built hemit
  have hheader := protocolHeader_mem (s := ⟨c.naming, c.options.includeRoot⟩) hp
  refine ⟨_, _, value, hheader, (fromTrees_perm written).mem_iff.mpr (List.mem_map.mpr ⟨_, hheader, rfl⟩), hdefine,
    hprinted, fun other hother => eq_of_define htable hother (mem_declarations hp hdefine), means.text, means.document,
    ?_, ?_⟩
  · rw [← Registry.storageType_eq hscope.type hscope.storageType]
    exact means.holds
  · intro htypeName
    have hkind : entry.kind = .enum := Registry.kind_eq_enum (htypeName ▸ hscope.type)
    obtain ⟨v, hv, rfl⟩ := henum hkind
    obtain ⟨enumerators, hlabel, henumeration, hnumber⟩ :=
      enumerator_of_placed (s := ⟨c.naming, c.options.includeRoot⟩) hplaced hf hscope hkind hv
    exact ⟨v.label, v.value.toNat, enumerators, hlabel, henumeration, hnumber, rfl⟩

/-- The second label of the sample's enum field is its default, and means 1. -/
theorem constants_mean_literals_sample : ∃ (compilation : Compilation) (header : Declaration) (text : String),
    Compiler.ofTrees.compile ⟨.folder [], []⟩ [Document.sample] = .ok compilation ∧
      (⟨Outline.protocolPath "psu"⟩, header.text) ∈ compilation.artifacts ∧
      .define (Compiler.ofTrees.naming.initialValue "psu" "limits" "mode") text ∈ header.parts ∧
      C.constant? (C.enumerator? (declarations (Compiler.ofTrees.outline compilation.protocols))) text = some 1 := by
  obtain ⟨compilation, h⟩ := sample_compiles ⟨.folder [], []⟩
  obtain ⟨header, text, value, -, hartifact, hdefine, -, -, htext, hvalue, -⟩ :=
    constants_mean_literals Compiler.ofOptions_ofTrees (.inl rfl) (by simpa using Document.sample_accepted) h
      (List.mem_singleton_self _) (List.mem_singleton_self _) List.mem_cons_self (by decide) List.mem_cons_self
  obtain rfl : 1 = value := Option.some.inj hvalue
  exact ⟨compilation, header, text, h, hartifact, hdefine, htext⟩

end StatusFrames.Emission
