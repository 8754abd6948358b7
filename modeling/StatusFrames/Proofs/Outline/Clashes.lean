/-
Names that the support library has taken. All names are checked against each other, but not against those of the library
that every header includes. Main statement: which documents have a name of the library among theirs.
-/
import StatusFrames.Proofs.Document.Single
import StatusFrames.Proofs.Emission.Writing
import StatusFrames.Proofs.Naming.SupportNames
import StatusFrames.Proofs.Outline.Identifiers

namespace StatusFrames

open Text (isIdentifier)
open Naming (camel upper)

namespace Document

/-- An enum field whose type or one of whose labels gets a name of the library. -/
def Field.Clashes (subsystem frame : String) (f : Field) : Prop :=
  f.typeName = "enum" ∧
    ("_".intercalate [camel subsystem, camel frame, camel f.name] ∈ Naming.enumTypeStems ∨
      ∃ v ∈ f.values, "_".intercalate [upper subsystem, upper frame, upper f.name, upper v.name] ∈ Naming.labelStems)

/-- A frame whose type id gets a name of the library, or one of whose fields clashes. -/
def Frame.Clashes (subsystem : String) (f : Frame) : Prop :=
  "_".intercalate [upper subsystem, upper f.name] ∈ Naming.typeIdStems ∨ ∃ x ∈ f.fields, x.Clashes subsystem f.name

instance (subsystem frame : String) (f : Field) : Decidable (f.Clashes subsystem frame) :=
  inferInstanceAs (Decidable (_ ∧ (_ ∨ _)))

instance (subsystem : String) (f : Frame) : Decidable (f.Clashes subsystem) := inferInstanceAs (Decidable (_ ∨ _))

end Document

theorem Layout.Numbered.map_label {entries : List Document.EnumValue} {values : List Layout.EnumValue}
    (h : Layout.Numbered entries values) : values.map (·.label) = entries.map (·.name) := by
  rw [← Document.map_fst_labelNumbers 0, ← h.numbers, List.map_map]
  rfl

namespace Outline

/-- Names of which the library has taken none. -/
def Free (names : List String) : Prop := ∀ name ∈ names, name ∉ C.Support.names

theorem free_append {a b : List String} : Free (a ++ b) ↔ Free a ∧ Free b := List.forall_mem_append

theorem free_flatMap {α : Type} {f : α → List String} {as : List α} : Free (as.flatMap f) ↔ ∀ a ∈ as, Free (f a) :=
  List.forall_mem_flatMap

/-! ## Fields -/

section

variable {naming : Naming} {subsystem frame : String} (hlead : naming.lead = "KSRP")

include hlead

theorem accessors_free (field : String) :
    Free [naming.getter subsystem frame field, naming.setter subsystem frame field] :=
  List.forall_mem_cons.mpr ⟨Naming.free_of_start hlead (by decide) (List.cons_ne_nil _ _),
    List.forall_mem_singleton.mpr (Naming.free_of_start hlead (by decide) (List.cons_ne_nil _ _))⟩

theorem constants_free (f : Layout.Field) : Free ((ofField naming subsystem frame f).constants.map (·.name)) := by
  refine List.forall_mem_map.mpr (List.forall_mem_append.mpr ⟨fun c hc => ?_, fun c hc => ?_⟩)
  · obtain ⟨literal, -, rfl⟩ := Option.mem_map.mp (Option.mem_toList.mp hc)
    exact Naming.free_of_end hlead [upper subsystem, upper frame, upper f.name] (by decide)
      (List.cons_ne_nil _ _)
  · obtain ⟨i, check, -, hc⟩ := mem_allCheckConstants.mp hc
    obtain ⟨-, suffix, -, hname⟩ := suffix_of_mem_checkConstants hc
    rw [hname]
    exact Naming.healthCheck_free hlead subsystem frame f.name check.result (1 + i) suffix

theorem fieldIds_free (subsystem frame : String) (first : Nat) (fields : List Layout.Field) :
    Free ((fieldIds naming subsystem frame first fields).map (·.name)) := by
  induction fields generalizing first with
  | nil => exact fun _ hname => absurd hname List.not_mem_nil
  | cons x rest ih =>
    refine List.forall_mem_cons.mpr ⟨?_, ih (first + 1)⟩
    exact Naming.free_of_end hlead [upper subsystem, upper frame, upper x.name] (by decide)
      (List.cons_ne_nil _ _)

/-- Of the names of a field, only those of its enumeration can be taken. -/
theorem free_field_iff (f : Layout.Field) :
    Free (ofField naming subsystem frame f).names ↔
      ∀ e ∈ (ofField naming subsystem frame f).enumType, Free e.names := by
  rw [Field.names, free_append, free_append, free_flatMap]
  simp only [Option.mem_toList]
  exact ⟨fun h => h.1.2, fun h => ⟨⟨accessors_free hlead f.name, h⟩, constants_free hlead f⟩⟩

/-- The names of the enumeration of a field. -/
theorem free_enumeration_iff {f : Layout.Field} {typeName : String} {values : List Layout.EnumValue}
    (hkind : f.kind = .enumCast typeName values) :
    (∀ e ∈ (ofField naming subsystem frame f).enumType, Free e.names) ↔
      typeName ∉ C.Support.names ∧ ∀ label ∈ f.enumValues.map (·.label),
        "_".intercalate [upper subsystem, upper frame, upper f.name, upper label] ∉ Naming.labelStems := by
  simp only [enumType_ofField naming subsystem frame hkind, Option.mem_some, forall_eq', Free, Enumeration.names,
    Place.enumeration, List.forall_mem_cons, List.forall_mem_map, Naming.enumLabel_taken_iff hlead]

variable (hsubsystem : isIdentifier subsystem = true) (hframe : isIdentifier frame = true)

include hsubsystem hframe

theorem free_placed_iff {multiDevice : Bool} {entry : TypeEntry} {declared : Document.Field} {f : Layout.Field}
    (hwf : declared.WellFormed multiDevice) (hplaced : f.Placed ⟨naming, subsystem, frame⟩ entry declared) :
    Free (ofField naming subsystem frame f).names ↔ ¬declared.Clashes subsystem frame := by
  rw [free_field_iff hlead]
  by_cases henum : declared.typeName = "enum"
  · obtain ⟨hkind, numbered⟩ := hplaced.enumeration ((Registry.kind_enum_iff hplaced.type).mpr henum)
    rw [free_enumeration_iff hlead hkind, numbered.map_label, hplaced.name, List.forall_mem_map]
    rw [Naming.enumType_taken_iff hlead hsubsystem hframe hwf.name, Document.Field.Clashes]
    simp [henum]
  · have hnone : (ofField naming subsystem frame f).enumType = none := by
      cases hkind : f.kind with
      | enumCast => exact absurd ((Registry.kind_enum_iff hplaced.type).mp (hplaced.kind_of_enumCast hkind)) henum
      | native | boolCast | deviceId => simp [ofField, Layout.Field.enumType?, hkind]
    rw [hnone]
    exact ⟨fun _ hclash => henum hclash.1, fun _ e he => absurd he (Option.not_mem_none e)⟩

end

/-! ## Frames and protocols -/

theorem free_fields_iff {naming : Naming} {protocol : Document.Protocol} {declared : Document.Frame} {f : Layout.Frame}
    (hlead : naming.lead = "KSRP") (hsubsystem : isIdentifier protocol.subsystem = true)
    (hwf : declared.WellFormed protocol.multiDevice) (hplaced : f.Placed naming protocol declared) :
    (∀ x ∈ f.fields, Free (ofField naming protocol.subsystem f.name x).names) ↔
      ∀ field ∈ declared.fields, ¬field.Clashes protocol.subsystem declared.name := by
  obtain ⟨placed, hfields, hmatch⟩ := hplaced.fields
  have hid : ∀ x ∈ (if protocol.multiDevice then [Layout.deviceId] else []),
      Free (ofField naming protocol.subsystem declared.name x).names := by
    intro x hx
    split at hx
    · rw [List.mem_singleton.mp hx, free_field_iff hlead]
      exact fun e he => absurd he (Option.not_mem_none e)
    · cases hx
  rw [hplaced.name, hfields, List.forall_mem_append, and_iff_right hid]
  refine forall₂_forall_iff hmatch fun field hfield x hx => ?_
  obtain ⟨entry, hx⟩ := hx
  exact free_placed_iff hlead hsubsystem hwf.name (hwf.fields field hfield) hx

/-- Of the names that a frame has itself, only its type id can be taken. -/
theorem free_frame_iff {naming : Naming} {protocol : Document.Protocol} {declared : Document.Frame} {f : Layout.Frame}
    (hlead : naming.lead = "KSRP") (hsubsystem : isIdentifier protocol.subsystem = true)
    (hwf : declared.WellFormed protocol.multiDevice) (hplaced : f.Placed naming protocol declared) :
    Free (ofFrame naming protocol.subsystem f).names ↔ ¬declared.Clashes protocol.subsystem := by
  have hsize : naming.frameSize protocol.subsystem f.name ∉ C.Support.names :=
    Naming.free_of_end hlead [upper protocol.subsystem, upper f.name] (by decide) (List.cons_ne_nil _ _)
  have hfieldIds : naming.fieldIdType protocol.subsystem f.name ∉ C.Support.names :=
    Naming.free_of_end hlead [camel protocol.subsystem, camel f.name] (by decide) (List.cons_ne_nil _ _)
  have own : Free [naming.frameType protocol.subsystem f.name, naming.frameSize protocol.subsystem f.name,
      naming.typeId protocol.subsystem f.name, naming.fieldIdType protocol.subsystem f.name] ↔
      "_".intercalate [upper protocol.subsystem, upper f.name] ∉ Naming.typeIdStems := by
    rw [← Naming.typeId_taken_iff hlead]
    simp [Free, Naming.frameType_free hlead, hsize, hfieldIds]
  have ids := fieldIds_free hlead protocol.subsystem f.name 0 f.fields
  have fields := free_fields_iff hlead hsubsystem hwf hplaced
  calc Free (ofFrame naming protocol.subsystem f).names
    _ ↔ _ := free_append.trans (and_congr free_append (free_flatMap.trans List.forall_mem_map))
    _ ↔ "_".intercalate [upper protocol.subsystem, upper f.name] ∉ Naming.typeIdStems ∧
        ∀ field ∈ declared.fields, ¬field.Clashes protocol.subsystem declared.name :=
      and_congr ((and_iff_left ids).trans own) fields
    _ ↔ ¬declared.Clashes protocol.subsystem := by
      rw [Document.Frame.Clashes, hplaced.name, not_or]
      simp only [not_exists, not_and]

/-- Of the names that a protocol has besides those of its frames, none can be taken. -/
theorem free_protocol_iff {s : Setting} {d : Document} {p : Layout.Protocol} (hlead : s.naming.lead = "KSRP")
    (hd : d.Accepted) (hplaced : p.Placed s.naming d) :
    Free (ofProtocol s p).names ↔ ∀ frame ∈ d.protocol.frames, ¬frame.Clashes d.subsystem := by
  have hwf := hd.wellFormed
  have ends : ∀ (part word : String), word ∈ Naming.freeEnds → s.naming.symbol [part, word] ∉ C.Support.names :=
    fun part word hword => Naming.free_of_end hlead [part] hword (List.cons_ne_nil _ _)
  have starts : ∀ word ∈ Naming.freeStarts, s.naming.symbol [word, camel p.subsystem] ∉ C.Support.names :=
    fun word hword => Naming.free_of_start hlead hword (List.cons_ne_nil _ _)
  have operation : ∀ word : String, "Instance_" ++ word ∈ Naming.freeEnds →
      s.naming.instanceFunction p.subsystem word ∉ C.Support.names :=
    fun word hword => Naming.instanceFunction_free hlead hword p.subsystem
  have own : Free [s.naming.headerGuard (p.subsystem ++ "_protocol"), s.naming.headerGuard (p.subsystem ++ "_instance"),
      s.naming.frameIdType p.subsystem, s.naming.instanceType p.subsystem] :=
    List.forall_mem_cons.mpr ⟨ends _ "H_" (by decide), List.forall_mem_cons.mpr ⟨ends _ "H_" (by decide),
      List.forall_mem_cons.mpr ⟨ends _ "FrameID" (by decide),
        List.forall_mem_singleton.mpr (ends _ "Instance" (by decide))⟩⟩⟩
  have functions : Free (((ofProtocol s p).dispatch ++ (ofProtocol s p).instanceOutline.prototypes).map (·.name)) :=
    List.forall_mem_cons.mpr ⟨starts "FrameSize" (by decide), List.forall_mem_cons.mpr
      ⟨starts "IsTypeIDOf" (by decide), List.forall_mem_cons.mpr ⟨operation "Init" (by decide), List.forall_mem_cons.mpr
        ⟨operation "UpdateFrame" (by decide), List.forall_mem_cons.mpr ⟨operation "UpdateTime" (by decide),
          List.forall_mem_singleton.mpr (operation "GetTimeSinceLastUpdate" (by decide))⟩⟩⟩⟩⟩
  have ids : Free ((ofProtocol s p).frameIds.enumerators.map (·.name)) :=
    List.forall_mem_map.mpr (List.forall_mem_map.mpr fun f _ =>
      Naming.free_of_end hlead [upper p.subsystem, upper f.name] (by decide) (List.cons_ne_nil _ _))
  have frames : (∀ f ∈ p.frames, Free (ofFrame s.naming p.subsystem f).names) ↔
      ∀ frame ∈ d.protocol.frames, ¬frame.Clashes d.subsystem := by
    rw [hplaced.subsystem]
    exact forall₂_forall_iff hplaced.frames fun frame hframe f hf =>
      free_frame_iff hlead hwf.subsystem (hwf.frames frame hframe) hf
  rw [Protocol.names, free_append, free_append, free_append, free_flatMap]
  exact (and_iff_right ⟨⟨own, functions⟩, ids⟩).trans (List.forall_mem_map.trans frames)

/-- The names of an outline are free exactly if no frame of the documents it was made for clashes. -/
theorem free_names_iff {s : Setting} {documents : List Document} {protocols : List Layout.Protocol}
    (hlead : s.naming.lead = "KSRP") (built : Compiler.Built s.naming documents protocols)
    (hd : ∀ d ∈ documents, d.Accepted) :
    Free (ofLayouts s protocols).names ↔
      ∀ d ∈ documents, ∀ frame ∈ d.protocol.frames, ¬frame.Clashes d.subsystem := by
  have guard : ∀ stem, s.naming.headerGuard stem ∉ C.Support.names := fun stem =>
    Naming.free_of_end hlead [upper stem] (by decide) (List.cons_ne_nil _ _)
  have single : ∀ word, "KSRP_" ++ word ∉ C.Support.names → s.naming.symbol [word] ∉ C.Support.names := by
    intro word hword
    rwa [Naming.symbol_eq hlead, String.intercalate_singleton]
  have own : Free [s.naming.headerGuard "protocol_common", s.naming.headerGuard "protocol_utils",
      s.naming.subsystemIdType, s.naming.subsystemCount] :=
    List.forall_mem_cons.mpr ⟨guard _, List.forall_mem_cons.mpr ⟨guard _, List.forall_mem_cons.mpr
      ⟨single "SubsystemID" (by decide), List.forall_mem_singleton.mpr (single "SUBSYSTEM_COUNT" (by decide))⟩⟩⟩
  have ids : Free ((ofLayouts s protocols).subsystemIds.enumerators.map (·.name)) :=
    List.forall_mem_map.mpr (List.forall_mem_map.mpr (List.forall_mem_map.mpr fun p _ =>
      Naming.free_of_end hlead [upper p.subsystem] (by decide) (List.cons_ne_nil _ _)))
  have sorted : ∀ d, d ∈ Document.sort documents ↔ d ∈ documents := fun d => (Document.sort_perm documents).mem_iff
  have elements : (∀ p ∈ protocols, Free (ofProtocol s p).names) ↔
      ∀ d ∈ documents, ∀ frame ∈ d.protocol.frames, ¬frame.Clashes d.subsystem := by
    simp only [← sorted]
    exact forall₂_forall_iff built.placed fun d hmem p hplaced =>
      free_protocol_iff hlead (hd d ((sorted d).mp hmem)) hplaced
  rw [names, free_append, free_append, free_flatMap]
  exact (and_iff_right ⟨own, ids⟩).trans (List.forall_mem_map.trans elements)

theorem typeId_mem_names (s : Setting) {protocols : List Layout.Protocol} {p : Layout.Protocol} (hp : p ∈ protocols)
    {f : Layout.Frame} (hf : f ∈ p.frames) : s.naming.typeId p.subsystem f.name ∈ (ofLayouts s protocols).names := by
  have hframe : s.naming.typeId p.subsystem f.name ∈ (ofFrame s.naming p.subsystem f).names :=
    List.mem_append_left _ (List.mem_append_left _ (by simp [ofFrame]))
  have hprotocol : s.naming.typeId p.subsystem f.name ∈ (ofProtocol s p).names :=
    List.mem_append_right _ (List.mem_flatMap.mpr ⟨_, List.mem_map_of_mem hf, hframe⟩)
  exact List.mem_append_right _ (List.mem_flatMap.mpr ⟨_, List.mem_map_of_mem hp, hprotocol⟩)

/-- The names in a table of symbols are those of its outline. -/
theorem mem_names_of_symbolTable {s : Setting} {protocols : List Layout.Protocol} {table : SymbolTable}
    (h : (ofLayouts s protocols).symbolTable = .ok table) {name : String} :
    name ∈ table.names ↔ name ∈ (ofLayouts s protocols).names := by
  obtain ⟨-, rfl⟩ := symbolTable_eq_ok.mp h
  rw [← (map_symbols_perm s protocols).mem_iff]
  simp [SymbolTable.names]

end Outline

namespace Compiler

/-- With the leading word of the library, the symbols of a compilation are free of the library's names exactly if no frame
of a document clashes: neither the type id of a frame nor the type or a label of an enum field can be spelled like one of
the few names that such symbols can reach. -/
theorem symbols_free_iff {c : Compiler} {disk : Files.Disk} {documents : List Document} {compilation : Compilation}
    (hlead : c.naming.lead = "KSRP") (hd : ∀ d ∈ documents, d.Accepted)
    (h : c.compile disk documents = .ok compilation) :
    ∃ table, (c.outline compilation.protocols).symbolTable = .ok table ∧ compilation.symbols = table.size ∧
      ((∀ name ∈ table.names, name ∉ C.Support.names) ↔
        ∀ d ∈ documents, ∀ frame ∈ d.protocol.frames, ¬frame.Clashes d.subsystem) := by
  obtain ⟨hbuild, -, table, htable, hsize⟩ := compile_eq_ok h
  refine ⟨table, htable, hsize, ?_⟩
  simp only [Outline.mem_names_of_symbolTable htable]
  exact Outline.free_names_iff hlead (built_of_build hbuild) hd

/-- Two samples that do not clash. -/
theorem symbols_free_samples : ∃ compilation table,
    ofTrees.compile ⟨.folder [], []⟩ [Document.sample, Document.fan] = .ok compilation ∧
      (ofTrees.outline compilation.protocols).symbolTable = .ok table ∧ compilation.symbols = table.size ∧
      ∀ name ∈ table.names, name ∉ C.Support.names := by
  obtain ⟨compilation, h⟩ := samples_compile ⟨.folder [], []⟩
  have haccepted : ∀ d ∈ [Document.sample, Document.fan], d.Accepted := by
    simpa using ⟨Document.sample_accepted, Document.fan_accepted⟩
  have hfree : ∀ d ∈ [Document.sample, Document.fan], ∀ frame ∈ d.protocol.frames, ¬frame.Clashes d.subsystem := by
    decide +kernel
  obtain ⟨table, htable, hsize, hnames⟩ := symbols_free_iff (c := ofTrees) rfl haccepted h
  exact ⟨compilation, table, h, htable, hsize, hnames.mpr hfree⟩

end Compiler

/-- A document with a frame whose type id is called like a macro of the library. -/
def Document.getter : Document.Single := ⟨"get", 1, "frame_id_from", 1, "fill"⟩

set_option maxRecDepth 4000 in
theorem Document.getter_accepted : getter.document.Accepted :=
  Single.accepted (by decide +kernel) rfl rfl

/-- It is accepted and compiles, and the macro of the library is among its symbols. -/
theorem Compiler.support_macro_registered : ∃ compilation table,
    Document.getter.document.Accepted ∧
      ofTrees.compile ⟨.folder [], []⟩ [Document.getter.document] = .ok compilation ∧
      (ofTrees.outline compilation.protocols).symbolTable = .ok table ∧
      "KSRP_GET_FRAME_ID_FROM_TYPE_ID" ∈ table.names ∧ "KSRP_GET_FRAME_ID_FROM_TYPE_ID" ∈ C.Support.names := by
  have haccepted : ∀ d ∈ [Document.getter.document], d.Accepted := by simpa using Document.getter_accepted
  obtain ⟨compilation, h⟩ := compiles_single ⟨.folder [], []⟩ Document.getter_accepted (by decide +kernel)
  obtain ⟨hbuild, -, table, htable, -⟩ := compile_eq_ok h
  obtain ⟨p, hp, hplaced⟩ := (built_of_build hbuild).layout (List.mem_singleton_self _)
  obtain ⟨f, hf, hframe⟩ := forall₂_mem_left hplaced.frames (List.mem_singleton_self _)
  have hname : ({} : Naming).typeId "get" "frame_id_from" = "KSRP_GET_FRAME_ID_FROM_TYPE_ID" := by decide +kernel
  have hmem := Outline.typeId_mem_names ⟨{}, ofTrees.options.includeRoot⟩ hp hf
  rw [hplaced.subsystem, hframe.name] at hmem
  refine ⟨compilation, table, Document.getter_accepted, h, htable, ?_, by decide⟩
  exact (Outline.mem_names_of_symbolTable htable).mpr (hname ▸ hmem)

end StatusFrames
