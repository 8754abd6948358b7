/-
Words that C keeps for itself. A field is a member of its struct under the name that the document gives it, and the check
of that name knows the letters of identifiers but no keywords.
-/
import StatusFrames.Proofs.Compiler.Modular
import StatusFrames.Proofs.Document.Single
import StatusFrames.Proofs.Emission.Members

namespace StatusFrames

open Text (isIdentifier)

namespace C

/-- The keywords of C11. -/
def keywords : List String :=
  ["auto", "break", "case", "char", "const", "continue", "default", "do", "double", "else", "enum", "extern", "float",
    "for", "goto", "if", "inline", "int", "long", "register", "restrict", "return", "short", "signed", "sizeof", "static",
    "struct", "switch", "typedef", "union", "unsigned", "void", "volatile", "while", "_Alignas", "_Alignof", "_Atomic",
    "_Bool", "_Complex", "_Generic", "_Imaginary", "_Noreturn", "_Static_assert", "_Thread_local"]

/-- The macros of `stdbool.h`. -/
def boolWords : List String := ["bool", "true", "false"]

/-- The identifiers that cannot name a member in a header that includes `stdbool.h`. -/
def reservedWords : List String := keywords ++ boolWords

/-- A name that a member of a struct can have. -/
structure IsMemberName (name : String) : Prop where
  identifier : isIdentifier name = true
  free : name ∉ reservedWords

end C

/-- The device id is no reserved word, so a struct is usable if its fields are. -/
theorem Document.Frame.WellFormed.usable_iff {multiDevice : Bool} {f : Document.Frame} (h : f.WellFormed multiDevice) :
    (∀ name ∈ f.memberNames multiDevice, C.IsMemberName name) ↔
      ∀ field ∈ f.fields, field.name ∉ C.reservedWords := by
  have hidentifiers := h.memberNames.identifiers
  have hdevice : C.IsMemberName Document.deviceIdName := ⟨by decide, by decide⟩
  constructor
  · intro husable field hfield
    exact (husable _ (List.mem_append_right _ (List.mem_map_of_mem hfield))).free
  · intro hfree name hname
    rcases List.mem_append.mp hname with hid | hfield
    · cases multiDevice with
      | false => cases hid
      | true => exact List.mem_singleton.mp hid ▸ hdevice
    · obtain ⟨field, hmem, rfl⟩ := List.mem_map.mp hfield
      exact ⟨hidentifiers _ hname, hfree field hmem⟩

namespace Emission

/-- The struct of a frame, in the header of its subsystem. -/
theorem record_of_frame {s : Outline.Setting} {d : Document} {p : Layout.Protocol}
    (hplaced : p.Placed s.naming d) {frame : Document.Frame} (hframe : frame ∈ d.protocol.frames) :
    ∃ members, .record (s.naming.frameType d.subsystem frame.name) true members ∈
        (protocolHeader (Outline.ofProtocol s p)).parts ∧
      members.map (·.name) = frame.memberNames d.protocol.multiDevice := by
  obtain ⟨f, hf, hframePlaced⟩ := forall₂_mem_left hplaced.frames hframe
  refine ⟨_, record_mem_protocolHeader.mpr ⟨f, hf, ?_, rfl, rfl⟩, hframePlaced.map_member⟩
  rw [hplaced.subsystem, hframePlaced.name]

/-- Packed structs are those of frames. -/
theorem frame_of_record {s : Outline.Setting} {documents : List Document} {protocols : List Layout.Protocol}
    (h : ∀ p ∈ protocols, ∃ d ∈ documents, p.Placed s.naming d) :
    ∀ header ∈ headerTrees (Outline.ofLayouts s protocols), ∀ typeName members,
      .record typeName true members ∈ header.2.parts →
        ∃ d ∈ documents, ∃ frame ∈ d.protocol.frames,
          members.map (·.name) = frame.memberNames d.protocol.multiDevice := by
  refine forall_headerTrees (List.forall_mem_map.mpr fun p hp => ?_) (List.forall_mem_map.mpr fun p _ => ?_) ?_ ?_
  · intro typeName members hrecord
    obtain ⟨d, hmem, hplaced⟩ := h p hp
    obtain ⟨f, hf, -, -, rfl⟩ := record_mem_protocolHeader.mp hrecord
    obtain ⟨frame, hframe, hframePlaced⟩ := forall₂_mem_right hplaced.frames hf
    exact ⟨d, hmem, frame, hframe, hframePlaced.map_member⟩
  · exact fun typeName members hrecord => absurd (record_mem_instanceHeader.mp hrecord).2.1 (by decide)
  · exact fun typeName members hrecord => absurd hrecord record_not_mem_commonHeader
  · exact fun typeName members hrecord => absurd hrecord record_not_mem_utilsHeader

/-- The members of the struct of a frame have names that C takes exactly if no field of the frame is called by a reserved
word, and the structs of all frames are usable exactly if no field of any document is. Each struct stands in the header of
its subsystem, whichever emitter wrote it (only templates of the user's own may write anything else). -/
theorem members_usable_iff {options : CompilerOptions} {c : Compiler} {disk : Files.Disk} {documents : List Document}
    {compilation : Compilation} (hc : Compiler.ofOptions options = .ok c) (hd : ∀ d ∈ documents, d.Accepted)
    (h : c.compile disk documents = .ok compilation) :
    (∀ d ∈ documents, ∃ header,
      (Outline.protocolPath d.subsystem, header) ∈ headerTrees (c.outline compilation.protocols) ∧
      (c.options.emitter = .construct ∨ c.options.templates = none →
        compilation.artifacts.text? ⟨Outline.protocolPath d.subsystem⟩ = some header.text) ∧
      ∀ frame ∈ d.protocol.frames, ∃ members,
        .record (c.naming.frameType d.subsystem frame.name) true members ∈ header.parts ∧
        ((∀ m ∈ members, C.IsMemberName m.name) ↔ ∀ field ∈ frame.fields, field.name ∉ C.reservedWords)) ∧
    ((∀ header ∈ headerTrees (c.outline compilation.protocols), ∀ typeName members,
        .record typeName true members ∈ header.2.parts → ∀ m ∈ members, C.IsMemberName m.name) ↔
      ∀ d ∈ documents, ∀ frame ∈ d.protocol.frames, ∀ field ∈ frame.fields, field.name ∉ C.reservedWords) := by
  have built := Compiler.built_of_build (Compiler.compile_eq_ok h).1
  have usable : ∀ d ∈ documents, ∀ frame ∈ d.protocol.frames, ∀ members : List Member,
      members.map (·.name) = frame.memberNames d.protocol.multiDevice →
        ((∀ m ∈ members, C.IsMemberName m.name) ↔ ∀ field ∈ frame.fields, field.name ∉ C.reservedWords) := by
    intro d hmem frame hframe members hnames
    rw [← ((hd d hmem).wellFormed.frames frame hframe).usable_iff, ← hnames, List.forall_mem_map]
  refine ⟨fun d hmem => ?_, fun hstructs d hmem frame hframe => ?_, fun hfree header hheader typeName members hrecord => ?_⟩
  · obtain ⟨p, hp, hplaced⟩ := built.layout hmem
    have hheader := protocolHeader_mem (s := ⟨c.naming, c.options.includeRoot⟩) hp
    rw [hplaced.subsystem] at hheader
    refine ⟨_, hheader, fun hw => ?_, fun frame hframe => ?_⟩
    · rw [← hplaced.subsystem]
      exact (Compiler.text?_of_compile hc hw hd h hp).1
    · obtain ⟨members, hrecord, hnames⟩ :=
        record_of_frame (s := ⟨c.naming, c.options.includeRoot⟩) hplaced hframe
      exact ⟨members, hrecord, usable d hmem frame hframe members hnames⟩
  · obtain ⟨p, hp, hplaced⟩ := built.layout hmem
    obtain ⟨members, hrecord, hnames⟩ := record_of_frame (s := ⟨c.naming, c.options.includeRoot⟩) hplaced hframe
    exact (usable d hmem frame hframe members hnames).mp (hstructs _ (protocolHeader_mem hp) _ members hrecord)
  · obtain ⟨d, hmem, frame, hframe, hnames⟩ := frame_of_record (s := ⟨c.naming, c.options.includeRoot⟩)
      (fun p hp => built.origin hp) header hheader typeName members hrecord
    exact (usable d hmem frame hframe members hnames).mpr (hfree d hmem frame hframe)

/-- The struct of the sample's frame, which starts with the device id. -/
theorem members_usable_samples : ∃ (compilation : Compilation) (header : Declaration) (members : List Member),
    Compiler.ofTrees.compile ⟨.folder [], []⟩ [Document.sample, Document.fan] = .ok compilation ∧
      compilation.artifacts.text? ⟨Outline.protocolPath "psu"⟩ = some header.text ∧
      .record (Compiler.ofTrees.naming.frameType "psu" "limits") true members ∈ header.parts ∧
      ∀ m ∈ members, C.IsMemberName m.name := by
  obtain ⟨compilation, h⟩ := samples_compile ⟨.folder [], []⟩
  have haccepted : ∀ d ∈ [Document.sample, Document.fan], d.Accepted := by
    simpa using ⟨Document.sample_accepted, Document.fan_accepted⟩
  obtain ⟨hstructs, -⟩ := members_usable_iff Compiler.ofOptions_ofTrees haccepted h
  obtain ⟨header, -, htext, hframes⟩ := hstructs Document.sample List.mem_cons_self
  obtain ⟨members, hrecord, husable⟩ := hframes _ (List.mem_singleton_self _)
  exact ⟨compilation, header, members, h, htext (.inl rfl), hrecord, husable.mpr (by decide)⟩

end Emission

/-- A document with a field that is called by a keyword. -/
def Document.keyworded : Document.Single := ⟨"probe", 1, "state", 1, "int"⟩

set_option maxRecDepth 4000 in
theorem Document.keyworded_accepted : keyworded.document.Accepted :=
  Single.accepted (by decide +kernel) rfl rfl

/-- It is accepted and compiles, and the keyword is the member of a struct in the header. -/
theorem Emission.keyword_is_member : ∃ (compilation : Compilation) (header : Declaration) (members : List Member),
    Document.keyworded.document.Accepted ∧
      Compiler.ofTrees.compile ⟨.folder [], []⟩ [Document.keyworded.document] = .ok compilation ∧
      compilation.artifacts.text? ⟨"protocols/subsystems/probe_protocol.h"⟩ = some header.text ∧
      .record "KSRP_Probe_State_Frame" true members ∈ header.parts ∧
      members.map (·.name) = ["int"] ∧ "int" ∈ C.keywords := by
  have haccepted : ∀ d ∈ [Document.keyworded.document], d.Accepted := by simpa using Document.keyworded_accepted
  obtain ⟨compilation, h⟩ := compiles_single ⟨.folder [], []⟩ Document.keyworded_accepted (by decide +kernel)
  obtain ⟨p, hp, hplaced⟩ := (Compiler.built_of_build (Compiler.compile_eq_ok h).1).layout (List.mem_singleton_self _)
  obtain ⟨htext, -⟩ := Compiler.text?_of_compile Compiler.ofOptions_ofTrees (.inl rfl) haccepted h hp
  obtain ⟨members, hrecord, hnames⟩ :=
    record_of_frame (s := ⟨{}, Compiler.ofTrees.options.includeRoot⟩) hplaced (List.mem_singleton_self _)
  have hname : ({} : Naming).frameType "probe" "state" = "KSRP_Probe_State_Frame" := by decide +kernel
  rw [hplaced.subsystem] at htext
  exact ⟨compilation, _, members, Document.keyworded_accepted, h, htext, hname ▸ hrecord, hnames, by decide⟩

end StatusFrames
