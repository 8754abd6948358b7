/-
Names that types and functions tell apart. Main statement: such a name says which capitalized names it was made from, and
in a compilation no two subsystems, no two frames of a subsystem and no two fields of a frame have the same one. Names of
constants do not say as much, which is why all symbols are compared.
-/
import StatusFrames.Proofs.Emission.Writing
import StatusFrames.Proofs.Naming.Camel
import StatusFrames.Proofs.Outline.Registered

namespace StatusFrames

open Text (isIdentifier)
open Naming (camel upper)

namespace Naming

/-- Names of which no two have the same capitalized form. -/
def DistinctCamels (names : List String) : Prop := (names.map camel).Nodup

theorem DistinctCamels.sublist {names others : List String} (h : DistinctCamels others) (hsub : names.Sublist others) :
    DistinctCamels names :=
  List.Nodup.sublist (hsub.map camel) h

/-- Elements that bring in symbols of which no two are equal, among them one made from the capitalized name. -/
theorem distinctCamels_of_symbols {α : Type} {elements : List α} {symbols : α → List String}
    (h : (elements.flatMap symbols).Nodup) {name : α → String} (symbol : String → String)
    (hmem : ∀ a ∈ elements, symbol (camel (name a)) ∈ symbols a) : DistinctCamels (elements.map name) := by
  rw [DistinctCamels, List.Nodup, List.map_map, List.pairwise_map]
  refine (List.nodup_flatMap.mp h).2.imp_of_mem fun {a b} ha hb disjoint same => ?_
  exact disjoint (hmem a ha) (congrArg symbol same ▸ hmem b hb)

end Naming

open Naming (DistinctCamels distinctCamels_of_symbols)

/-! ## Layouts -/

namespace Outline

theorem distinctCamels_fields {naming : Naming} {subsystem : String} {f : Layout.Frame}
    (h : (ofFrame naming subsystem f).names.Nodup) : DistinctCamels (f.fields.map (·.name)) := by
  have fields := h.of_append_right
  rw [ofFrame, List.flatMap_map] at fields
  -- getters tell the fields apart, frame structs the frames and frame ids the subsystems
  refine distinctCamels_of_symbols fields (fun word => naming.symbol ["Get", camel subsystem, camel f.name, word]) ?_
  exact fun field _ => List.mem_append_left _ (List.mem_append_left _ List.mem_cons_self)

theorem distinctCamels_frames {s : Setting} {p : Layout.Protocol} (h : (ofProtocol s p).names.Nodup) :
    DistinctCamels (p.frames.map (·.name)) ∧ ∀ f ∈ p.frames, DistinctCamels (f.fields.map (·.name)) := by
  have frames := h.of_append_right
  rw [ofProtocol, List.flatMap_map] at frames
  refine ⟨distinctCamels_of_symbols frames (fun word => s.naming.symbol [camel p.subsystem, word, "Frame"]) ?_, ?_⟩
  · exact fun f _ => List.mem_append_left _ (List.mem_append_left _ List.mem_cons_self)
  · exact fun f hf => distinctCamels_fields ((List.nodup_flatMap.mp frames).1 f hf)

theorem distinctCamels_protocols {s : Setting} {protocols : List Layout.Protocol}
    (h : (ofLayouts s protocols).names.Nodup) :
    DistinctCamels (protocols.map (·.subsystem)) ∧ ∀ p ∈ protocols, DistinctCamels (p.frames.map (·.name)) ∧
      ∀ f ∈ p.frames, DistinctCamels (f.fields.map (·.name)) := by
  have elements := h.of_append_right
  rw [ofLayouts, List.flatMap_map] at elements
  refine ⟨distinctCamels_of_symbols elements (fun word => s.naming.symbol [word, "FrameID"]) ?_, ?_⟩
  · intro p _
    refine List.mem_append_left _ (List.mem_append_left _ (List.mem_append_left _ ?_))
    exact List.mem_cons_of_mem _ (List.mem_cons_of_mem _ List.mem_cons_self)
  · exact fun p hp => distinctCamels_frames ((List.nodup_flatMap.mp elements).1 p hp)

theorem nodup_names_of_symbolTable {s : Setting} {protocols : List Layout.Protocol} {table : SymbolTable}
    (h : (ofLayouts s protocols).symbolTable = .ok table) : (ofLayouts s protocols).names.Nodup :=
  (map_symbols_perm s protocols).nodup_iff.mp (symbolTable_eq_ok.mp h).1

end Outline

/-! ## Documents -/

namespace Compiler

section

variable {naming : Naming}

theorem distinctCamels_declared {protocol : Document.Protocol} {declared : Document.Frame} {f : Layout.Frame}
    (hplaced : f.Placed naming protocol declared) (h : DistinctCamels (f.fields.map (·.name))) :
    DistinctCamels (declared.fields.map (·.name)) := by
  obtain ⟨placed, hfields, hmatch⟩ := hplaced.fields
  have same : placed.map (·.name) = declared.fields.map (·.name) :=
    forall₂_map_eq hmatch fun _ _ hfield => hfield.elim fun _ hplaced => hplaced.name
  refine h.sublist ?_
  rw [← same, hfields]
  exact (List.sublist_append_right _ placed).map _

/-- Documents have the names of their layouts, the id of the device apart. -/
theorem distinctCamels_documents {documents : List Document} {protocols : List Layout.Protocol}
    (built : Built naming documents protocols)
    (h : DistinctCamels (protocols.map (·.subsystem)) ∧ ∀ p ∈ protocols, DistinctCamels (p.frames.map (·.name)) ∧
      ∀ f ∈ p.frames, DistinctCamels (f.fields.map (·.name))) :
    DistinctCamels (documents.map (·.subsystem)) ∧ ∀ d ∈ documents, DistinctCamels (d.protocol.frames.map (·.name)) ∧
      ∀ frame ∈ d.protocol.frames, DistinctCamels (frame.fields.map (·.name)) := by
  obtain ⟨hsubsystems, hframes⟩ := h
  have subsystems : protocols.map (·.subsystem) = (Document.sort documents).map (·.subsystem) :=
    forall₂_map_eq built.placed fun _ _ hp => hp.subsystem
  refine ⟨?_, fun d hd => ?_⟩
  · rw [subsystems] at hsubsystems
    exact (((Document.sort_perm documents).map _).map camel).nodup_iff.mp hsubsystems
  · obtain ⟨p, hp, hplaced⟩ := built.layout hd
    obtain ⟨hnames, hfields⟩ := hframes p hp
    have names : p.frames.map (·.name) = d.protocol.frames.map (·.name) :=
      forall₂_map_eq hplaced.frames fun _ _ hf => hf.name
    refine ⟨names ▸ hnames, fun frame hframe => ?_⟩
    obtain ⟨f, hf, hframePlaced⟩ := forall₂_mem_left hplaced.frames hframe
    exact distinctCamels_declared hframePlaced (hfields f hf)

end

/-- For every leading word and for names that are identifiers, a name of a type or function says which capitalized names
it was made from: two of one kind are equal exactly if these are. Names that agree in upper case agree when capitalized,
and upper case changes nothing the second time. In every compilation that succeeds, the capitalized names of the
subsystems, of the frames of a subsystem and of the fields of a frame differ, the id of the device among the latter. -/
theorem camel_tells_names_apart :
    (∀ (n : Naming) (subsystem frame field subsystem' frame' field' : String),
      (∀ name ∈ [subsystem, frame, field], isIdentifier name = true) →
      (∀ name ∈ [subsystem', frame', field'], isIdentifier name = true) →
        (n.enumType subsystem frame field = n.enumType subsystem' frame' field' ↔
          camel subsystem = camel subsystem' ∧ camel frame = camel frame' ∧ camel field = camel field') ∧
        (n.getter subsystem frame field = n.getter subsystem' frame' field' ↔
          camel subsystem = camel subsystem' ∧ camel frame = camel frame' ∧ camel field = camel field') ∧
        (n.setter subsystem frame field = n.setter subsystem' frame' field' ↔
          camel subsystem = camel subsystem' ∧ camel frame = camel frame' ∧ camel field = camel field')) ∧
    (∀ (n : Naming) (subsystem frame subsystem' frame' : String),
      (∀ name ∈ [subsystem, frame], isIdentifier name = true) →
      (∀ name ∈ [subsystem', frame'], isIdentifier name = true) →
        (n.frameType subsystem frame = n.frameType subsystem' frame' ↔
          camel subsystem = camel subsystem' ∧ camel frame = camel frame') ∧
        (n.fieldIdType subsystem frame = n.fieldIdType subsystem' frame' ↔
          camel subsystem = camel subsystem' ∧ camel frame = camel frame')) ∧
    (∀ (n : Naming) (subsystem subsystem' : String),
      isIdentifier subsystem = true → isIdentifier subsystem' = true →
        (n.frameIdType subsystem = n.frameIdType subsystem' ↔ camel subsystem = camel subsystem') ∧
        (n.instanceType subsystem = n.instanceType subsystem' ↔ camel subsystem = camel subsystem') ∧
        (n.frameSizeLookup subsystem = n.frameSizeLookup subsystem' ↔ camel subsystem = camel subsystem') ∧
        (n.typeIdCheck subsystem = n.typeIdCheck subsystem' ↔ camel subsystem = camel subsystem')) ∧
    (∀ x y, isIdentifier x = true → isIdentifier y = true → upper x = upper y → camel x = camel y) ∧
    (∀ x, isIdentifier x = true → upper (upper x) = upper x) ∧
    ∀ (c : Compiler) (disk : Files.Disk) (documents : List Document) (compilation : Compilation),
      c.compile disk documents = .ok compilation →
        (DistinctCamels (documents.map (·.subsystem)) ∧
          ∀ d ∈ documents, DistinctCamels (d.protocol.frames.map (·.name)) ∧
            ∀ frame ∈ d.protocol.frames, DistinctCamels (frame.fields.map (·.name))) ∧
        DistinctCamels (compilation.protocols.map (·.subsystem)) ∧
          ∀ p ∈ compilation.protocols, DistinctCamels (p.frames.map (·.name)) ∧
            ∀ f ∈ p.frames, DistinctCamels (f.fields.map (·.name)) := by
  refine ⟨?_, ?_, ?_, ?_, fun x hx => Naming.upper_upper hx, ?_⟩
  · intro n subsystem frame field subsystem' frame' field' hnames hothers
    exact ⟨n.field_symbol_inj [] (by simp) hnames hothers, n.field_symbol_inj ["Get"] (by decide) hnames hothers,
      n.field_symbol_inj ["Set"] (by decide) hnames hothers⟩
  · intro n subsystem frame subsystem' frame' hnames hothers
    exact ⟨n.frame_symbol_inj "Frame" (by decide) hnames hothers,
      n.frame_symbol_inj "FieldID" (by decide) hnames hothers⟩
  · intro n subsystem subsystem' hname hother
    exact ⟨n.subsystem_symbol_inj [] ["FrameID"] (by decide) hname hother,
      n.subsystem_symbol_inj [] ["Instance"] (by decide) hname hother,
      n.subsystem_symbol_inj ["FrameSize"] [] (by decide) hname hother,
      n.subsystem_symbol_inj ["IsTypeIDOf"] [] (by decide) hname hother⟩
  · intro x y hx hy h
    calc camel x
      _ = camel (upper x) := (Naming.camel_upper hx).symm
      _ = camel (upper y) := by rw [h]
      _ = camel y := Naming.camel_upper hy
  · intro c disk documents compilation h
    obtain ⟨hbuild, -, table, htable, -⟩ := compile_eq_ok h
    have layouts := Outline.distinctCamels_protocols (Outline.nodup_names_of_symbolTable htable)
    exact ⟨distinctCamels_documents (built_of_build hbuild) layouts, layouts⟩

/-- Names that constants of the output run together and types and functions keep apart, two spellings of one name, and
two samples. -/
theorem camel_tells_names_apart_samples :
    (({} : Naming).fieldId "a_b" "c" "d" = ({} : Naming).fieldId "a" "b_c" "d" ∧
      ({} : Naming).getter "a_b" "c" "d" ≠ ({} : Naming).getter "a" "b_c" "d") ∧
    (({} : Naming).frameId "a_b" "c" = ({} : Naming).frameId "a" "b_c" ∧
      ({} : Naming).frameType "a_b" "c" ≠ ({} : Naming).frameType "a" "b_c") ∧
    (upper "fast_idle" = upper "_FAST__Idle" ∧ camel "fast_idle" = camel "_FAST__Idle" ∧
      ({} : Naming).instanceType "fast_idle" = ({} : Naming).instanceType "_FAST__Idle") ∧
    ∃ compilation, ofTrees.compile ⟨.folder [], []⟩ [Document.sample, Document.fan] = .ok compilation ∧
      DistinctCamels ["psu", "fan"] ∧ ∀ p ∈ compilation.protocols, ∀ f ∈ p.frames,
        DistinctCamels (f.fields.map (·.name)) := by
  obtain ⟨fields, frames, subsystems, spellings, -, compiled⟩ := camel_tells_names_apart
  have same : camel "fast_idle" = camel "_FAST__Idle" := spellings _ _ (by decide) (by decide) (by decide +kernel)
  obtain ⟨compilation, h⟩ := samples_compile ⟨.folder [], []⟩
  obtain ⟨⟨hsubsystems, -⟩, -, hlayouts⟩ := compiled _ _ _ _ h
  refine ⟨⟨by decide +kernel, fun he => ?_⟩, ⟨by decide +kernel, fun he => ?_⟩,
    ⟨by decide +kernel, same, ?_⟩, compilation, h, hsubsystems, fun p hp => (hlayouts p hp).2⟩
  · have hsubsystem := ((fields {} "a_b" "c" "d" "a" "b_c" "d" (by decide) (by decide)).2.1.mp he).1
    exact absurd hsubsystem (by decide +kernel)
  · have hsubsystem := ((frames {} "a_b" "c" "a" "b_c" (by decide) (by decide)).1.mp he).1
    exact absurd hsubsystem (by decide +kernel)
  · exact (subsystems {} "fast_idle" "_FAST__Idle" (by decide) (by decide)).2.1.mpr same

end Compiler

end StatusFrames
