/-
The struct of a frame as C sees it has the layout that was computed for the frame: the same members at the same places,
and the size that the header asserts.
-/
import StatusFrames.Outline.Drafting
import StatusFrames.Proofs.Document.Literals
import StatusFrames.Proofs.Emission.Contents
import StatusFrames.Proofs.Layout.Dense

namespace StatusFrames

open Declaration (partsOf)
open Emission

namespace Layout

/-- The struct member for a field. -/
def Field.member (f : Field) : Member := .placed f.storageType f.name f.offset f.width

def Field.slot (f : Field) : C.Slot := ⟨f.name, f.offset, f.width⟩

theorem packed?_members {fields : List Field} {start : Nat} (h : Consecutive start fields)
    (hwidth : ∀ f ∈ fields, C.sizeOf? f.storageType = some f.width) :
    C.packed? start (fields.map (·.member)) = some (fields.map (·.slot)) := by
  induction fields generalizing start with
  | nil => rfl
  | cons f rest ih =>
    obtain ⟨hoffset, hrest⟩ := h
    obtain ⟨hf, hwidths⟩ := List.forall_mem_cons.mp hwidth
    simp only [List.map_cons, C.packed?]
    rw [show f.member.cType = f.storageType from rfl, hf]
    simp only [Option.bind_eq_bind, Option.bind_some, ih hrest hwidths]
    rw [← hoffset]
    rfl

theorem packedSize?_members {fields : List Field} (hwidth : ∀ f ∈ fields, C.sizeOf? f.storageType = some f.width) :
    C.packedSize? (fields.map (·.member)) = some (totalWidth fields) := by
  induction fields with
  | nil => rfl
  | cons f rest ih =>
    obtain ⟨hf, hwidths⟩ := List.forall_mem_cons.mp hwidth
    simp only [List.map_cons, C.packedSize?]
    rw [show f.member.cType = f.storageType from rfl, hf, ih hwidths]
    rfl

/-- What is emitted for a frame agrees with its layout. -/
structure Frame.Emitted (naming : Naming) (subsystem : String) (f : Frame) : Prop where
  outline : (Outline.ofFrame naming subsystem f).fields.map (fun x => (x.storageType, x.name, x.offset, x.width)) =
    f.fields.map fun x => (x.storageType, x.name, x.offset, x.width)
  sizeConstant : .define (naming.frameSize subsystem f.name) (toString f.size) ∈
    partsOf (frameBlocks (Outline.ofFrame naming subsystem f))
  /-- There is one struct, and it is packed. -/
  struct : ∀ typeName packed members,
    .record typeName packed members ∈ partsOf (frameBlocks (Outline.ofFrame naming subsystem f)) ↔
      typeName = naming.frameType subsystem f.name ∧ packed = true ∧ members = f.fields.map (·.member)
  /-- C puts the members where the layout has the fields. -/
  slots : C.packed? 0 (f.fields.map (·.member)) = some (f.fields.map (·.slot))
  asserted : ∃ message, .staticAssert
    ("sizeof(" ++ naming.frameType subsystem f.name ++ ") == " ++ naming.frameSize subsystem f.name) message ∈
      partsOf (frameBlocks (Outline.ofFrame naming subsystem f))
  holds : ∀ condition message,
    .staticAssert condition message ∈ partsOf (frameBlocks (Outline.ofFrame naming subsystem f)) →
      C.SizeAssertHolds (partsOf (frameBlocks (Outline.ofFrame naming subsystem f))) condition

section

variable (naming : Naming) (subsystem : String) (f : Frame)

theorem members_ofFrame :
    ((Outline.ofFrame naming subsystem f).fields.map fun x => Member.placed x.storageType x.name x.offset x.width) =
      f.fields.map (·.member) := by
  simp only [Outline.ofFrame, List.map_map]
  rfl

theorem record_mem_frameBlocks {typeName : String} {packed : Bool} {members : List Member} :
    .record typeName packed members ∈ partsOf (frameBlocks (Outline.ofFrame naming subsystem f)) ↔
      typeName = naming.frameType subsystem f.name ∧ packed = true ∧ members = f.fields.map (·.member) := by
  rw [partsOf_frameBlocks, members_ofFrame]
  simp [constant, enumeration, prototype, Outline.ofFrame]

theorem staticAssert_mem_frameBlocks {condition message : String} :
    .staticAssert condition message ∈ partsOf (frameBlocks (Outline.ofFrame naming subsystem f)) ↔
      condition = "sizeof(" ++ naming.frameType subsystem f.name ++ ") == " ++ naming.frameSize subsystem f.name ∧
        message = (Outline.ofFrame naming subsystem f).sizeAssert := by
  simp [partsOf_frameBlocks, constant, enumeration, prototype, Outline.ofFrame]

theorem size_mem_frameBlocks : .define (naming.frameSize subsystem f.name) (toString f.size) ∈
    partsOf (frameBlocks (Outline.ofFrame naming subsystem f)) := by
  simp [partsOf_frameBlocks, constant, enumeration, prototype, Outline.ofFrame]

end

theorem Frame.Placed.emitted {naming : Naming} {protocol : Document.Protocol} {declared : Document.Frame} {f : Frame}
    (h : f.Placed naming protocol declared) (subsystem : String) : f.Emitted naming subsystem := by
  have hwidth : ∀ x ∈ f.fields, C.sizeOf? x.storageType = some x.width := fun x hx => (h.width x hx).1
  refine ⟨?_, size_mem_frameBlocks naming subsystem f, fun _ _ _ => record_mem_frameBlocks naming subsystem f,
    packed?_members h.consecutive hwidth, ⟨_, (staticAssert_mem_frameBlocks naming subsystem f).mpr ⟨rfl, rfl⟩⟩, ?_⟩
  · simp only [Outline.ofFrame, List.map_map]
    rfl
  · intro condition message hmem
    obtain ⟨rfl, -⟩ := (staticAssert_mem_frameBlocks naming subsystem f).mp hmem
    exact ⟨_, _, _, _, rfl, (record_mem_frameBlocks naming subsystem f).mpr ⟨rfl, rfl, rfl⟩,
      size_mem_frameBlocks naming subsystem f, packedSize?_members hwidth⟩

/-- Assertions stand in the blocks of frames only. -/
theorem staticAssert_mem_protocolHeader {s : Outline.Setting} {p : Protocol} {condition message : String}
    (h : .staticAssert condition message ∈ (protocolHeader (Outline.ofProtocol s p)).parts) :
    ∃ f ∈ p.frames,
      .staticAssert condition message ∈ partsOf (frameBlocks (Outline.ofFrame s.naming p.subsystem f)) := by
  rw [parts_protocolHeader, partsOf_inclusions] at h
  simpa [protocolHeader, enumeration, Outline.ofProtocol] using h

end Layout

/-- The fields of every frame of an accepted document lie densely in the order of the document, what the header holds for
a frame has that layout, and all size assertions of the header hold. -/
theorem Layout.frames_dense {naming : Naming} {d : Document} {p : Layout.Protocol} (hd : d.Accepted)
    (hp : Layout.ofDocument naming d = .ok p) (includeRoot : String) :
    List.Forall₂ (fun declared frame => frame.Dense d.protocol.multiDevice declared ∧ frame.Emitted naming p.subsystem)
        d.protocol.frames p.frames ∧
      (∀ frame ∈ p.frames, partsOf (frameBlocks (Outline.ofFrame naming p.subsystem frame)) ⊆
        (protocolHeader (Outline.ofProtocol ⟨naming, includeRoot⟩ p)).parts) ∧
      ∀ condition message,
        .staticAssert condition message ∈ (protocolHeader (Outline.ofProtocol ⟨naming, includeRoot⟩ p)).parts →
          ∃ frame ∈ p.frames,
            C.SizeAssertHolds (partsOf (frameBlocks (Outline.ofFrame naming p.subsystem frame))) condition := by
  have placed := (ofDocument_eq_ok hp).frames
  have wellFormed := hd.wellFormed.frames
  refine ⟨?_, fun frame hframe => frameBlocks_subset (List.mem_map.mpr ⟨frame, hframe, rfl⟩), ?_⟩
  · refine ((List.forall₂_and_left _ _).mpr ⟨wellFormed, placed⟩).imp ?_
    rintro declared frame ⟨hwf, hplaced⟩
    exact ⟨hplaced.dense hwf, hplaced.emitted p.subsystem⟩
  · intro condition message hmem
    obtain ⟨frame, hframe, hmem⟩ := staticAssert_mem_protocolHeader hmem
    obtain ⟨declared, -, hplaced⟩ := forall₂_mem_right placed hframe
    exact ⟨frame, hframe, (hplaced.emitted p.subsystem).holds condition message hmem⟩

theorem Layout.frames_dense_sample : ∃ p, Layout.ofDocument {} Document.sample = .ok p ∧
    List.Forall₂ (fun declared frame => frame.Dense true declared ∧ frame.Emitted {} p.subsystem)
      Document.sample.protocol.frames p.frames := by
  obtain ⟨p, hp⟩ : ∃ p, Layout.ofDocument {} Document.sample = .ok p := ok_of_isOk (by decide +kernel)
  exact ⟨p, hp, (frames_dense Document.sample_accepted hp "headers").1⟩

end StatusFrames
