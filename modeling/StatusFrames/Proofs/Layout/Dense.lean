/-
Frames are dense: the fields of a frame take every byte of it exactly once, in the order of the document, and the C
compiler sees the same layout in the packed struct.
-/
import StatusFrames.Proofs.C.Packed
import StatusFrames.Proofs.Layout.Placed
import StatusFrames.Proofs.Registry

namespace StatusFrames.Layout

/-! ## Fields that follow each other -/

@[simp] theorem totalWidth_nil : totalWidth [] = 0 := rfl

@[simp] theorem totalWidth_cons (f : Field) (rest : List Field) :
    totalWidth (f :: rest) = f.width + totalWidth rest := rfl

theorem Frame.size_eq (f : Frame) : f.size = totalWidth f.fields := rfl

namespace Consecutive

variable {start : Nat} {fields : List Field}

theorem offset_eq {before after : List Field} {f : Field} (h : Consecutive start (before ++ f :: after)) :
    f.offset = start + totalWidth before := by
  induction before generalizing start with
  | nil => exact h.1
  | cons g rest ih =>
    rw [ih h.2, totalWidth_cons]
    omega

/-- A byte lies in one of the fields exactly when it lies between the start and the end of them all. -/
theorem covers (h : Consecutive start fields) (byte : Nat) :
    (∃ f ∈ fields, f.offset ≤ byte ∧ byte < f.endOffset) ↔ start ≤ byte ∧ byte < start + totalWidth fields := by
  induction fields generalizing start with
  | nil =>
    simp only [List.not_mem_nil, false_and, exists_false, totalWidth_nil, false_iff]
    omega
  | cons f rest ih =>
    obtain ⟨hoffset, hrest⟩ := h
    rw [List.exists_mem_cons_iff, ih hrest, totalWidth_cons, Field.endOffset, hoffset]
    omega

theorem offset_ge (h : Consecutive start fields) : ∀ f ∈ fields, start ≤ f.offset := by
  induction fields generalizing start with
  | nil => simp
  | cons f rest ih =>
    obtain ⟨hoffset, hrest⟩ := h
    refine List.forall_mem_cons.mpr ⟨Nat.le_of_eq hoffset.symm, fun g hg => ?_⟩
    have := ih hrest g hg
    omega

/-- No byte lies in two fields. -/
theorem separate (h : Consecutive start fields) : fields.Pairwise fun f g => f.endOffset ≤ g.offset := by
  induction fields generalizing start with
  | nil => exact .nil
  | cons f rest ih =>
    obtain ⟨hoffset, hrest⟩ := h
    refine .cons (fun g hg => ?_) (ih hrest)
    have := hrest.offset_ge g hg
    rw [Field.endOffset]
    omega

theorem last_end (h : Consecutive start fields) (hne : fields ≠ []) :
    fields.getLast?.map (·.endOffset) = some (start + totalWidth fields) := by
  induction fields generalizing start with
  | nil => exact absurd rfl hne
  | cons f rest ih =>
    obtain ⟨hoffset, hrest⟩ := h
    cases rest with
    | nil => simp [Field.endOffset, hoffset]
    | cons g rest =>
      rw [List.getLast?_cons_cons, ih hrest (List.cons_ne_nil _ _), totalWidth_cons f]
      congr 1
      omega

end Consecutive

/-! ## Frames -/

/-- A frame of which every byte belongs to exactly one field. -/
structure Frame.Dense (multiDevice : Bool) (declared : Document.Frame) (f : Frame) : Prop where
  name : f.name = declared.name
  /-- The device id stands in front exactly for several devices; behind it is one field for each declared one. -/
  fields : ∃ placed, f.fields = (if multiDevice then [deviceId] else []) ++ placed ∧
    List.Forall₂ (fun d p => p.name = d.name ∧ p.declaredType = d.typeName ∧ p.isDeviceId = false)
      declared.fields placed
  offset : ∀ before field after, f.fields = before ++ field :: after → field.offset = totalWidth before
  storageType : ∀ field ∈ f.fields, field.storageType = Registry.storageName field.declaredType
  width : ∀ field ∈ f.fields, C.sizeOf? field.storageType = some field.width
  covered : ∀ byte, byte < f.size ↔ ∃ field ∈ f.fields, field.offset ≤ byte ∧ byte < field.endOffset
  separate : f.fields.Pairwise fun a b => a.endOffset ≤ b.offset
  size_pos : 1 ≤ f.size
  last : f.fields.getLast?.map (·.endOffset) = some f.size

theorem Field.Placed.isDeviceId {scope : Scope} {entry : TypeEntry} {declared : Document.Field} {f : Field}
    (h : f.Placed scope entry declared) : f.isDeviceId = false := by
  have hkind := h.kind
  cases hk : entry.kind with
  | bool =>
    rw [hk] at hkind
    simp [Field.isDeviceId, show f.kind = .boolCast from hkind]
  | enum =>
    rw [hk] at hkind
    obtain ⟨values, -, hkind⟩ := hkind
    simp [Field.isDeviceId, hkind]
  | unsigned | signed | float =>
    rw [hk] at hkind
    simp [Field.isDeviceId, show f.kind = .native from hkind]

section

variable {naming : Naming} {protocol : Document.Protocol} {declared : Document.Frame} {f : Frame}
  (h : f.Placed naming protocol declared)

include h

theorem Frame.Placed.storageType : ∀ field ∈ f.fields, field.storageType = Registry.storageName field.declaredType :=
  h.forall_fields (by decide) fun _ _ _ _ hp => hp.declaredType ▸ Registry.storageType_eq hp.type hp.storageType

theorem Frame.Placed.width : ∀ field ∈ f.fields, C.sizeOf? field.storageType = some field.width ∧ 1 ≤ field.width :=
  h.forall_fields (by decide) fun _ _ _ _ hp => Registry.sizeOf?_storage hp.type hp.storageType hp.width

theorem Frame.Placed.dense (hwf : declared.WellFormed protocol.multiDevice) :
    f.Dense protocol.multiDevice declared := by
  have hne := h.fields_ne_nil hwf
  have hsize : 1 ≤ f.size := by
    cases hf : f.fields with
    | nil => exact absurd hf hne
    | cons field rest =>
      have := (h.width field (by simp [hf])).2
      rw [f.size_eq, hf, totalWidth_cons]
      omega
  obtain ⟨placed, hfields, hmatch⟩ := h.fields
  refine ⟨h.name, ⟨placed, hfields, hmatch.imp ?_⟩, ?_, h.storageType, fun x hx => (h.width x hx).1, ?_,
    h.consecutive.separate, hsize, ?_⟩
  · rintro d p ⟨entry, hp⟩
    exact ⟨hp.name, hp.declaredType, hp.isDeviceId⟩
  · intro before field after hsplit
    have := (hsplit ▸ h.consecutive).offset_eq
    omega
  · intro byte
    rw [h.consecutive.covers byte, f.size_eq]
    omega
  · rw [h.consecutive.last_end hne, f.size_eq, Nat.zero_add]

end

end StatusFrames.Layout
