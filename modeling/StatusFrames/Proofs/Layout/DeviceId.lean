/-
One device against several. A protocol for several devices has a device id in front of every frame; everything else of
its layout is that of the same protocol for one device, a byte further back, and what cannot be laid out for one cannot
be laid out for several, for the same reason.
-/
import StatusFrames.Proofs.Layout.Dense

namespace StatusFrames

namespace Document

/-- The same protocol for several devices. -/
def Protocol.forSeveral (p : Protocol) : Protocol := { p with multiDevice := true }

/-- Several devices ask for a free name and for nothing else. -/
theorem Frame.WellFormed.forSeveral {f : Frame} {multiDevice : Bool} (h : f.WellFormed multiDevice)
    (hfree : ∀ field ∈ f.fields, field.name ≠ deviceIdName) : f.WellFormed true where
  name := h.name
  occupied := .inr rfl
  fields field hfield := { h.fields field hfield with notReserved := fun _ => hfree field hfield }
  distinctFields := h.distinctFields

theorem Protocol.WellFormed.forSeveral {p : Protocol} (h : p.WellFormed)
    (hfree : ∀ frame ∈ p.frames, ∀ field ∈ frame.fields, field.name ≠ deviceIdName) : p.forSeveral.WellFormed where
  subsystem := h.subsystem
  occupied := h.occupied
  frames frame hframe := (h.frames frame hframe).forSeveral (hfree frame hframe)
  distinctFrames := h.distinctFrames
  distinctIds := h.distinctIds

end Document

namespace Layout

/-! ## Fields further back -/

/-- A field that stands `bytes` further back. -/
def Field.moved (bytes : Nat) (f : Field) : Field := { f with offset := f.offset + bytes }

@[simp] theorem Field.endOffset_moved (bytes : Nat) (f : Field) : (f.moved bytes).endOffset = f.endOffset + bytes := by
  simp only [Field.endOffset, Field.moved]
  omega

@[simp] theorem Field.isDeviceId_moved (bytes : Nat) (f : Field) : (f.moved bytes).isDeviceId = f.isDeviceId := rfl

theorem totalWidth_moved (bytes : Nat) (fields : List Field) :
    totalWidth (fields.map (Field.moved bytes)) = totalWidth fields := by
  induction fields with
  | nil => rfl
  | cons f rest ih => rw [List.map_cons, totalWidth_cons, totalWidth_cons, ih]; rfl

section

variable (scope : Scope) (location : Location) (offset bytes : Nat)

/-- Where a field is placed decides about its offset and about nothing else. -/
theorem placeField_moved (field : Document.Field) :
    placeField scope location (offset + bytes) field = Field.moved bytes <$> placeField scope location offset field := by
  simp only [placeField, map_bind]
  refine bind_congr fun resolved => ?_
  obtain ⟨entry, storage, width⟩ := resolved
  refine bind_congr fun kind => ?_
  cases field.initial <;> simp only [map_bind] <;> rfl

/-- Fields that start further back all stand further back, since each starts where the one before it ends. -/
theorem placeFields_moved (fields : List Document.Field) :
    placeFields scope location (offset + bytes) fields =
      List.map (Field.moved bytes) <$> placeFields scope location offset fields := by
  induction fields generalizing offset with
  | nil => rfl
  | cons field rest ih =>
    simp only [placeFields, placeField_moved, bind_map_left, map_bind, Field.endOffset_moved, ih]
    rfl

end

/-! ## Frames with a device id -/

/-- The frame with a device id in front of its fields. -/
def Frame.withDeviceId (f : Frame) : Frame := { f with fields := deviceId :: f.fields.map (Field.moved 1) }

/-- The layout with a device id in front of every frame. -/
def Protocol.withDeviceIds (p : Protocol) : Protocol :=
  { p with multiDevice := true, frames := p.frames.map Frame.withDeviceId }

theorem placeFrame_forSeveral (naming : Naming) {protocol : Document.Protocol} (hone : protocol.multiDevice = false)
    (location : Location) (frame : Document.Frame) :
    placeFrame naming protocol.forSeveral location frame =
      Frame.withDeviceId <$> placeFrame naming protocol location frame := by
  have start : deviceId.endOffset = 0 + 1 := rfl
  simp only [placeFrame, Document.Protocol.forSeveral, hone, if_true, Bool.false_eq_true, if_false, start,
    placeFields_moved, bind_map_left, map_bind]
  rfl

theorem ofDocument_forSeveral (naming : Naming) (path : Files.Path) {protocol : Document.Protocol}
    (hone : protocol.multiDevice = false) :
    ofDocument naming ⟨path, protocol.forSeveral⟩ = Protocol.withDeviceIds <$> ofDocument naming ⟨path, protocol⟩ := by
  simp only [ofDocument, placeFrame_forSeveral naming hone, mapM_map, bind_map_left, map_bind]
  rfl

/-- A frame against the same one for several devices. -/
structure Frame.Shifted (one several : Frame) : Prop where
  name : several.name = one.name
  id : several.id = one.id
  front : several.fields.head? =
    some { name := "device_id", declaredType := "uint8_t", storageType := "uint8_t", offset := 0, width := 1,
           kind := .deviceId, initial := none, healthChecks := [] }
  rest : several.fields.tail = several.declaredFields
  declared : several.declaredFields = one.fields.map fun f => { f with offset := f.offset + 1 }
  size : several.size = one.size + 1

theorem Frame.shifted_withDeviceId {f : Frame} (hdeclared : ∀ field ∈ f.fields, field.isDeviceId = false) :
    f.Shifted f.withDeviceId := by
  have declared : f.withDeviceId.declaredFields = f.fields.map (Field.moved 1) := by
    have behind : ∀ field ∈ f.fields.map (Field.moved 1), (!field.isDeviceId) = true := by
      simpa using hdeclared
    rw [Frame.declaredFields, withDeviceId, List.filter_cons_of_neg (by decide), List.filter_eq_self.mpr behind]
  refine ⟨rfl, rfl, rfl, declared.symm, declared, ?_⟩
  rw [Frame.size_eq, Frame.size_eq, withDeviceId, totalWidth_cons, totalWidth_moved, Nat.add_comm]
  rfl

/-- A protocol for one device that passes the checks and leaves the name of the device id alone passes them for several
devices too. It can be laid out for several devices exactly when it can for one, with the same error otherwise, and then
each frame keeps its name and id, starts with the device id, and has behind it the fields that it has for one device, each
of them the same but for standing one byte further back. -/
theorem device_id_shifts_fields (naming : Naming) (path : Files.Path) {protocol : Document.Protocol}
    {location : Location} (hone : protocol.multiDevice = false) (hcheck : protocol.check location = .ok ())
    (hfree : ∀ frame ∈ protocol.frames, ∀ field ∈ frame.fields, field.name ≠ "device_id") :
    protocol.forSeveral.check location = .ok () ∧
    (∀ e, ofDocument naming ⟨path, protocol.forSeveral⟩ = .error e ↔ ofDocument naming ⟨path, protocol⟩ = .error e) ∧
    ((∃ several, ofDocument naming ⟨path, protocol.forSeveral⟩ = .ok several) ↔
      ∃ one, ofDocument naming ⟨path, protocol⟩ = .ok one) ∧
    ∀ one several, ofDocument naming ⟨path, protocol⟩ = .ok one →
      ofDocument naming ⟨path, protocol.forSeveral⟩ = .ok several →
      several.subsystem = one.subsystem ∧ several.subsystemId = one.subsystemId ∧ several.source = one.source ∧
      several.multiDevice = true ∧ List.Forall₂ Frame.Shifted one.frames several.frames := by
  rw [ofDocument_forSeveral naming path hone]
  refine ⟨?_, ?_, ?_, ?_⟩
  · exact Document.Protocol.check_eq_ok.mpr ((Document.Protocol.check_eq_ok.mp hcheck).forSeveral hfree)
  · intro e
    cases ofDocument naming ⟨path, protocol⟩ <;> simp [Functor.map, Except.map]
  · cases ofDocument naming ⟨path, protocol⟩ <;> simp [Functor.map, Except.map]
  · intro one several h hseveral
    rw [h] at hseveral
    obtain rfl : one.withDeviceIds = several := Except.ok.inj hseveral
    have placed := ofDocument_eq_ok h
    refine ⟨rfl, rfl, rfl, rfl, ?_⟩
    rw [Protocol.withDeviceIds, List.forall₂_map_right_iff, List.forall₂_same]
    intro f hf
    obtain ⟨declared, -, hplaced⟩ := forall₂_mem_right placed.frames hf
    obtain ⟨fields, hfields, hmatch⟩ := hplaced.fields
    refine Frame.shifted_withDeviceId fun field hfield => ?_
    rw [hfields, hone] at hfield
    obtain ⟨_, -, entry, hentry⟩ := forall₂_mem_right hmatch hfield
    exact hentry.isDeviceId

/-- A protocol for one device with two frames, initial values and health checks. -/
def winch : Document.Protocol :=
  ⟨"winch", 9, false,
    [⟨"drum", 1,
      [⟨"mode", "enum", some (.label "run"), [⟨"idle", none⟩, ⟨"run", some 4⟩],
        [⟨.exact, some (.label "run"), none, none, some "turning", none, none⟩]⟩,
       ⟨"load", "int16_t", some (.integer (-5)), [],
        [⟨.range, none, some (.integer (-10)), some (.integer 10), none, none, none⟩]⟩]⟩,
     ⟨"brake", 2, [⟨"held", "bool", some (.bool true), [], []⟩]⟩]⟩

theorem device_id_shifts_fields_winch :
    winch.multiDevice = false ∧ winch.check { document := ⟨"winch.yaml"⟩ } = .ok () ∧
    (∀ frame ∈ winch.frames, ∀ field ∈ frame.fields, field.name ≠ "device_id") ∧
    winch.forSeveral.check { document := ⟨"winch.yaml"⟩ } = .ok () ∧
    ∃ one several, ofDocument {} ⟨⟨"winch.yaml"⟩, winch⟩ = .ok one ∧
      ofDocument {} ⟨⟨"winch.yaml"⟩, winch.forSeveral⟩ = .ok several ∧
      List.Forall₂ Frame.Shifted one.frames several.frames := by
  have hcheck : winch.check { document := ⟨"winch.yaml"⟩ } = .ok () := rfl
  have hfree : ∀ frame ∈ winch.frames, ∀ field ∈ frame.fields, field.name ≠ "device_id" := by decide
  obtain ⟨one, hone⟩ : ∃ one, ofDocument {} ⟨⟨"winch.yaml"⟩, winch⟩ = .ok one := ok_of_isOk (by decide +kernel)
  obtain ⟨passes, -, outcome, shifted⟩ := device_id_shifts_fields {} ⟨"winch.yaml"⟩ rfl hcheck hfree
  obtain ⟨several, hseveral⟩ := outcome.mpr ⟨one, hone⟩
  exact ⟨rfl, hcheck, hfree, passes, one, several, hone, hseveral, (shifted one several hone hseveral).2.2.2.2⟩

end Layout

end StatusFrames
