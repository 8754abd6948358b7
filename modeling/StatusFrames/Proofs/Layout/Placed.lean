/-
What a layout that was made says about the document it was made from: for every declared field there is one placed
field, with the type, storage and checks that the registry and the document ask for, and each field starts where the one
before it ends. Everything later stages need to know about layouts is read off here.
-/
import StatusFrames.Layout.Placement
import StatusFrames.Proofs.Document.WellFormed

namespace StatusFrames.Layout

/-- Number of bytes that fields take together. -/
def totalWidth (fields : List Field) : Nat := fields.foldr (fun field rest => field.width + rest) 0

theorem Field.enumValues_eq {f : Field} {typeName : String} {values : List EnumValue}
    (h : f.kind = .enumCast typeName values) : f.enumValues = values := by
  rw [enumValues, h]
  rfl

/-- What the literals of a field are checked against. -/
def Field.domain (entry : TypeEntry) (f : Field) : Domain := ⟨entry.kind, f.width, f.enumValues⟩

/-- The kind that a declared field gets for the class of its type. -/
def KindOf (scope : Scope) (declared : Document.Field) : TypeClass → FieldKind → Prop
  | .bool, kind => kind = .boolCast
  | .enum, kind => ∃ values, numberLabels declared.values = .ok values ∧
      kind = .enumCast (scope.naming.enumType scope.subsystem scope.frame declared.name) values
  | _, kind => kind = .native

/-- A field as it was placed for a declared one. -/
structure Field.Placed (scope : Scope) (entry : TypeEntry) (declared : Document.Field) (f : Field) : Prop where
  name : f.name = declared.name
  declaredType : f.declaredType = declared.typeName
  type : Registry.get? declared.typeName = some entry
  storageType : Registry.storageType? declared.typeName = some f.storageType
  width : Registry.width? declared.typeName = some f.width
  kind : KindOf scope declared entry.kind f.kind
  initial : f.initial = declared.initial
  admitted : ∀ literal, declared.initial = some literal → (f.domain entry).check literal = .ok ()
  healthChecks : List.Forall₂ (fun check placed => healthCheck (f.domain entry) check = .ok placed)
    declared.healthChecks f.healthChecks

theorem Field.Placed.kind_of_enumCast {scope : Scope} {entry : TypeEntry} {declared : Document.Field} {f : Field}
    (h : f.Placed scope entry declared) {typeName : String} {values : List EnumValue}
    (hkind : f.kind = .enumCast typeName values) : entry.kind = .enum := by
  have hof := h.kind
  rw [hkind] at hof
  cases hk : entry.kind with
  | enum => rfl
  | bool | unsigned | signed | float =>
    rw [hk] at hof
    cases hof

/-- Fields of which each starts where the one before it ends, the first one at `start`. -/
def Consecutive : Nat → List Field → Prop
  | _, [] => True
  | start, f :: rest => f.offset = start ∧ Consecutive (start + f.width) rest

/-- A frame as it was placed for a declared one. -/
structure Frame.Placed (naming : Naming) (protocol : Document.Protocol) (declared : Document.Frame) (f : Frame) :
    Prop where
  name : f.name = declared.name
  id : f.id = declared.frameId
  fields : ∃ placed, f.fields = (if protocol.multiDevice then [deviceId] else []) ++ placed ∧
    List.Forall₂ (fun d p => ∃ entry, p.Placed ⟨naming, protocol.subsystem, declared.name⟩ entry d)
      declared.fields placed
  consecutive : Consecutive 0 f.fields

section

variable {naming : Naming} {protocol : Document.Protocol} {declared : Document.Frame} {f : Frame}
  (h : f.Placed naming protocol declared)

include h

theorem Frame.Placed.field {field : Document.Field} (hfield : field ∈ declared.fields) :
    ∃ x ∈ f.fields, ∃ entry, x.Placed ⟨naming, protocol.subsystem, declared.name⟩ entry field := by
  obtain ⟨placed, hfields, hmatch⟩ := h.fields
  obtain ⟨x, hx, hplaced⟩ := forall₂_mem_left hmatch hfield
  exact ⟨x, hfields ▸ List.mem_append_right _ hx, hplaced⟩

/-- What is true of the device id and of every placed field is true of all fields of a frame. -/
theorem Frame.Placed.forall_fields {P : Field → Prop} (hid : P deviceId)
    (hplaced : ∀ d ∈ declared.fields, ∀ entry p,
      Field.Placed ⟨naming, protocol.subsystem, declared.name⟩ entry d p → P p) :
    ∀ field ∈ f.fields, P field := by
  obtain ⟨placed, hfields, hmatch⟩ := h.fields
  intro field hmem
  rw [hfields, List.mem_append] at hmem
  rcases hmem with hmem | hmem
  · split at hmem
    · exact List.mem_singleton.mp hmem ▸ hid
    · cases hmem
  · obtain ⟨d, hd, entry, hp⟩ := forall₂_mem_right hmatch hmem
    exact hplaced d hd entry field hp

theorem Frame.Placed.fields_ne_nil (hwf : declared.WellFormed protocol.multiDevice) : f.fields ≠ [] := by
  obtain ⟨placed, hfields, hmatch⟩ := h.fields
  rcases hwf.occupied with hne | hmulti
  · intro hnil
    rw [hfields, List.append_eq_nil_iff] at hnil
    rw [hnil.2] at hmatch
    exact hne (List.forall₂_nil_right_iff.mp hmatch)
  · rw [hfields, hmulti]
    exact List.cons_ne_nil _ _

end

/-- A layout as it was made for a document. -/
structure Protocol.Placed (naming : Naming) (document : Document) (p : Protocol) : Prop where
  subsystem : p.subsystem = document.subsystem
  subsystemId : p.subsystemId = document.subsystemId
  multiDevice : p.multiDevice = document.protocol.multiDevice
  source : p.source = document.path
  frames : List.Forall₂ (Frame.Placed naming document.protocol) document.protocol.frames p.frames

theorem fieldKind_eq_ok {scope : Scope} {location : Location} {declared : Document.Field} {kind : TypeClass}
    {k : FieldKind} (h : fieldKind scope location declared kind = .ok k) : KindOf scope declared kind k := by
  cases kind with
  | bool => exact (Except.ok.inj h).symm
  | enum =>
    simp only [fieldKind] at h
    cases hn : numberLabels declared.values with
    | error e => simp [hn] at h
    | ok values =>
      simp only [hn, Except.ok.injEq] at h
      exact ⟨values, hn, h.symm⟩
  | unsigned => exact (Except.ok.inj h).symm
  | signed => exact (Except.ok.inj h).symm
  | float => exact (Except.ok.inj h).symm

/-- A check is made from its condition; the rest of it is taken over, the texts in plain form. -/
theorem healthCheck_eq_ok {d : Domain} {check : Document.HealthCheck} {placed : HealthCheck} :
    healthCheck d check = .ok placed ↔ ∃ condition, d.condition check = .ok condition ∧
      ⟨condition, check.result, plainText check.troubleshoot, plainText check.description⟩ = placed := by
  simp only [healthCheck, bind_eq_ok, pure_eq_ok]

theorem healthChecks_eq_ok {location : Location} {d : Domain} {position : Nat} {checks : List Document.HealthCheck}
    {placed : List HealthCheck} (h : healthChecks location d position checks = .ok placed) :
    List.Forall₂ (fun check placed => healthCheck d check = .ok placed) checks placed := by
  induction checks generalizing position placed with
  | nil =>
    obtain rfl : [] = placed := Except.ok.inj h
    exact .nil
  | cons check rest ih =>
    simp only [healthChecks, bind_eq_ok, mapError_eq_ok, pure_eq_ok] at h
    obtain ⟨first, hfirst, others, hothers, rfl⟩ := h
    exact .cons hfirst (ih hothers)

theorem resolveType_eq_ok {location : Location} {typeName : String} {r : TypeEntry × String × Nat}
    (h : resolveType location typeName = .ok r) :
    Registry.get? typeName = some r.1 ∧ Registry.storageType? typeName = some r.2.1 ∧
      Registry.width? typeName = some r.2.2 := by
  unfold resolveType at h
  split at h
  next entry storage width h1 h2 h3 =>
    obtain rfl := Except.ok.inj h
    exact ⟨h1, h2, h3⟩
  next => cases h

theorem placeField_eq_ok {scope : Scope} {location : Location} {offset : Nat} {declared : Document.Field} {f : Field}
    (h : placeField scope location offset declared = .ok f) :
    f.offset = offset ∧ ∃ entry, f.Placed scope entry declared := by
  simp only [placeField, bind_eq_ok] at h
  obtain ⟨⟨entry, storage, width⟩, htype, kind, hkind, h⟩ := h
  obtain ⟨h1, h2, h3⟩ := resolveType_eq_ok htype
  cases hi : declared.initial with
  | none =>
    simp only [hi, ok_bind, bind_eq_ok, pure_eq_ok] at h
    obtain ⟨checks, hc, rfl⟩ := h
    exact ⟨rfl, entry, rfl, rfl, h1, h2, h3, fieldKind_eq_ok hkind, hi.symm, by simp [hi], healthChecks_eq_ok hc⟩
  | some literal =>
    simp only [hi, bind_eq_ok, mapError_eq_ok, pure_eq_ok] at h
    obtain ⟨_, hadmitted, checks, hc, rfl⟩ := h
    refine ⟨rfl, entry, rfl, rfl, h1, h2, h3, fieldKind_eq_ok hkind, hi.symm, ?_, healthChecks_eq_ok hc⟩
    intro l hl
    obtain rfl : literal = l := Option.some.inj (hi.symm.trans hl)
    exact hadmitted

theorem placeFields_eq_ok {scope : Scope} {location : Location} {offset : Nat} {declared : List Document.Field}
    {placed : List Field} (h : placeFields scope location offset declared = .ok placed) :
    Consecutive offset placed ∧ List.Forall₂ (fun d p => ∃ entry, p.Placed scope entry d) declared placed := by
  induction declared generalizing offset placed with
  | nil =>
    obtain rfl : [] = placed := Except.ok.inj h
    exact ⟨trivial, .nil⟩
  | cons field rest ih =>
    simp only [placeFields, bind_eq_ok, pure_eq_ok] at h
    obtain ⟨first, hfirst, others, hothers, rfl⟩ := h
    obtain ⟨hoffset, hplaced⟩ := placeField_eq_ok hfirst
    obtain ⟨hconsecutive, hrest⟩ := ih hothers
    rw [Field.endOffset, hoffset] at hconsecutive
    exact ⟨⟨hoffset, hconsecutive⟩, .cons hplaced hrest⟩

theorem placeFrame_eq_ok {naming : Naming} {protocol : Document.Protocol} {location : Location}
    {declared : Document.Frame} {f : Frame} (h : placeFrame naming protocol location declared = .ok f) :
    f.Placed naming protocol declared := by
  simp only [placeFrame, bind_eq_ok, pure_eq_ok] at h
  obtain ⟨placed, hplaced, rfl⟩ := h
  obtain ⟨hconsecutive, hfields⟩ := placeFields_eq_ok hplaced
  refine ⟨rfl, rfl, ⟨placed, rfl, hfields⟩, ?_⟩
  cases hm : protocol.multiDevice with
  | false => simpa [hm] using hconsecutive
  | true => simpa [hm, Consecutive, deviceId, Field.endOffset] using hconsecutive

theorem ofDocument_eq_ok {naming : Naming} {document : Document} {p : Protocol}
    (h : ofDocument naming document = .ok p) : p.Placed naming document := by
  simp only [ofDocument, bind_eq_ok, pure_eq_ok, mapM_eq_ok] at h
  obtain ⟨frames, hframes, rfl⟩ := h
  exact ⟨rfl, rfl, rfl, rfl, hframes.imp fun _ _ => placeFrame_eq_ok⟩

end StatusFrames.Layout
