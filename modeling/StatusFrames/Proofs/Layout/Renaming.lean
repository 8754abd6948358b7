/-
Layouts under another leading word. The only names of the output that a layout holds are those of enum types; places,
widths and numbers do not depend on them, and neither does what is refused.
-/
import StatusFrames.Layout.Placement
import StatusFrames.Proofs.Naming.Renaming

namespace StatusFrames.Layout

open Naming (Renamed SameOutcome)

variable {old new : String}

inductive FieldKind.Renamed (old new : String) : FieldKind → FieldKind → Prop
  | native : FieldKind.Renamed old new .native .native
  | boolCast : FieldKind.Renamed old new .boolCast .boolCast
  | enumCast {a b : String} (h : Naming.Renamed old new a b) (values : List EnumValue) :
    FieldKind.Renamed old new (.enumCast a values) (.enumCast b values)
  | deviceId : FieldKind.Renamed old new .deviceId .deviceId

structure Field.Renamed (old new : String) (a b : Field) : Prop where
  kind : a.kind.Renamed old new b.kind
  others : b = { a with kind := b.kind }

structure Frame.Renamed (old new : String) (a b : Frame) : Prop where
  fields : List.Forall₂ (Field.Renamed old new) a.fields b.fields
  others : b = { a with fields := b.fields }

structure Protocol.Renamed (old new : String) (a b : Protocol) : Prop where
  frames : List.Forall₂ (Frame.Renamed old new) a.frames b.frames
  others : b = { a with frames := b.frames }

theorem renamed_deviceId : deviceId.Renamed old new deviceId := ⟨.deviceId, rfl⟩

section

variable (n m : Naming) (subsystem frame : String) (location : Location)

theorem fieldKind_renamed (field : Document.Field) (kind : TypeClass) :
    SameOutcome n.lead m.lead (FieldKind.Renamed n.lead m.lead) (fieldKind ⟨n, subsystem, frame⟩ location field kind)
      (fieldKind ⟨m, subsystem, frame⟩ location field kind) := by
  cases kind with
  | bool => exact .ok .boolCast
  | unsigned | signed | float => exact .ok .native
  | enum =>
    simp only [fieldKind]
    cases numberLabels field.values with
    | error problem => exact .failure rfl
    | ok values => exact .ok (.enumCast (Naming.renamed_symbol n m _) values)

/-- What does not look at names is the same run twice. -/
theorem healthChecks_renamed (d : Domain) (position : Nat) (checks : List Document.HealthCheck) :
    SameOutcome old new Eq (healthChecks location d position checks) (healthChecks location d position checks) := by
  induction checks generalizing position with
  | nil => exact .ok rfl
  | cons check rest ih =>
    have first : SameOutcome old new Eq ((healthCheck d check).mapError (.healthCheck location position ·))
        ((healthCheck d check).mapError (.healthCheck location position ·)) := by
      cases healthCheck d check with
      | error fault => exact .failure rfl
      | ok check => exact .ok rfl
    refine first.bind fun a b hab => (ih (position + 1)).bind fun as bs habs => ?_
    rw [hab, habs]
    exact .ok rfl

/-- A field of which only the literals are still to be checked. -/
def checkedField (field : Document.Field) (storage : String) (offset width : Nat) (kind : FieldKind) (d : Domain) :
    Except CompileError Field := do
  match field.initial with
  | some literal => (d.check literal).mapError fun fault => CompileError.schema location (.badInitial fault)
  | none => .ok ()
  let checks ← healthChecks location d 1 field.healthChecks
  return ⟨field.name, field.typeName, storage, offset, width, kind, field.initial, checks⟩

theorem checkedField_renamed (field : Document.Field) (storage : String) (offset width : Nat) {kind other : FieldKind}
    (hkind : kind.Renamed old new other) (d : Domain) :
    SameOutcome old new (Field.Renamed old new) (checkedField location field storage offset width kind d)
      (checkedField location field storage offset width other d) := by
  have checks : ∀ initial, SameOutcome old new (Field.Renamed old new)
      (do return ⟨field.name, field.typeName, storage, offset, width, kind, initial,
        ← healthChecks location d 1 field.healthChecks⟩)
      (do return ⟨field.name, field.typeName, storage, offset, width, other, initial,
        ← healthChecks location d 1 field.healthChecks⟩) := by
    intro initial
    refine (healthChecks_renamed location d 1 field.healthChecks).bind fun a b hab => ?_
    rw [hab]
    exact .ok ⟨hkind, rfl⟩
  unfold checkedField
  cases field.initial with
  | none => exact checks none
  | some literal =>
    cases hcheck : d.check literal with
    | error fault =>
      simp only [hcheck]
      exact .failure rfl
    | ok =>
      simp only [hcheck]
      exact checks (some literal)

theorem placeField_renamed (offset : Nat) (field : Document.Field) :
    SameOutcome n.lead m.lead (Field.Renamed n.lead m.lead)
      (placeField ⟨n, subsystem, frame⟩ location offset field)
      (placeField ⟨m, subsystem, frame⟩ location offset field) := by
  have resolved : SameOutcome n.lead m.lead Eq (resolveType location field.typeName)
      (resolveType location field.typeName) := by
    unfold resolveType
    split
    · exact .ok rfl
    · exact .failure rfl
  refine resolved.bind ?_
  rintro ⟨entry, storage, width⟩ _ rfl
  refine (fieldKind_renamed n m subsystem frame location field entry.kind).bind fun kind other hkind => ?_
  -- both kinds have the same labels, and so the same domain
  have checked := checkedField_renamed location field storage offset width hkind
  cases hkind with
  | native | boolCast | deviceId => exact checked ⟨entry.kind, width, []⟩
  | enumCast _ values => exact checked ⟨entry.kind, width, values⟩

theorem placeFields_renamed (offset : Nat) (fields : List Document.Field) :
    SameOutcome n.lead m.lead (List.Forall₂ (Field.Renamed n.lead m.lead))
      (placeFields ⟨n, subsystem, frame⟩ location offset fields)
      (placeFields ⟨m, subsystem, frame⟩ location offset fields) := by
  induction fields generalizing offset with
  | nil => exact .ok .nil
  | cons field rest ih =>
    refine (placeField_renamed n m subsystem frame _ offset field).bind fun a b hab => ?_
    have same : b.endOffset = a.endOffset := by rw [hab.others, Field.endOffset, Field.endOffset]
    rw [same]
    exact (ih a.endOffset).bind fun as bs habs => .ok (.cons hab habs)

theorem placeFrame_renamed (protocol : Document.Protocol) (frame : Document.Frame) :
    SameOutcome n.lead m.lead (Frame.Renamed n.lead m.lead) (placeFrame n protocol location frame)
      (placeFrame m protocol location frame) := by
  refine (placeFields_renamed n m protocol.subsystem frame.name location _ frame.fields).bind fun as bs habs => ?_
  refine .ok ⟨List.rel_append ?_ habs, rfl⟩
  split
  · exact .cons renamed_deviceId .nil
  · exact .nil

end

theorem ofDocument_renamed (n m : Naming) (d : Document) :
    SameOutcome n.lead m.lead (Protocol.Renamed n.lead m.lead) (ofDocument n d) (ofDocument m d) := by
  refine (SameOutcome.mapM fun frame _ => placeFrame_renamed n m _ d.protocol frame).bind fun as bs habs => ?_
  exact .ok ⟨habs, rfl⟩

end StatusFrames.Layout
