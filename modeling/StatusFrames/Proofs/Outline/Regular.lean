/-
Outlines of documents that were accepted are regular: no enumeration, frame or list of prototypes in them is empty, and
nothing in a size assertion has to be escaped.
-/
import StatusFrames.Proofs.Compiler.Built
import StatusFrames.Proofs.Emission.HeaderTexts
import StatusFrames.Proofs.Layout.Numbering
import StatusFrames.Proofs.Naming.Symbols
import StatusFrames.Proofs.Registry

namespace StatusFrames.Text

theorem escape_eq_of_isNameChar {c : Char} (h : isNameChar c = true) : escape c = [c] := by
  unfold escape
  split
  all_goals first | rfl | exact absurd h (by decide)

theorem quoted_eq {text : String} (h : ∀ c ∈ text.toList, escape c = [c]) : quoted text = "\"" ++ (text ++ "\"") := by
  have plain : text.toList.flatMap escape = text.toList := by
    rw [List.flatMap_def, List.map_congr_left h]
    exact Naming.flatten_singletons text.toList
  rw [← String.toList_inj]
  simp [quoted, plain]

theorem isNameChar_of_mem_toString {n : Nat} {c : Char} (h : c ∈ (toString n).toList) : isNameChar c = true := by
  have digit : c.isDigit = true :=
    Nat.isDigit_of_mem_toDigits (by decide) (by decide) (Nat.toList_repr ▸ h)
  simp [isNameChar, Char.isAlphanum, digit]

end StatusFrames.Text

namespace StatusFrames.Outline

section
variable {naming : Naming}

theorem sizeAssert_plain {typeName : String} (h : Text.isIdentifier typeName = true) (size : Nat) :
    ∀ c ∈ (typeName ++ " must be " ++ toString size ++ " bytes").toList, Text.escape c = [c] := by
  have must : (" must be ".toList.all fun c => Text.escape c == [c]) = true := by decide
  have bytes : (" bytes".toList.all fun c => Text.escape c == [c]) = true := by decide
  intro c hc
  simp only [String.toList_append, List.mem_append] at hc
  rcases hc with ((hc | hc) | hc) | hc
  · exact Text.escape_eq_of_isNameChar (Text.isNameChar_of_isIdentifier h c hc)
  · exact beq_iff_eq.mp (List.all_eq_true.mp must c hc)
  · exact Text.escape_eq_of_isNameChar (Text.isNameChar_of_mem_toString hc)
  · exact beq_iff_eq.mp (List.all_eq_true.mp bytes c hc)

/-- The enumeration of a field has an enumerator for each of its labels. -/
theorem regular_ofField {subsystem frame : String} {field : Layout.Field}
    (henum : ∀ typeName values, field.kind = .enumCast typeName values → values ≠ []) :
    (ofField naming subsystem frame field).Regular := by
  refine ⟨?_, by simp [ofField, Prototype.Regular], by simp [ofField, Prototype.Regular]⟩
  intro e he
  cases hk : field.kind with
  | enumCast typeName values =>
    simp only [ofField, Layout.Field.enumType?, Layout.Field.enumValues_eq hk, hk, Option.map_some,
      Option.some.injEq] at he
    obtain rfl := he
    simpa [Place.enumeration] using henum typeName values hk
  | _ => simp [ofField, Layout.Field.enumType?, hk] at he

theorem enumValues_ne_nil {scope : Layout.Scope} {entry : TypeEntry} {multiDevice : Bool} {declared : Document.Field}
    {field : Layout.Field} (hplaced : field.Placed scope entry declared) (hd : declared.WellFormed multiDevice)
    {typeName : String} {values : List Layout.EnumValue} (hkind : field.kind = .enumCast typeName values) :
    values ≠ [] := by
  have henum := hplaced.kind_of_enumCast hkind
  obtain ⟨hof, numbered⟩ := hplaced.enumeration henum
  obtain ⟨-, rfl⟩ := Layout.FieldKind.enumCast.inj (hkind.symm.trans hof)
  have hlabels := hd.labelled ((Registry.kind_enum_iff hplaced.type).mp henum)
  intro hnil
  exact hlabels (List.eq_nil_of_length_eq_zero (by rw [← numbered.length_eq, hnil, List.length_nil]))

theorem fieldIds_ne_nil {subsystem frame : String} {first : Nat} {fields : List Layout.Field} (h : fields ≠ []) :
    fieldIds naming subsystem frame first fields ≠ [] := by
  cases fields with
  | nil => exact absurd rfl h
  | cons field rest => simp [fieldIds]

theorem regular_ofFrame {protocol : Document.Protocol} {declared : Document.Frame} {frame : Layout.Frame}
    (hlead : Text.isIdentifier naming.lead = true) (hp : protocol.WellFormed) (hd : declared ∈ protocol.frames)
    (hplaced : frame.Placed naming protocol declared) : (ofFrame naming protocol.subsystem frame).Regular := by
  have hwell := hp.frames declared hd
  have hoccupied := hplaced.fields_ne_nil hwell
  have hlabelled : ∀ field ∈ frame.fields, ∀ typeName values, field.kind = .enumCast typeName values → values ≠ [] :=
    hplaced.forall_fields nofun fun d hmem _ _ hfieldPlaced _ _ =>
      enumValues_ne_nil hfieldPlaced (hwell.fields d hmem)
  refine ⟨by simpa [ofFrame] using hoccupied, ?_, fieldIds_ne_nil hoccupied, ?_⟩
  · intro x hx
    obtain ⟨field, hfield, rfl⟩ := List.mem_map.mp hx
    exact regular_ofField (hlabelled field hfield)
  · exact Text.quoted_eq (sizeAssert_plain
      (Naming.frameType_isIdentifier hlead hp.subsystem (hplaced.name ▸ hwell.name)) frame.size)

end

theorem regular_ofProtocol {s : Setting} {document : Document} {protocol : Layout.Protocol}
    (hlead : Text.isIdentifier s.naming.lead = true) (hd : document.Accepted)
    (hplaced : protocol.Placed s.naming document) : (ofProtocol s protocol).Regular := by
  have hwell := hd.wellFormed
  have hframes : protocol.frames ≠ [] := by
    have := hplaced.frames
    rintro hnil
    rw [hnil, List.forall₂_nil_right_iff] at this
    exact hwell.occupied this
  refine ⟨by simp [ofProtocol], by simpa [ofProtocol] using hframes, ?_, by simp [ofProtocol],
    by simp [ofProtocol, Prototype.Regular], by simp [ofProtocol, ofInstance],
    by simp [ofProtocol, ofInstance, instancePrototypes],
    by simp [ofProtocol, ofInstance, instancePrototypes, Prototype.Regular]⟩
  intro f hf
  obtain ⟨frame, hframe, rfl⟩ := List.mem_map.mp hf
  obtain ⟨declared, hdeclared, hframePlaced⟩ := forall₂_mem_right hplaced.frames hframe
  rw [hplaced.subsystem]
  exact regular_ofFrame hlead hwell hdeclared hframePlaced

theorem regular_ofLayouts {s : Setting} {documents : List Document} {protocols : List Layout.Protocol}
    (hlead : Text.isIdentifier s.naming.lead = true) (hne : documents ≠ []) (hd : ∀ d ∈ documents, d.Accepted)
    (hb : Compiler.Built s.naming documents protocols) : (ofLayouts s protocols).Regular := by
  refine ⟨by simp [ofLayouts], by simp [ofLayouts], by simpa [ofLayouts] using hb.ne_nil hne, ?_⟩
  intro p hp
  obtain ⟨protocol, hprotocol, rfl⟩ := List.mem_map.mp hp
  obtain ⟨d, hmem, hplaced⟩ := hb.origin hprotocol
  exact regular_ofProtocol hlead (hd d hmem) hplaced

end StatusFrames.Outline
