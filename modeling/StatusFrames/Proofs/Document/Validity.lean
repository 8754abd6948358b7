/-
The rules for documents, said without the checks: which names are identifiers, which of them must differ, and what a
field of each type may carry. The checks accept exactly the protocols that keep to the rules.
-/
import StatusFrames.Proofs.Document.WellFormed
import StatusFrames.Proofs.Naming.Letters

namespace StatusFrames

namespace Text

/-- A name of letters, digits and underscores that does not start with a digit. -/
structure Identifier (name : String) : Prop where
  occupied : name ≠ ""
  plain : ∀ c ∈ name.toList, BasicLetter c ∨ BasicDigit c ∨ c = '_'
  front : ∀ c ∈ name.toList.head?, ¬BasicDigit c

/-- A character that may stand anywhere may stand in front unless it is a digit. -/
theorem isNameStart_iff {c : Char} : isNameStart c = true ↔ isNameChar c = true ∧ ¬BasicDigit c := by
  constructor
  · intro h
    refine ⟨isNameChar_of_isNameStart h, ?_⟩
    rw [← isDigit_iff, isDigit_of_isNameStart h]
    exact Bool.false_ne_true
  · rintro ⟨hname, hdigit⟩
    rw [← isDigit_iff, Bool.not_eq_true] at hdigit
    simpa [isNameChar, isNameStart, Char.isAlphanum, hdigit] using hname

theorem isIdentifier_iff {name : String} : isIdentifier name = true ↔ Identifier name := by
  constructor
  · intro h
    obtain ⟨first, rest, hname, hstart⟩ := cons_of_isIdentifier h
    refine ⟨?_, fun c hc => isNameChar_iff.mp (isNameChar_of_isIdentifier h c hc), ?_⟩
    · rintro rfl
      cases hname
    · intro c hc
      rw [hname, List.head?_cons, Option.mem_some] at hc
      exact hc ▸ (isNameStart_iff.mp hstart).2
  · rintro ⟨hne, hplain, hfront⟩
    unfold isIdentifier
    cases hname : name.toList with
    | nil => exact absurd (String.toList_eq_nil_iff.mp hname) hne
    | cons first rest =>
      rw [hname] at hplain hfront
      obtain ⟨hfirst, hrest⟩ := List.forall_mem_cons.mp hplain
      simp only [Bool.and_eq_true, List.all_eq_true]
      exact ⟨isNameStart_iff.mpr ⟨isNameChar_iff.mpr hfirst, hfront first rfl⟩,
        fun c hc => isNameChar_iff.mpr (hrest c hc)⟩

end Text

theorem Registry.contains_iff {typeName : String} : contains typeName = true ↔ typeName ∈ names := by
  simp [contains, get?, names, List.find?_isSome]

namespace Document

open Text (Identifier isIdentifier_iff)

/-- A field that keeps to the rules. -/
theorem Field.wellFormed_iff {multiDevice : Bool} {f : Field} :
    f.WellFormed multiDevice ↔
      Identifier f.name ∧ (multiDevice = true → f.name ≠ "device_id") ∧ f.typeName ∈ Registry.names ∧
        (f.typeName = "enum" →
          f.values ≠ [] ∧ (∀ v ∈ f.values, Identifier v.name) ∧ (f.values.map (·.name)).Nodup) ∧
        (f.typeName ≠ "enum" → f.values = []) ∧
        ∀ c ∈ f.healthChecks, ∀ result, c.result = some result → Identifier result := by
  simp only [← isIdentifier_iff, ← Registry.contains_iff]
  constructor
  · rintro ⟨hname, hreserved, htype, hlabelled, hunlabelled, hlabels, hdistinct, hresults⟩
    exact ⟨hname, hreserved, htype, fun henum => ⟨hlabelled henum, hlabels, hdistinct⟩, hunlabelled, hresults⟩
  · rintro ⟨hname, hreserved, htype, henum, hother, hresults⟩
    refine ⟨hname, hreserved, htype, fun h => (henum h).1, hother, ?_, ?_, hresults⟩
    -- a field of another type has no labels at all
    · by_cases h : f.typeName = "enum"
      · exact (henum h).2.1
      · simp [hother h]
    · by_cases h : f.typeName = "enum"
      · exact (henum h).2.2
      · simp [hother h]

/-- The checks accept a protocol exactly when its subsystem has an identifier for a name, it has frames, names and ids of
the frames differ, and each frame keeps to the rules: it has a field or gets a device id, the names of its fields differ
and leave the one for the device id alone, every type is known, enum fields and only these have labels, which differ, and
the results of health checks are identifiers. -/
theorem check_accepts_exactly (p : Protocol) (location : Location) :
    p.check location = .ok () ↔
      Identifier p.subsystem ∧ p.frames ≠ [] ∧
      (∀ frame ∈ p.frames, Identifier frame.name) ∧ (p.frames.map (·.name)).Nodup ∧
      (p.frames.map (·.frameId)).Nodup ∧
      (∀ frame ∈ p.frames, frame.fields ≠ [] ∨ p.multiDevice = true) ∧
      ∀ frame ∈ p.frames,
        (frame.fields.map (·.name)).Nodup ∧
        ∀ field ∈ frame.fields,
          Identifier field.name ∧ (p.multiDevice = true → field.name ≠ "device_id") ∧
          field.typeName ∈ Registry.names ∧
          (field.typeName = "enum" →
            field.values ≠ [] ∧ (∀ v ∈ field.values, Identifier v.name) ∧ (field.values.map (·.name)).Nodup) ∧
          (field.typeName ≠ "enum" → field.values = []) ∧
          ∀ c ∈ field.healthChecks, ∀ result, c.result = some result → Identifier result := by
  rw [Protocol.check_eq_ok]
  constructor
  · rintro ⟨hsubsystem, hoccupied, hframes, hnames, hids⟩
    refine ⟨isIdentifier_iff.mp hsubsystem, hoccupied, fun frame hframe => isIdentifier_iff.mp (hframes frame hframe).name,
      hnames, hids, fun frame hframe => (hframes frame hframe).occupied, fun frame hframe => ?_⟩
    exact ⟨(hframes frame hframe).distinctFields,
      fun field hfield => Field.wellFormed_iff.mp ((hframes frame hframe).fields field hfield)⟩
  · rintro ⟨hsubsystem, hoccupied, hframeNames, hnames, hids, hfilled, hframes⟩
    refine ⟨isIdentifier_iff.mpr hsubsystem, hoccupied, fun frame hframe => ?_, hnames, hids⟩
    obtain ⟨hdistinct, hfields⟩ := hframes frame hframe
    exact ⟨isIdentifier_iff.mpr (hframeNames frame hframe), hfilled frame hframe,
      fun field hfield => Field.wellFormed_iff.mpr (hfields field hfield), hdistinct⟩

end Document

end StatusFrames
