/-
What the checks of a document promise to every later stage. Each check walks a list with what it has seen so far, so
the lemma about it says: the rest is fine in itself, and nothing in it repeats what was seen.
-/
import StatusFrames.Document.Loading
import StatusFrames.Proofs.Steps
import Mathlib.Data.List.Nodup

namespace StatusFrames.Document

/-- A field that passes the checks. -/
structure Field.WellFormed (multiDevice : Bool) (f : Field) : Prop where
  name : Text.isIdentifier f.name = true
  notReserved : multiDevice = true → f.name ≠ deviceIdName
  known : Registry.contains f.typeName = true
  labelled : f.typeName = "enum" → f.values ≠ []
  unlabelled : f.typeName ≠ "enum" → f.values = []
  labels : ∀ v ∈ f.values, Text.isIdentifier v.name = true
  distinctLabels : (f.values.map (·.name)).Nodup
  results : ∀ c ∈ f.healthChecks, ∀ r, c.result = some r → Text.isIdentifier r = true

/-- A frame that passes the checks. -/
structure Frame.WellFormed (multiDevice : Bool) (f : Frame) : Prop where
  name : Text.isIdentifier f.name = true
  occupied : f.fields ≠ [] ∨ multiDevice = true
  fields : ∀ x ∈ f.fields, x.WellFormed multiDevice
  distinctFields : (f.fields.map (·.name)).Nodup

/-- A protocol that passes the checks. -/
structure Protocol.WellFormed (p : Protocol) : Prop where
  subsystem : Text.isIdentifier p.subsystem = true
  occupied : p.frames ≠ []
  frames : ∀ f ∈ p.frames, f.WellFormed p.multiDevice
  distinctFrames : (p.frames.map (·.name)).Nodup
  distinctIds : (p.frames.map (·.frameId)).Nodup

theorem requireName_eq_ok {location : Location} {kind : NameKind} {name : String} :
    requireName location kind name = .ok () ↔ Text.isIdentifier name = true := by
  simp [requireName]

theorem checkLabels_eq_ok {location : Location} {seen : List String} {values : List EnumValue} :
    checkLabels location seen values = .ok () ↔
      (∀ v ∈ values, Text.isIdentifier v.name = true) ∧ (values.map (·.name)).Nodup ∧
        ∀ v ∈ values, v.name ∉ seen := by
  induction values generalizing seen with
  | nil => simp [checkLabels]
  | cons v rest ih =>
    simp only [checkLabels, then_eq_ok, requireName_eq_ok, error_bind, refuse_eq_ok, ih, List.contains_eq_mem,
      decide_eq_true_eq, List.map_cons, List.nodup_cons, forall_eq_or_imp, List.mem_cons, List.mem_map, not_or]
    constructor
    · rintro ⟨hv, hs, hr, hn, hd⟩
      exact ⟨⟨hv, hr⟩, ⟨fun ⟨w, hw, he⟩ => (hd w hw).1 he, hn⟩, hs, fun w hw => (hd w hw).2⟩
    · rintro ⟨⟨hv, hr⟩, ⟨hd, hn⟩, hs, hd'⟩
      exact ⟨hv, hs, hr, hn, fun w hw => ⟨fun he => hd ⟨w, hw, he⟩, hd' w hw⟩⟩

theorem checkValues_eq_ok {location : Location} {f : Field} :
    checkValues location f = .ok () ↔
      (f.typeName = "enum" → f.values ≠ []) ∧ (f.typeName ≠ "enum" → f.values = []) ∧
        (∀ v ∈ f.values, Text.isIdentifier v.name = true) ∧ (f.values.map (·.name)).Nodup := by
  by_cases ht : f.typeName = "enum" <;> cases hv : f.values <;> simp [checkValues, ht, hv, checkLabels_eq_ok]

theorem checkResults_eq_ok {location : Location} {checks : List HealthCheck} :
    checkResults location checks = .ok () ↔
      ∀ c ∈ checks, ∀ r, c.result = some r → Text.isIdentifier r = true := by
  induction checks with
  | nil => simp [checkResults]
  | cons c rest ih =>
    rw [List.forall_mem_cons, ← ih]
    cases hr : c.result <;> simp [checkResults, hr, then_eq_ok, requireName_eq_ok]

theorem checkField_eq_ok (location : Location) {multiDevice : Bool} {f : Field} :
    (Text.isIdentifier f.name = true ∧ (multiDevice = true → f.name ≠ deviceIdName) ∧
        checkField location f = .ok ()) ↔ f.WellFormed multiDevice := by
  simp only [checkField, error_bind, refuse_eq_ok, then_eq_ok, checkValues_eq_ok, checkResults_eq_ok,
    Bool.not_eq_true', Bool.not_eq_false]
  constructor
  · rintro ⟨hn, hd, hk, ⟨h1, h2, h3, h4⟩, h5⟩
    exact ⟨hn, hd, hk, h1, h2, h3, h4, h5⟩
  · rintro ⟨hn, hd, hk, h1, h2, h3, h4, h5⟩
    exact ⟨hn, hd, hk, ⟨h1, h2, h3, h4⟩, h5⟩

theorem checkFields_eq_ok {location : Location} {multiDevice : Bool} {seen : List String} {fields : List Field} :
    checkFields location multiDevice seen fields = .ok () ↔
      (∀ f ∈ fields, f.WellFormed multiDevice) ∧ (fields.map (·.name)).Nodup ∧ ∀ f ∈ fields, f.name ∉ seen := by
  induction fields generalizing seen with
  | nil => simp [checkFields]
  | cons f rest ih =>
    simp only [checkFields, then_eq_ok, requireName_eq_ok, error_bind, refuse_eq_ok, ih, List.contains_eq_mem,
      decide_eq_true_eq, Bool.and_eq_true, beq_iff_eq, not_and, List.map_cons, List.nodup_cons,
      forall_eq_or_imp, List.mem_cons, List.mem_map, not_or]
    constructor
    · rintro ⟨hn, hs, hd, hf, hr, hnd, hx⟩
      exact ⟨⟨(checkField_eq_ok _).mp ⟨hn, hd, hf⟩, hr⟩, ⟨fun ⟨g, hg, he⟩ => (hx g hg).1 he, hnd⟩, hs,
        fun g hg => (hx g hg).2⟩
    · rintro ⟨⟨hf, hr⟩, ⟨hx, hnd⟩, hs, hx'⟩
      obtain ⟨hn, hd, hf⟩ := (checkField_eq_ok (location.inField f.name)).mpr hf
      exact ⟨hn, hs, hd, hf, hr, hnd, fun g hg => ⟨fun he => hx ⟨g, hg, he⟩, hx' g hg⟩⟩

theorem checkFrame_eq_ok (location : Location) {multiDevice : Bool} {f : Frame} :
    (Text.isIdentifier f.name = true ∧ checkFrame location multiDevice f = .ok ()) ↔ f.WellFormed multiDevice := by
  have occupied : ¬(f.fields.isEmpty && !multiDevice) = true ↔ f.fields ≠ [] ∨ multiDevice = true := by
    cases multiDevice <;> simp
  simp only [checkFrame]
  constructor
  · rintro ⟨hn, h⟩
    split at h
    · cases h
    next ho =>
      obtain ⟨h1, h2, -⟩ := checkFields_eq_ok.mp h
      exact ⟨hn, occupied.mp ho, h1, h2⟩
  · rintro ⟨hn, ho, h1, h2⟩
    rw [if_neg (occupied.mpr ho)]
    exact ⟨hn, checkFields_eq_ok.mpr ⟨h1, h2, by simp⟩⟩

theorem checkFrames_eq_ok {location : Location} {multiDevice : Bool} {seen frames : List Frame} :
    checkFrames location multiDevice seen frames = .ok () ↔
      (∀ f ∈ frames, f.WellFormed multiDevice) ∧ (frames.map (·.name)).Nodup ∧ (frames.map (·.frameId)).Nodup ∧
        ∀ f ∈ frames, ∀ g ∈ seen, g.name ≠ f.name ∧ g.frameId ≠ f.frameId := by
  induction frames generalizing seen with
  | nil => simp [checkFrames]
  | cons f rest ih =>
    simp only [checkFrames, then_eq_ok, requireName_eq_ok, error_bind, refuse_eq_ok, ok_bind]
    cases hi : seen.find? (·.frameId == f.frameId) with
    | some g =>
      have hg : g ∈ seen ∧ g.frameId = f.frameId := ⟨List.mem_of_find?_eq_some hi, by simpa using List.find?_some hi⟩
      simp only [reduceCtorEq, and_false, false_iff]
      rintro ⟨-, -, -, hs⟩
      exact (hs f (by simp) g hg.1).2 hg.2
    | none =>
      simp only [then_eq_ok, ih, List.find?_eq_none, List.any_eq_true, beq_iff_eq, not_exists, not_and,
        List.map_cons, List.nodup_cons, forall_eq_or_imp, List.mem_cons, List.mem_map] at hi ⊢
      constructor
      · rintro ⟨hn, hs, hf, hr, hnd, hid, hx⟩
        exact ⟨⟨(checkFrame_eq_ok _).mp ⟨hn, hf⟩, hr⟩, ⟨fun g hg he => (hx g hg).1.1 he.symm, hnd⟩,
          ⟨fun g hg he => (hx g hg).1.2 he.symm, hid⟩, fun g hg => ⟨hs g hg, hi g hg⟩, fun g hg => (hx g hg).2⟩
      · rintro ⟨⟨hf, hr⟩, ⟨hx, hnd⟩, ⟨hy, hid⟩, hs, hxy⟩
        obtain ⟨hn, hf⟩ := (checkFrame_eq_ok (location.inFrame f.name)).mpr hf
        exact ⟨hn, fun g hg => (hs g hg).1, hf, hr, hnd, hid,
          fun g hg => ⟨⟨fun he => hx g hg he.symm, fun he => hy g hg he.symm⟩, hxy g hg⟩⟩

theorem Protocol.check_eq_ok {p : Protocol} {location : Location} : p.check location = .ok () ↔ p.WellFormed := by
  simp only [Protocol.check, then_eq_ok, requireName_eq_ok, error_bind, refuse_eq_ok, List.isEmpty_iff]
  constructor
  · rintro ⟨hs, hf, h⟩
    obtain ⟨h1, h2, h3, -⟩ := checkFrames_eq_ok.mp h
    exact ⟨hs, hf, h1, h2, h3⟩
  · rintro ⟨hs, hf, h1, h2, h3⟩
    exact ⟨hs, hf, checkFrames_eq_ok.mpr ⟨h1, h2, h3, by simp⟩⟩

/-- A document that some text reads as. -/
def Accepted (d : Document) : Prop := ∃ path text, ofText path text = .ok d

theorem Accepted.wellFormed {d : Document} (h : d.Accepted) : d.protocol.WellFormed := by
  obtain ⟨path, text, h⟩ := h
  unfold ofText at h
  generalize Yaml.readDocument readFile text = read at h
  cases read with
  | error e => cases h
  | ok protocol =>
    simp only [then_eq_ok, pure_eq_ok] at h
    obtain ⟨hc, rfl⟩ := h
    exact Protocol.check_eq_ok.mp hc

end StatusFrames.Document
