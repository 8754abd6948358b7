/-
What constants mean. The text of a constant, read as C reads it, has the value that the document gave, and that value
fits the field.
-/
import StatusFrames.Outline.Drafting
import StatusFrames.Proofs.C.Constant
import StatusFrames.Proofs.Document.Literals
import StatusFrames.Proofs.Layout.Admission

namespace StatusFrames

/-- The integer that a literal of a field stands for; a label has the number that the document gives it. -/
def Document.Field.valueOf? (f : Field) : Literal → Option Int
  | .bool b => some (if b then 1 else 0)
  | .integer i => some i
  | .unsigned n => some n
  | .label name => (labelNumbers 0 f.values).lookup name
  | .float _ => none

theorem Document.Field.valueOf?_label {f : Document.Field} (hdistinct : (f.values.map (·.name)).Nodup) {name : String}
    {i : Int} (hlabel : (name, i) ∈ labelNumbers 0 f.values) : f.valueOf? (.label name) = some i :=
  lookup_eq_some (by rwa [map_fst_labelNumbers]) hlabel

namespace C

variable (enumerator? : String → Option Int)

theorem constant?_bool (b : Bool) :
    constant? enumerator? (Literal.bool b).source = some (if b then 1 else 0) := by
  cases b with
  | true => exact constant?_name enumerator? (by decide)
  | false => exact constant?_name enumerator? (by decide)

theorem constant?_integer {i : Int} (hlow : -0x8000000000000000 ≤ i) (hhigh : i < 0x8000000000000000) :
    constant? enumerator? (Literal.integer i).source = some i := by
  show constant? enumerator? (if i = -0x8000000000000000 then "(-9223372036854775807LL - 1)" else toString i) = some i
  split
  next h => exact h ▸ constant?_least enumerator?
  next h => exact constant?_int enumerator? (by omega) hhigh

end C

namespace Outline

open Layout

variable {scope : Scope} {entry : TypeEntry} {declared : Document.Field} {f : Layout.Field}

/-- The text of a constant of a field, its value in C and its value in the document. -/
structure Means (enumerator? : String → Option Int) (declared : Document.Field) (f : Layout.Field) (literal : Literal)
    (text : String) (value : Int) : Prop where
  text : C.constant? enumerator? text = some value
  document : declared.valueOf? literal = some value
  holds : C.Holds f.storageType value

/-- Every literal that a field takes has a text that means it; for an enum field this is one of the field's numbers. -/
theorem means_of_takes {enumerator? : String → Option Int} (p : Place) (h : f.Placed scope entry declared)
    (hkind : entry.kind ≠ .float) (hdistinct : (declared.values.map (·.name)).Nodup)
    (henumerators : entry.kind = .enum → ∀ v ∈ f.enumValues,
      C.constant? enumerator? (p.naming.enumLabel p.subsystem p.frame p.field v.label) = some (v.value.toNat : Int))
    {literal : Literal} (hcanonical : literal.Canonical) (htakes : declared.Takes literal) :
    ∃ value, Means enumerator? declared f literal (p.literal literal) value ∧
      (entry.kind = .enum → ∃ v ∈ f.enumValues, value = (v.value.toNat : Int)) := by
  have byte (hk : entry.kind = .bool ∨ entry.kind = .enum) (i : Int) (hi : 0 ≤ i ∧ i < 256) :
      C.Holds f.storageType i := Registry.holds_of_byte h.type h.storageType hk hi.1 hi.2
  cases htakes with
  | number hvalue hholds =>
    have hk := Registry.kind_of_holds h.type hholds
    rw [← Registry.storage_of_number h.type h.storageType hk] at hholds
    have notEnum : entry.kind ≠ .enum := by rcases hk with hk | hk <;> simp [hk]
    rcases Literal.integerValue?_eq_some.mp hvalue with rfl | ⟨n, rfl, rfl⟩
    · refine ⟨_, ⟨C.constant?_integer enumerator? hholds.bounds.1 hcanonical, rfl, hholds⟩, ?_⟩
      exact fun he => absurd he notEnum
    · have fits : n < 0x10000000000000000 := by have := hholds.bounds; omega
      exact ⟨n, ⟨C.constant?_unsigned enumerator? fits, rfl, hholds⟩, fun he => absurd he notEnum⟩
  | real _ htype => exact absurd ((Registry.kind_float_iff h.type).mpr htype) hkind
  | bool htype b =>
    have hk := (Registry.kind_bool_iff h.type).mpr htype
    exact ⟨_, ⟨C.constant?_bool enumerator? b, rfl, byte (.inl hk) _ (by cases b <;> simp)⟩, by simp [hk]⟩
  | bit htype hi =>
    have hk := (Registry.kind_bool_iff h.type).mpr htype
    exact ⟨_, ⟨C.constant?_integer enumerator? (by omega) hcanonical, rfl, byte (.inl hk) _ (by omega)⟩, by simp [hk]⟩
  | label htype hlabel =>
    have hk := (Registry.kind_enum_iff h.type).mpr htype
    obtain ⟨v, hv, rfl, rfl⟩ := (h.domain.labels hk).mem_labelNumbers.mp hlabel
    have fits := byte (.inr hk) v.value.toNat (by have := v.value.toNat_lt; omega)
    exact ⟨_, ⟨henumerators hk v hv, Document.Field.valueOf?_label hdistinct hlabel, fits⟩, fun _ => ⟨v, hv, rfl⟩⟩
  | labelNumber htype hlabel =>
    have hk := (Registry.kind_enum_iff h.type).mpr htype
    obtain ⟨v, hv, -, rfl⟩ := (h.domain.labels hk).mem_labelNumbers.mp hlabel
    have fits := byte (.inr hk) v.value.toNat (by have := v.value.toNat_lt; omega)
    exact ⟨_, ⟨C.constant?_integer enumerator? (by omega) hcanonical, rfl, fits⟩, fun _ => ⟨v, hv, rfl⟩⟩

end Outline

end StatusFrames
