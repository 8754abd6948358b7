/-
Which literals a field takes, said by its type: an integer type takes what it holds in C, a floating type takes every
integer, and booleans and enums take what stands for one of their values. The domain of a field admits exactly these,
and numbers with a fraction where the type has some.
-/
import StatusFrames.Proofs.Layout.Numbering
import StatusFrames.Proofs.Registry

namespace StatusFrames

/-- A literal that a field takes and that stands for an integer. -/
inductive Document.Field.Takes (f : Document.Field) : Literal → Prop
  | number {literal : Literal} {i : Int} (hvalue : literal.integerValue? = some i) (hholds : C.Holds f.typeName i) :
    f.Takes literal
  | real {literal : Literal} {i : Int} (hvalue : literal.integerValue? = some i)
    (htype : f.typeName = "float" ∨ f.typeName = "double") : f.Takes literal
  | bool (htype : f.typeName = "bool") (b : Bool) : f.Takes (.bool b)
  | bit (htype : f.typeName = "bool") {i : Int} (hi : i = 0 ∨ i = 1) : f.Takes (.integer i)
  | label (htype : f.typeName = "enum") {name : String} {i : Int} (hlabel : (name, i) ∈ labelNumbers 0 f.values) :
    f.Takes (.label name)
  | labelNumber (htype : f.typeName = "enum") {name : String} {i : Int}
    (hlabel : (name, i) ∈ labelNumbers 0 f.values) : f.Takes (.integer i)

theorem Literal.integerValue?_eq_some {literal : Literal} {i : Int} :
    literal.integerValue? = some i ↔ literal = .integer i ∨ ∃ n : Nat, literal = .unsigned n ∧ (n : Int) = i := by
  cases literal <;> simp [integerValue?]

namespace Layout

/-- The domain of a declared field. -/
structure Domain.Of (declared : Document.Field) (entry : TypeEntry) (d : Domain) : Prop where
  type : Registry.get? declared.typeName = some entry
  kind : d.kind = entry.kind
  width : Registry.width? declared.typeName = some d.width
  labels : entry.kind = .enum → Numbered declared.values d.enumValues

theorem Field.Placed.domain {scope : Scope} {entry : TypeEntry} {declared : Document.Field} {f : Field}
    (h : f.Placed scope entry declared) : (f.domain entry).Of declared entry where
  type := h.type
  kind := rfl
  width := h.width
  labels hkind := (h.enumeration hkind).2

theorem Numbered.mem_labelNumbers {entries : List Document.EnumValue} {values : List EnumValue}
    (h : Numbered entries values) {name : String} {i : Int} :
    (name, i) ∈ Document.labelNumbers 0 entries ↔ ∃ v ∈ values, v.label = name ∧ (v.value.toNat : Int) = i := by
  rw [← h.numbers, List.mem_map]
  simp only [Prod.mk.injEq]

namespace Domain

variable {declared : Document.Field} {entry : TypeEntry} {d : Domain} {literal : Literal}

theorem checkInteger_eq_ok {i : Int} : d.checkInteger literal i = .ok () ↔ d.low ≤ i ∧ i ≤ d.high := by
  rw [checkInteger]
  split
  next h => exact iff_of_true rfl h
  next h => exact iff_of_false (by simp) h

theorem isFinite_of_check {x : Float} (h : d.check (.float x) = .ok ()) : x.isFinite = true := by
  unfold check at h
  cases hk : d.kind with
  | float =>
    rw [hk] at h
    by_contra hx
    simp [hx] at h
  | unsigned | signed | bool | enum => simp [hk] at h

theorem label_of_check {label : String} (h : d.check (.label label) = .ok ()) :
    ∃ v ∈ d.enumValues, v.label = label := by
  unfold check at h
  cases hk : d.kind with
  | enum =>
    by_contra hnone
    have absent : d.enumValues.any (·.label == label) = false := by
      simpa using hnone
    simp [hk, absent] at h
  | unsigned | signed | bool | float => simp [hk] at h

section

variable (h : d.Of declared entry)

include h

theorem Of.holds_iff (literal : Literal) (hkind : entry.kind = .unsigned ∨ entry.kind = .signed) {i : Int} :
    C.Holds declared.typeName i ↔ d.checkInteger literal i = .ok () :=
  (Registry.holds_iff_bounds h.type h.width h.kind hkind).trans checkInteger_eq_ok.symm

/-- What is admitted is taken. -/
theorem Of.takes (hcheck : d.check literal = .ok ()) (hfloat : entry.kind = .float → ∀ x, literal ≠ .float x) :
    declared.Takes literal := by
  cases hk : entry.kind with
  | unsigned | signed =>
    have fits {i : Int} := (h.holds_iff (i := i) literal (by simp [hk])).mpr
    cases literal with
    | integer i => exact .number rfl (fits (by simpa only [check, h.kind, hk] using hcheck))
    | unsigned n => exact .number rfl (fits (by simpa only [check, h.kind, hk] using hcheck))
    | bool | float | label => simp [check, h.kind, hk] at hcheck
  | float =>
    have htype := (Registry.kind_float_iff h.type).mp hk
    cases literal with
    | integer i => exact .real rfl htype
    | unsigned n => exact .real rfl htype
    | float x => exact absurd rfl (hfloat hk x)
    | bool | label => simp [check, h.kind, hk] at hcheck
  | bool =>
    have htype := (Registry.kind_bool_iff h.type).mp hk
    cases literal with
    | bool b => exact .bool htype b
    | integer i =>
      refine .bit htype ?_
      by_contra hout
      simp [check, h.kind, hk, hout] at hcheck
    | unsigned | float | label => simp [check, h.kind, hk] at hcheck
  | enum =>
    have htype := (Registry.kind_enum_iff h.type).mp hk
    have labels := h.labels hk
    cases literal with
    | label name =>
      obtain ⟨v, hv, hlabel⟩ := label_of_check hcheck
      exact .label htype (labels.mem_labelNumbers.mpr ⟨v, hv, hlabel, rfl⟩)
    | integer i =>
      obtain ⟨v, hv, hvalue⟩ : ∃ v ∈ d.enumValues, (v.value.toNat : Int) = i := by
        by_contra hout
        have none : ¬(d.enumValues.any fun v => (v.value.toNat : Int) == i) = true := by simpa using hout
        simp [check, h.kind, hk, none] at hcheck
      exact .labelNumber htype (labels.mem_labelNumbers.mpr ⟨v, hv, rfl, hvalue⟩)
    | unsigned | float | bool => simp [check, h.kind, hk] at hcheck

/-- What is taken is admitted. -/
theorem Of.check_of_takes (htakes : declared.Takes literal) : d.check literal = .ok () := by
  cases htakes with
  | number hvalue hholds =>
    have hkind := Registry.kind_of_holds h.type hholds
    have hbounds := (h.holds_iff literal hkind).mp hholds
    rcases Literal.integerValue?_eq_some.mp hvalue with rfl | ⟨n, rfl, rfl⟩ <;> rcases hkind with hk | hk <;>
      simpa only [check, h.kind, hk] using hbounds
  | real hvalue htype =>
    have hk := (Registry.kind_float_iff h.type).mpr htype
    rcases Literal.integerValue?_eq_some.mp hvalue with rfl | ⟨n, rfl, rfl⟩ <;> simp only [check, h.kind, hk]
  | bool htype b => simp only [check, h.kind, (Registry.kind_bool_iff h.type).mpr htype]
  | bit htype hi => simp only [check, h.kind, (Registry.kind_bool_iff h.type).mpr htype, hi, if_true]
  | label htype hlabel =>
    have hk := (Registry.kind_enum_iff h.type).mpr htype
    obtain ⟨v, hv, rfl, -⟩ := (h.labels hk).mem_labelNumbers.mp hlabel
    have found : d.enumValues.any (·.label == v.label) = true := List.any_eq_true.mpr ⟨v, hv, beq_self_eq_true _⟩
    simp only [check, h.kind, hk, found, if_true]
  | labelNumber htype hlabel =>
    have hk := (Registry.kind_enum_iff h.type).mpr htype
    obtain ⟨v, hv, -, rfl⟩ := (h.labels hk).mem_labelNumbers.mp hlabel
    have found : (d.enumValues.any fun w => (w.value.toNat : Int) == v.value.toNat) = true :=
      List.any_eq_true.mpr ⟨v, hv, beq_self_eq_true _⟩
    simp only [check, h.kind, hk, found, if_true]

end

/-- The two shapes of a health check that has a condition. -/
theorem condition_eq_ok {check : Document.HealthCheck} {condition : Condition} :
    d.condition check = .ok condition ↔
      (∃ value, check.kind = .exact ∧ check.value = some value ∧ check.min = none ∧ check.max = none ∧
        d.check value = .ok () ∧ condition = .exact value) ∨
      ∃ low high, check.kind = .range ∧ check.value = none ∧ check.min = some low ∧ check.max = some high ∧
        d.check low = .ok () ∧ d.check high = .ok () ∧ d.isInverted low high = false ∧ condition = .range low high := by
  constructor
  · intro h
    unfold Domain.condition at h
    split at h
    next hkind =>
      rw [refuse_eq_ok] at h
      obtain ⟨hbounds, h⟩ := h
      simp only [Bool.or_eq_true, not_or, Bool.not_eq_true, Option.isSome_eq_false_iff,
        Option.isNone_iff_eq_none] at hbounds
      split at h
      · cases h
      next value hvalue =>
        simp only [then_eq_ok, pure_eq_ok, checkLiteral, mapError_eq_ok] at h
        exact .inl ⟨value, hkind, hvalue, hbounds.1, hbounds.2, h.1, h.2.symm⟩
    next hkind =>
      rw [refuse_eq_ok] at h
      obtain ⟨hvalue, h⟩ := h
      simp only [Bool.not_eq_true, Option.isSome_eq_false_iff, Option.isNone_iff_eq_none] at hvalue
      split at h
      · cases h
      · cases h
      next low high hlow hhigh =>
        simp only [then_eq_ok, checkLiteral, mapError_eq_ok, refuse_eq_ok, pure_eq_ok, Bool.not_eq_true] at h
        obtain ⟨h1, h2, h3, rfl⟩ := h
        exact .inr ⟨low, high, hkind, hvalue, hlow, hhigh, h1, h2, h3, rfl⟩
  · rintro (⟨value, hkind, hvalue, hmin, hmax, h, rfl⟩ | ⟨low, high, hkind, hvalue, hmin, hmax, h1, h2, h3, rfl⟩)
    · simp [Domain.condition, hkind, hvalue, hmin, hmax, checkLiteral, h, Except.mapError]
    · simp [Domain.condition, hkind, hvalue, hmin, hmax, checkLiteral, h1, h2, h3, Except.mapError]

end Domain

end Layout

end StatusFrames
