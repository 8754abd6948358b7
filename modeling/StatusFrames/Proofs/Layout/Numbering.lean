/-
The numbers of enum labels. A document gives every label a number the way C does; the layout holds exactly these
numbers, each in a byte of its own.
-/
import StatusFrames.Layout.EnumNumbering
import StatusFrames.Proofs.C.Program
import StatusFrames.Proofs.Layout.Placed
import Mathlib.Data.List.Nodup

namespace StatusFrames.Document

/-- Labels with the numbers that a document gives them: one without a value follows the label before it. -/
def labelNumbers : Int → List EnumValue → List (String × Int)
  | _, [] => []
  | next, entry :: rest =>
    let value := entry.value.getD next
    (entry.name, value) :: labelNumbers (value + 1) rest

theorem map_fst_labelNumbers (next : Int) (entries : List EnumValue) :
    (labelNumbers next entries).map (·.1) = entries.map (·.name) := by
  induction entries generalizing next with
  | nil => rfl
  | cons entry rest ih => simp [labelNumbers, ih]

end StatusFrames.Document

namespace StatusFrames.Layout

theorem toNat_toUInt8 {value : Int} (hlow : 0 ≤ value) (hhigh : value < 256) :
    (value.toNat.toUInt8.toNat : Int) = value := by
  have hnat : value.toNat < 256 := by omega
  rw [Nat.toUInt8_eq, UInt8.toNat_ofNat', Nat.mod_eq_of_lt hnat]
  omega

theorem numberFrom_eq_ok {taken : List EnumValue} {next : Int} {entries : List Document.EnumValue}
    {values : List EnumValue} (h : numberFrom taken next entries = .ok values) :
    values.map (fun v => (v.label, (v.value.toNat : Int))) = Document.labelNumbers next entries ∧
      values.map (·.explicit) = entries.map (·.value.isSome) ∧ (values.map (·.value)).Nodup ∧
        ∀ v ∈ values, ∀ t ∈ taken, t.value ≠ v.value := by
  induction entries generalizing taken next values with
  | nil =>
    obtain rfl : [] = values := Except.ok.inj h
    exact ⟨rfl, rfl, List.nodup_nil, by simp⟩
  | cons entry rest ih =>
    simp only [numberFrom, error_bind, refuse_eq_ok, not_or, Int.not_lt, Int.not_le] at h
    obtain ⟨⟨hlow, hhigh⟩, h⟩ := h
    cases htaken : taken.find? (·.value == (entry.value.getD next).toNat.toUInt8) with
    | some t => simp [htaken] at h
    | none =>
      simp only [htaken, ok_bind, bind_eq_ok, pure_eq_ok] at h
      obtain ⟨others, hothers, rfl⟩ := h
      obtain ⟨hnumbers, hexplicit, hnodup, hfresh⟩ := ih hothers
      simp only [List.find?_eq_none, beq_iff_eq] at htaken
      simp only [List.mem_cons, forall_eq_or_imp] at hfresh
      refine ⟨?_, ?_, ?_, ?_⟩
      · rw [List.map_cons, hnumbers, toNat_toUInt8 hlow hhigh]
        rfl
      · rw [List.map_cons, hexplicit]
        rfl
      · simp only [List.map_cons, List.nodup_cons, List.mem_map, not_exists, not_and]
        exact ⟨fun v hv he => (hfresh v hv).1 he.symm, hnodup⟩
      · simp only [List.mem_cons, forall_eq_or_imp]
        exact ⟨htaken, fun v hv => (hfresh v hv).2⟩

/-- The labels of a field that was placed. -/
structure Numbered (entries : List Document.EnumValue) (values : List EnumValue) : Prop where
  numbers : values.map (fun v => (v.label, (v.value.toNat : Int))) = Document.labelNumbers 0 entries
  explicit : values.map (·.explicit) = entries.map (·.value.isSome)
  distinct : (values.map (·.value)).Nodup

theorem numbered_of_numberLabels {entries : List Document.EnumValue} {values : List EnumValue}
    (h : numberLabels entries = .ok values) : Numbered entries values := by
  simp only [numberLabels, refuse_eq_ok] at h
  obtain ⟨h1, h2, h3, -⟩ := numberFrom_eq_ok h.2
  exact ⟨h1, h2, h3⟩

theorem Numbered.length_eq {entries : List Document.EnumValue} {values : List EnumValue}
    (h : Numbered entries values) : values.length = entries.length := by
  have := congrArg List.length h.explicit
  simpa using this

theorem Numbered.label_mem {entries : List Document.EnumValue} {values : List EnumValue} (h : Numbered entries values)
    {v : EnumValue} (hv : v ∈ values) : v.label ∈ entries.map (·.name) := by
  rw [← Document.map_fst_labelNumbers 0, ← h.numbers, List.map_map]
  exact List.mem_map.mpr ⟨v, hv, rfl⟩

/-- An enum field has the labels of the declared one. -/
theorem Field.Placed.enumeration {scope : Scope} {entry : TypeEntry} {declared : Document.Field} {f : Field}
    (h : f.Placed scope entry declared) (hkind : entry.kind = .enum) :
    f.kind = .enumCast (scope.naming.enumType scope.subsystem scope.frame declared.name) f.enumValues ∧
      Numbered declared.values f.enumValues := by
  have hof := h.kind
  rw [hkind] at hof
  obtain ⟨values, hvalues, hof⟩ := hof
  rw [Field.enumValues_eq hof]
  exact ⟨hof, numbered_of_numberLabels hvalues⟩

/-- C gives the enumerators of a field the numbers of its labels, though only explicit ones are written. -/
theorem numbered_enumerators {entries : List Document.EnumValue} {values : List EnumValue} {next : Nat}
    (hnumbers : values.map (fun v => (v.label, (v.value.toNat : Int))) = Document.labelNumbers next entries)
    (hexplicit : values.map (·.explicit) = entries.map (·.value.isSome)) (name : String → String) :
    C.numbered next (values.map fun v => (name v.label, if v.explicit then some v.value.toNat else none)) =
      values.map fun v => (name v.label, v.value.toNat) := by
  induction entries generalizing next values with
  | nil =>
    obtain rfl : values = [] := List.map_eq_nil_iff.mp hnumbers
    rfl
  | cons entry rest ih =>
    cases values with
    | nil => cases hnumbers
    | cons v values =>
      simp only [List.map_cons, Document.labelNumbers, List.cons.injEq, Prod.mk.injEq] at hnumbers hexplicit
      obtain ⟨⟨-, hvalue⟩, hnumbers⟩ := hnumbers
      obtain ⟨hv, hexplicit⟩ := hexplicit
      have written : (if v.explicit then some v.value.toNat else none).getD next = v.value.toNat := by
        cases he : entry.value with
        | none =>
          rw [he, Option.getD_none] at hvalue
          simp only [hv, he, Option.isSome_none, Bool.false_eq_true, if_false, Option.getD_none]
          omega
        | some n => simp [hv, he]
      simp only [List.map_cons, C.numbered, written, List.cons.injEq, true_and]
      refine ih ?_ hexplicit
      rw [hnumbers, ← hvalue]
      rfl

end StatusFrames.Layout
