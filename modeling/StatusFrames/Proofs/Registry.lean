/-
The table of field types against the C types it names. The table is closed, so every fact here is looked up entry by
entry.
-/
import StatusFrames.Layout.Admission
import StatusFrames.Proofs.C.Types
import Mathlib.Data.List.Basic

namespace StatusFrames.Registry

/-- What a field of a type is stored as. -/
def storageName (typeName : String) : String :=
  if typeName = "bool" ∨ typeName = "enum" then "uint8_t" else typeName

theorem mem_of_get? {typeName : String} {entry : TypeEntry} (h : get? typeName = some entry) :
    entry ∈ entries ∧ entry.name = typeName :=
  ⟨List.mem_of_find?_eq_some h, by simpa using List.find?_some h⟩

section

variable {typeName : String} {entry : TypeEntry} (h : get? typeName = some entry)

include h

theorem kind_float_iff : entry.kind = .float ↔ typeName = "float" ∨ typeName = "double" := by
  obtain ⟨hmem, rfl⟩ := mem_of_get? h
  exact (by decide : ∀ e ∈ entries, e.kind = .float ↔ e.name = "float" ∨ e.name = "double") entry hmem

theorem kind_bool_iff : entry.kind = .bool ↔ typeName = "bool" := by
  obtain ⟨hmem, rfl⟩ := mem_of_get? h
  exact (by decide : ∀ e ∈ entries, e.kind = .bool ↔ e.name = "bool") entry hmem

theorem kind_enum_iff : entry.kind = .enum ↔ typeName = "enum" := by
  obtain ⟨hmem, rfl⟩ := mem_of_get? h
  exact (by decide : ∀ e ∈ entries, e.kind = .enum ↔ e.name = "enum") entry hmem

theorem kind_ne_float (hname : typeName ≠ "float" ∧ typeName ≠ "double") : entry.kind ≠ .float := by
  intro hkind
  rcases (kind_float_iff h).mp hkind with hfloat | hdouble
  · exact hname.1 hfloat
  · exact hname.2 hdouble

/-- Only types of integers hold integers. -/
theorem kind_of_holds {i : Int} (hi : C.Holds typeName i) : entry.kind = .unsigned ∨ entry.kind = .signed := by
  obtain ⟨type, low, high, htype, hrange, -⟩ := hi
  obtain ⟨hmem, rfl⟩ := mem_of_get? h
  have table : ∀ e ∈ entries, ((C.numberType? e.name).bind (·.range)).isSome = true →
      e.kind = .unsigned ∨ e.kind = .signed := by decide +kernel
  exact table entry hmem (by rw [htype, Option.bind_some, hrange]; rfl)

/-- The bounds of a number field are those that C gives its type. -/
theorem holds_iff_bounds {d : Layout.Domain} (hwidth : width? typeName = some d.width) (hd : d.kind = entry.kind)
    (hkind : entry.kind = .unsigned ∨ entry.kind = .signed) {i : Int} :
    C.Holds typeName i ↔ d.low ≤ i ∧ i ≤ d.high := by
  obtain ⟨hmem, rfl⟩ := mem_of_get? h
  have table : ∀ e ∈ entries, e.kind = .unsigned ∨ e.kind = .signed →
      (C.numberType? e.name).bind (·.range) =
        (width? e.name).map fun w => (Layout.Domain.low ⟨e.kind, w, []⟩, Layout.Domain.high ⟨e.kind, w, []⟩) := by
    decide +kernel
  have range := table entry hmem hkind
  rw [hwidth, ← hd, Option.map_some, Option.bind_eq_some_iff] at range
  obtain ⟨type, htype, hrange⟩ := range
  constructor
  · rintro ⟨type', low, high, htype', hrange', hlow, hhigh⟩
    obtain rfl := Option.some.inj (htype'.symm.trans htype)
    obtain ⟨rfl, rfl⟩ := Prod.mk.inj (Option.some.inj (hrange'.symm.trans hrange))
    exact ⟨hlow, hhigh⟩
  · rintro ⟨hlow, hhigh⟩
    exact ⟨type, _, _, htype, hrange, hlow, hhigh⟩

end

theorem kind_eq_enum {entry : TypeEntry} (h : get? "enum" = some entry) : entry.kind = .enum :=
  (kind_enum_iff h).mpr rfl

section

variable {typeName storage : String} {entry : TypeEntry} {width : Nat} (h : get? typeName = some entry)
  (hstorage : storageType? typeName = some storage) (hwidth : width? typeName = some width)

include h hstorage

theorem storageType_eq : storage = storageName typeName := by
  obtain ⟨hmem, rfl⟩ := mem_of_get? h
  have table : ∀ e ∈ entries, storageType? e.name = some (storageName e.name) := by decide +kernel
  exact Option.some.inj (hstorage.symm.trans (table entry hmem))

theorem storage_of_number (hkind : entry.kind = .unsigned ∨ entry.kind = .signed) : storage = typeName := by
  obtain rfl := storageType_eq h hstorage
  obtain ⟨hmem, rfl⟩ := mem_of_get? h
  exact (by decide : ∀ e ∈ entries, e.kind = .unsigned ∨ e.kind = .signed → storageName e.name = e.name) entry hmem hkind

include hwidth

/-- The width of a field is the size of what it is stored as. -/
theorem sizeOf?_storage : C.sizeOf? storage = some width ∧ 1 ≤ width := by
  obtain rfl := storageType_eq h hstorage
  obtain ⟨hmem, rfl⟩ := mem_of_get? h
  have table : ∀ e ∈ entries, C.sizeOf? (storageName e.name) = width? e.name ∧ width? e.name ≠ some 0 := by
    decide +kernel
  obtain ⟨hsize, hzero⟩ := table entry hmem
  rw [hwidth] at hsize hzero
  refine ⟨hsize, Nat.one_le_iff_ne_zero.mpr fun hw => hzero ?_⟩
  rw [hw]

end

/-- Booleans and enum values are stored in a byte. -/
theorem holds_of_byte {typeName storage : String} {entry : TypeEntry} (h : get? typeName = some entry)
    (hstorage : storageType? typeName = some storage) (hkind : entry.kind = .bool ∨ entry.kind = .enum) {i : Int}
    (hlow : 0 ≤ i) (hhigh : i < 256) : C.Holds storage i := by
  obtain rfl := storageType_eq h hstorage
  obtain ⟨hmem, rfl⟩ := mem_of_get? h
  have table : ∀ e ∈ entries, e.kind = .bool ∨ e.kind = .enum → storageName e.name = "uint8_t" := by decide +kernel
  rw [table entry hmem hkind]
  exact ⟨_, 0, 255, rfl, rfl, hlow, by omega⟩

end StatusFrames.Registry
