/-
The C types that fields are stored as: how many bytes each takes, and which integers it holds.
-/
namespace StatusFrames.C

/-- A type of fixed size. -/
structure NumberType where
  name : String
  size : Nat
  /-- Least and greatest value of an integer type. -/
  range : Option (Int × Int)
deriving DecidableEq, Repr

def numberTypes : List NumberType :=
  [⟨"uint8_t", 1, some (0, 0xff)⟩,
   ⟨"uint16_t", 2, some (0, 0xffff)⟩,
   ⟨"uint32_t", 4, some (0, 0xffffffff)⟩,
   ⟨"uint64_t", 8, some (0, 0xffffffffffffffff)⟩,
   ⟨"int8_t", 1, some (-0x80, 0x7f)⟩,
   ⟨"int16_t", 2, some (-0x8000, 0x7fff)⟩,
   ⟨"int32_t", 4, some (-0x80000000, 0x7fffffff)⟩,
   ⟨"int64_t", 8, some (-0x8000000000000000, 0x7fffffffffffffff)⟩,
   ⟨"float", 4, none⟩,
   ⟨"double", 8, none⟩]

def numberType? (name : String) : Option NumberType := numberTypes.find? (·.name == name)

/-- What `sizeof` gives for a type. -/
def sizeOf? (typeName : String) : Option Nat := (numberType? typeName).map (·.size)

/-- Whether an integer type holds the value. -/
def Holds (typeName : String) (i : Int) : Prop :=
  ∃ type low high, numberType? typeName = some type ∧ type.range = some (low, high) ∧ low ≤ i ∧ i ≤ high

/-- No type here is wider than 64 bits. -/
theorem Holds.bounds {typeName : String} {i : Int} (h : Holds typeName i) :
    -0x8000000000000000 ≤ i ∧ i < 0x10000000000000000 := by
  obtain ⟨type, low, high, htype, hrange, hlow, hhigh⟩ := h
  have table : ∀ t ∈ numberTypes, ∀ r ∈ t.range, -0x8000000000000000 ≤ r.1 ∧ r.2 < 0x10000000000000000 := by decide
  have := table type (List.mem_of_find?_eq_some htype) (low, high) hrange
  omega

end StatusFrames.C
