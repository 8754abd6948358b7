/-
Packed structs in C: members follow each other without padding, so a member starts at the sum of the sizes before it,
and the size of the struct is the sum of all.
-/
import StatusFrames.Proofs.C.Types
import StatusFrames.Proofs.Declaration.Parts

namespace StatusFrames.C

/-- Where a member of a struct is. -/
structure Slot where
  name : String
  offset : Nat
  size : Nat
deriving DecidableEq, Repr

/-- The slots of the members of a packed struct from `offset` on. -/
def packed? : Nat → List Member → Option (List Slot)
  | _, [] => some []
  | offset, m :: rest => do
    let size ← sizeOf? m.cType
    let slots ← packed? (offset + size) rest
    return ⟨m.name, offset, size⟩ :: slots

/-- What `sizeof` gives for a packed struct. -/
def packedSize? : List Member → Option Nat
  | [] => some 0
  | m :: rest => do return (← sizeOf? m.cType) + (← packedSize? rest)

/-- The condition compares the size of a packed struct with the decimal text of a constant, both of them among the
declarations, and the two are equal. -/
def SizeAssertHolds (declarations : List Declaration) (condition : String) : Prop :=
  ∃ typeName members constant size, condition = "sizeof(" ++ typeName ++ ") == " ++ constant ∧
    .record typeName true members ∈ declarations ∧ .define constant (toString size) ∈ declarations ∧
    packedSize? members = some size

end StatusFrames.C
