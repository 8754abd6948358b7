/-
The closed table of field types: how each is stored in a frame, and which literals it takes.
-/
namespace StatusFrames

inductive Storage
  /-- The type takes this many bytes as it is. -/
  | native (bytes : Nat)
  /-- The type is stored as the named one. -/
  | cast (target : String)
deriving DecidableEq, Repr

inductive TypeClass
  | unsigned
  | signed
  | float
  | bool
  | enum
deriving DecidableEq, Repr

structure TypeEntry where
  name : String
  storage : Storage
  kind : TypeClass
deriving DecidableEq, Repr

namespace Registry

/-- Type of one byte, which also holds booleans, enum values and device ids. -/
def byteName : String := "uint8_t"

def entries : List TypeEntry :=
  [⟨"uint8_t", .native 1, .unsigned⟩,
   ⟨"uint16_t", .native 2, .unsigned⟩,
   ⟨"uint32_t", .native 4, .unsigned⟩,
   ⟨"uint64_t", .native 8, .unsigned⟩,
   ⟨"int8_t", .native 1, .signed⟩,
   ⟨"int16_t", .native 2, .signed⟩,
   ⟨"int32_t", .native 4, .signed⟩,
   ⟨"int64_t", .native 8, .signed⟩,
   ⟨"float", .native 4, .float⟩,
   ⟨"double", .native 8, .float⟩,
   ⟨"bool", .cast byteName, .bool⟩,
   ⟨"enum", .cast byteName, .enum⟩]

def names : List String := entries.map (·.name)

def get? (name : String) : Option TypeEntry := entries.find? (·.name == name)

def contains (name : String) : Bool := (get? name).isSome

/-- Whether the type is stored as another one. -/
def isCast (name : String) : Bool :=
  match get? name with
  | some ⟨_, .cast _, _⟩ => true
  | _ => false

/-- Name of the type that stands in the frame. Casts lead to native types only. -/
def storageType? (name : String) : Option String :=
  match get? name with
  | some ⟨name, .native _, _⟩ => some name
  | some ⟨_, .cast target, _⟩ => (get? target).map (·.name)
  | none => none

/-- Width of the stored type in bytes. -/
def width? (name : String) : Option Nat :=
  match (storageType? name).bind get? with
  | some ⟨_, .native bytes, _⟩ => some bytes
  | _ => none

end Registry

end StatusFrames
