/-
Literals of protocol documents: defaults and the bounds of health checks.
-/
import StatusFrames.Decimal.Style
import StatusFrames.Yaml.Value

namespace StatusFrames

inductive Literal
  | bool (b : Bool)
  /-- An integer of the signed 64-bit range. -/
  | integer (i : Int)
  /-- An integer above that range, below 2 ^ 64. -/
  | unsigned (n : Nat)
  | float (x : Float)
  | label (name : String)

namespace Literal

/-- The value of an integer literal. -/
def integerValue? : Literal → Option Int
  | .integer i => some i
  | .unsigned n => some n
  | _ => none

/-- The binary64 number nearest to an integer of 64 bits. -/
def nearestFloat (i : Int) : Float :=
  if i < 0 then -i.natAbs.toUInt64.toFloat else i.natAbs.toUInt64.toFloat

/-- The numeric value of a literal, rounded to binary64. -/
def approximate? : Literal → Option Float
  | .bool b => some (if b then 1.0 else 0.0)
  | .integer i => some (nearestFloat i)
  | .unsigned n => some (nearestFloat n)
  | .float x => some x
  | .label _ => none

/-- The literal as a C constant. The least signed integer is written as a difference, since its magnitude alone is no
`long long`. -/
def source : Literal → String
  | .bool b => if b then "true" else "false"
  | .integer i => if i = -0x8000000000000000 then "(-9223372036854775807LL - 1)" else toString i
  | .unsigned n => toString n ++ "ULL"
  | .float x => Decimal.Style.constant.write x
  | .label name => name

/-- The literal that a document value stands for. -/
def ofValue? : Yaml.Value → Option Literal
  | .bool b => some (.bool b)
  | .integer i => some (if i < 0x8000000000000000 then .integer i else .unsigned i.toNat)
  | .float x => some (.float x)
  | .text s => some (.label s)
  | _ => none

end Literal

end StatusFrames
