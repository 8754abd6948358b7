/-
The shortest decimal that reads back as a given binary64 number. A finite positive number `m * 2 ^ q` is read back
from every real of an interval around it; of the decimals in that interval the one with the fewest digits is taken, and
of two such the nearer. Where both are equally near, the written form decides.
-/
namespace StatusFrames.Decimal

/-- The number `digits * 10 ^ exponent`. -/
structure Scaled where
  digits : Nat
  exponent : Int
deriving DecidableEq, Repr

/-- A finite positive binary64 number as `significand * 2 ^ exponent`. -/
structure Binary where
  significand : Nat
  exponent : Int
deriving DecidableEq, Repr

namespace Binary

/-- The magnitude held in the low 63 bits of an encoding. -/
def ofBits (bits : Nat) : Binary :=
  let fraction := bits % 0x10000000000000
  let biased : Nat := bits / 0x10000000000000 % 0x800
  if biased = 0 then ⟨fraction, -1074⟩ else ⟨fraction + 0x10000000000000, (biased : Int) - 1075⟩

/-- The lower neighbour is only half as far away at the start of a binade. -/
def isBinadeStart (b : Binary) : Bool := b.significand == 0x10000000000000 && b.exponent != -1074

end Binary

/-- Which of two equally near decimals is taken. -/
inductive Tie
  | up
  | even
deriving DecidableEq, Repr

/-- Whether the upper one is taken. -/
def Tie.takesAbove (above : Nat) : Tie → Bool
  | .up => true
  | .even => above % 2 == 0

/-- A power of ten. -/
def tenTo (n : Nat) : Nat := Nat.pow 10 n

/-- `a * 10 ^ k ≤ b / d`, decided in natural numbers; `strict` asks for `<`. -/
def gridLe (strict : Bool) (a : Nat) (k : Int) (b d : Nat) : Bool :=
  let left := a * tenTo k.toNat * d
  let right := b * tenTo (-k).toNat
  if strict then left < right else left ≤ right

/-- `b / d ≤ a * 10 ^ k`, decided in natural numbers; `strict` asks for `<`. -/
def gridGe (strict : Bool) (a : Nat) (k : Int) (b d : Nat) : Bool :=
  let left := a * tenTo k.toNat * d
  let right := b * tenTo (-k).toNat
  if strict then right < left else right ≤ left

/-- Number of decimal digits of a natural number. -/
def digitCount (n : Nat) : Nat := (Nat.toDigits 10 n).length

/-- The power of ten above the number: it has this many digits before the point. -/
def Binary.magnitude (b : Binary) : Int :=
  let num := b.significand * Nat.pow 2 b.exponent.toNat
  digitCount (num * tenTo 400 / Nat.pow 2 (-b.exponent).toNat) - 400

/-- The decimal of `count` digits that stands for `b`, if one reads back as `b`, which has the given magnitude. -/
def onGrid? (tie : Tie) (b : Binary) (magnitude : Int) (count : Nat) : Option Scaled :=
  let scale := Nat.pow 2 b.exponent.toNat
  let den := 4 * Nat.pow 2 (-b.exponent).toNat
  let num := 4 * b.significand * scale
  let low := (4 * b.significand - if b.isBinadeStart then 1 else 2) * scale
  let high := (4 * b.significand + 2) * scale
  let strict := b.significand % 2 == 1
  let k := magnitude - count
  let below := num * tenTo (-k).toNat / (den * tenTo k.toNat)
  let above := below + 1
  let belowFits := gridGe strict below k low den
  let aboveFits := gridLe strict above k high den
  let twice := 2 * num * tenTo (-k).toNat
  let middle := (below + above) * tenTo k.toNat * den
  let takesAbove := decide (middle < twice) || twice == middle && tie.takesAbove above
  if aboveFits && (!belowFits || takesAbove) then some ⟨above, k⟩
  else if belowFits then some ⟨below, k⟩
  else none

/-- Moves the factors of ten out of the digits. -/
def dropZeros : Nat → Scaled → Scaled
  | 0, x => x
  | fuel + 1, x =>
    if x.digits ≠ 0 ∧ x.digits % 10 = 0 then dropZeros fuel ⟨x.digits / 10, x.exponent + 1⟩ else x

/-- The shortest decimal that reads back as `b`. Seventeen digits always suffice. -/
def shortest (tie : Tie) (b : Binary) : Scaled :=
  let magnitude := b.magnitude
  match ((List.range 17).map (· + 1)).findSome? (onGrid? tie b magnitude) with
  | some x => dropZeros 20 x
  | none => ⟨0, 0⟩

end StatusFrames.Decimal
