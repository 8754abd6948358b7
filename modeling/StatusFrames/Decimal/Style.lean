/-
Written forms of binary64 numbers. All of them use the shortest digits and differ in where positional notation ends,
in how an exponent is written, and in the choice between two equally near decimals.
-/
import StatusFrames.Decimal.Shortest

namespace StatusFrames.Decimal

/-- The decisions of one written form. A number `0.d… * 10 ^ p` is written positionally when `p` is in `positional`;
`none` writes every number so. -/
structure Style where
  positional : Option (Int × Int)
  /-- Whether a positive exponent gets a sign. -/
  plusSign : Bool
  tie : Tie

/-- Numbers in generated constants and in values shown to the reader: positional from 1e-4 up to below 1e16. -/
def Style.constant : Style := ⟨some (-3, 16), false, .up⟩

/-- Numbers in printed layouts: positional from 1e-5 up to below 1e16. -/
def Style.printed : Style := ⟨some (-4, 16), true, .even⟩

/-- Numbers in messages are always positional. -/
def Style.message : Style := ⟨none, false, .up⟩

/-- The digits with the point put in, at least one digit on each side. -/
def positionalText (digits : List Char) (point : Int) : List Char :=
  if point ≤ 0 then
    ['0', '.'] ++ List.replicate (-point).toNat '0' ++ digits
  else if digits.length ≤ point.toNat then
    digits ++ List.replicate (point.toNat - digits.length) '0' ++ ['.', '0']
  else digits.take point.toNat ++ ['.'] ++ digits.drop point.toNat

/-- The digits with the point behind the first, and the exponent. -/
def scientificText (plusSign : Bool) (digits : List Char) (point : Int) : List Char :=
  let mantissa :=
    match digits with
    | [] => []
    | [d] => [d]
    | d :: rest => d :: '.' :: rest
  let exponent := point - 1
  let sign := if exponent < 0 then ['-'] else if plusSign then ['+'] else []
  mantissa ++ ['e'] ++ sign ++ Nat.toDigits 10 exponent.natAbs

def Style.unsigned (style : Style) (x : Scaled) : List Char :=
  let digits := Nat.toDigits 10 x.digits
  let point := x.exponent + digits.length
  match style.positional with
  | none => positionalText digits point
  | some (lowest, highest) =>
    if x.digits = 0 then ['0', '.', '0']
    else if lowest ≤ point ∧ point ≤ highest then positionalText digits point
    else scientificText style.plusSign digits point

/-- The written form of a number; `inf`, `-inf` and `NaN` in every style. -/
def Style.write (style : Style) (x : Float) : String :=
  let bits := x.toBits.toNat
  let magnitude := bits % 0x8000000000000000
  let sign := if bits < 0x8000000000000000 then [] else ['-']
  if magnitude > 0x7FF0000000000000 then "NaN"
  else if magnitude = 0x7FF0000000000000 then String.ofList (sign ++ ['i', 'n', 'f'])
  else if magnitude = 0 then String.ofList (sign ++ ['0', '.', '0'])
  else String.ofList (sign ++ style.unsigned (shortest style.tie (Binary.ofBits magnitude)))

end StatusFrames.Decimal
