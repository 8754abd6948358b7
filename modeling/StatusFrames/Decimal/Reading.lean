/-
Reading numerals: digit strings in a base, and decimal numbers with point and exponent.
-/
namespace StatusFrames.Decimal

/-- The value of a digit below the base, if the character is one. Letters count from ten in either case. -/
def digitValue? (base : Nat) (c : Char) : Option Nat :=
  let value? :=
    if '0' ≤ c ∧ c ≤ '9' then some (c.toNat - '0'.toNat)
    else if 'a' ≤ c ∧ c ≤ 'z' then some (c.toNat - 'a'.toNat + 10)
    else if 'A' ≤ c ∧ c ≤ 'Z' then some (c.toNat - 'A'.toNat + 10)
    else none
  value?.filter (· < base)

/-- The value of a non-empty string of digits. -/
def natural? (base : Nat) : List Char → Option Nat
  | [] => none
  | cs => cs.foldlM (fun value c => (digitValue? base c).map (value * base + ·)) 0

/-- Splits off the leading decimal digits. -/
def spanDigits (cs : List Char) : List Char × List Char :=
  (cs.takeWhile Char.isDigit, cs.dropWhile Char.isDigit)

/-- An optional exponent at the end of a number. -/
def exponent? : List Char → Option Int
  | [] => some 0
  | e :: rest =>
    if e = 'e' ∨ e = 'E' then
      match rest with
      | '-' :: digits => (natural? 10 digits).map fun n => -n
      | '+' :: digits => (natural? 10 digits).map Int.ofNat
      | digits => (natural? 10 digits).map Int.ofNat
    else none

/-- The binary64 number nearest to `digits * 10 ^ exponent`. Magnitudes far outside the range are settled without
computing the power. -/
def nearest (digits : Nat) (exponent : Int) : Float :=
  let magnitude : Int := (Nat.toDigits 10 digits).length + exponent
  if digits = 0 ∨ magnitude < -400 then 0.0
  else if magnitude > 400 then 1.0 / 0.0
  else Float.ofScientific digits (exponent < 0) exponent.natAbs

/-- An unsigned decimal number: digits with at most one point, at least one digit, and an optional exponent. -/
def unsigned? (cs : List Char) : Option Float :=
  let (whole, rest) := spanDigits cs
  let (part, rest) :=
    match rest with
    | '.' :: rest => spanDigits rest
    | rest => ([], rest)
  match natural? 10 (whole ++ part), exponent? rest with
  | some digits, some exponent => some (nearest digits (exponent - part.length))
  | _, _ => none

/-- A decimal number with an optional minus sign, if it is finite. -/
def finite? (cs : List Char) : Option Float :=
  let value? :=
    match cs with
    | '-' :: rest => (unsigned? rest).map fun x => -x
    | rest => unsigned? rest
  value?.filter (·.isFinite)

end StatusFrames.Decimal
