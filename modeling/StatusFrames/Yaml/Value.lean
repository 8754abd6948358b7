/-
What a scalar stands for where any type is possible, and the values built from such scalars.
-/
import StatusFrames.Yaml.Tag
import StatusFrames.Decimal.Reading

namespace StatusFrames.Yaml

inductive Value
  | null
  | bool (b : Bool)
  /-- An integer of at most 128 bits. -/
  | integer (n : Int)
  | float (x : Float)
  | text (s : String)
  | list (items : List Value)
  | map (entries : List (Value × Value))

namespace Plain

def isNull (text : String) : Bool := text ∈ ["null", "Null", "NULL", "~"]

def bool? (text : String) : Option Bool :=
  if text ∈ ["true", "True", "TRUE"] then some true
  else if text ∈ ["false", "False", "FALSE"] then some false
  else none

def startsWithSign (cs : List Char) : Bool := cs.head? = some '+' || cs.head? = some '-'

/-- A number with a leading zero, such as `007`, is no number. -/
def hasLeadingZero (cs : List Char) : Bool :=
  match if startsWithSign cs then cs.drop 1 else cs with
  | '0' :: d :: rest => (d :: rest).all Char.isDigit
  | _ => false

/-- Digits behind a base marker, or decimal digits. -/
def magnitude? (cs : List Char) : Option Nat :=
  match cs with
  | '0' :: 'x' :: digits => Decimal.natural? 16 digits
  | '0' :: 'o' :: digits => Decimal.natural? 8 digits
  | '0' :: 'b' :: digits => Decimal.natural? 2 digits
  | digits => if hasLeadingZero digits then none else Decimal.natural? 10 digits

/-- An integer without a minus sign. -/
def unsigned? (cs : List Char) : Option Nat :=
  match cs with
  | '+' :: rest => magnitude? rest
  | rest => magnitude? rest

/-- An integer of at most 128 bits. -/
def integer? (text : String) : Option Int :=
  match text.toList with
  | '-' :: rest => ((magnitude? rest).filter (· ≤ 0x80000000000000000000000000000000)).map fun n => -(n : Int)
  | cs => ((unsigned? cs).filter (· < 0x100000000000000000000000000000000)).map Int.ofNat

/-- A floating point number, or one of the words for infinities and not-a-number. -/
def float? (text : String) : Option Float :=
  let positive :=
    match text.toList with
    | '+' :: rest => if startsWithSign rest then none else some rest
    | cs => some cs
  match positive with
  | none => none
  | some cs =>
    if String.ofList cs ∈ [".inf", ".Inf", ".INF"] then some (1.0 / 0.0)
    else if text ∈ ["-.inf", "-.Inf", "-.INF"] then some (-1.0 / 0.0)
    else if text ∈ [".nan", ".NaN", ".NAN"] then some (0.0 / 0.0)
    else Decimal.finite? cs

end Plain

open Plain

/-- The value of a plain scalar without a tag. -/
def Value.ofPlain (text : String) : Value :=
  if text.isEmpty || isNull text then .null
  else
    match bool? text, integer? text with
    | some b, _ => .bool b
    | none, some n => .integer n
    | none, none =>
      if hasLeadingZero text.toList then .text text
      else
        match float? text with
        | some x => .float x
        | none => .text text

/-- The value of a scalar. A core tag forces a type; the error is what that tag asks for. -/
def Value.ofScalar (tag : Option Tag) (style : Style) (text : String) : Except String Value :=
  match tag with
  | none => .ok (if style = .plain then .ofPlain text else .text text)
  | some (.core "bool") =>
    match bool? text with
    | some b => .ok (.bool b)
    | none => .error "a boolean"
  | some (.core "int") =>
    match integer? text with
    | some n => .ok (.integer n)
    | none => .error "an integer"
  | some (.core "float") =>
    match float? text with
    | some x => .ok (.float x)
    | none => .error "a float"
  | some (.core "null") => if isNull text then .ok .null else .error "null"
  | some (.own _) => .ok (if style = .plain then .ofPlain text else .text text)
  | some _ => .ok (.text text)

end StatusFrames.Yaml
