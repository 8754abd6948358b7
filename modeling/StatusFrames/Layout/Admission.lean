/-
Which literals a field admits, and which health checks.
-/
import StatusFrames.Error
import StatusFrames.Layout
import StatusFrames.Registry
import StatusFrames.Text.Normal

namespace StatusFrames.Layout

/-- What decides whether a field admits a literal. -/
structure Domain where
  kind : TypeClass
  /-- Width in bytes. -/
  width : Nat
  enumValues : List EnumValue

namespace Domain

/-- Least integer of the field's type. -/
def low (d : Domain) : Int := if d.kind = .signed then -Int.ofNat (Nat.pow 2 (8 * d.width - 1)) else 0

/-- Greatest integer of the field's type. -/
def high (d : Domain) : Int :=
  if d.kind = .signed then Int.ofNat (Nat.pow 2 (8 * d.width - 1)) - 1 else Int.ofNat (Nat.pow 2 (8 * d.width)) - 1

def checkInteger (d : Domain) (literal : Literal) (value : Int) : Except LiteralFault Unit :=
  if d.low ≤ value ∧ value ≤ d.high then .ok () else .error (.outside literal d.low d.high d.width)

/-- Integers must fit, float fields take any finite number, booleans also take 0 and 1, and enum fields take their
labels and the numbers of these. -/
def check (d : Domain) (literal : Literal) : Except LiteralFault Unit :=
  match d.kind, literal with
  | .unsigned, .integer i | .signed, .integer i => d.checkInteger literal i
  | .unsigned, .unsigned n | .signed, .unsigned n => d.checkInteger literal n
  | .float, .integer _ | .float, .unsigned _ => .ok ()
  | .float, .float x => if x.isFinite then .ok () else .error (.wrongClass literal)
  | .bool, .bool _ => .ok ()
  | .bool, .integer i => if i = 0 ∨ i = 1 then .ok () else .error (.wrongClass literal)
  | .enum, .label name => if d.enumValues.any (·.label == name) then .ok () else .error (.notALabel name)
  | .enum, .integer i =>
    if d.enumValues.any fun v => (v.value.toNat : Int) == i then .ok () else .error (.notAValue i)
  | _, _ => .error (.wrongClass literal)

/-- The numeric value of a literal; a label counts as its number. -/
def numeric? (d : Domain) : Literal → Option Float
  | .label name => (d.enumValues.find? (·.label == name)).map fun v => v.value.toNat.toUInt64.toFloat
  | literal => literal.approximate?

/-- Whether the bounds of a range are the wrong way round. Integers are compared exactly. -/
def isInverted (d : Domain) (min max : Literal) : Bool :=
  match min.integerValue?, max.integerValue? with
  | some low, some high => high < low
  | _, _ =>
    match d.numeric? min, d.numeric? max with
    | some low, some high => high < low
    | _, _ => false

def checkLiteral (d : Domain) (literal : Literal) : Except CheckFault Unit :=
  (d.check literal).mapError .literal

/-- The condition of a health check, whose literals must fit its kind and the field. -/
def condition (d : Domain) (check : Document.HealthCheck) : Except CheckFault Condition :=
  match check.kind with
  | .exact =>
    if check.min.isSome || check.max.isSome then .error .boundsOnExact
    else
      match check.value with
      | none => .error .noValue
      | some value => do
        d.checkLiteral value
        return .exact value
  | .range =>
    if check.value.isSome then .error .valueOnRange
    else
      match check.min, check.max with
      | none, _ => .error .noMin
      | some _, none => .error .noMax
      | some min, some max => do
        d.checkLiteral min
        d.checkLiteral max
        if d.isInverted min max then .error (.inverted min max) else return .range min max

end Domain

/-- A text in plain form; a blank one counts as not given. -/
def plainText (text : Option String) : Option String :=
  (text.map Text.normalize).filter (!·.isEmpty)

def healthCheck (d : Domain) (check : Document.HealthCheck) : Except CheckFault HealthCheck := do
  let condition ← d.condition check
  return ⟨condition, check.result, plainText check.troubleshoot, plainText check.description⟩

end StatusFrames.Layout
