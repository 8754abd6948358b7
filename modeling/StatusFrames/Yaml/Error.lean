/-
Why a document does not give the value that is asked for, and where.
-/
import StatusFrames.Yaml.Value
import StatusFrames.Decimal.Style
import StatusFrames.Text.Escaped

namespace StatusFrames.Yaml

inductive Fault
  | missingField (name : String)
  | unknownField (name : String) (accepted : List String)
  | duplicateField (name : String)
  | unknownVariant (name : String) (accepted : List String)
  | wrongType (found : Value) (expected : String)
  | wrongValue (found : Value) (expected : String)
  /-- None of several forms fits; the text says which are possible. -/
  | mismatch (expectation : String)
  /-- The text itself cannot be read. -/
  | unreadable

/-- One step of the way from the root to a node. -/
inductive Step
  | key (name : String)
  | item (index : Nat)
  /-- Behind a key that is no scalar. -/
  | unknown
  /-- From an alias to the node that it stands for. -/
  | alias
deriving DecidableEq

structure ReadError where
  /-- From the root; nothing where the place is not known yet. -/
  path : Option (List Step) := none
  fault : Fault

/-- Gives an error without a place the place `path`. -/
def ReadError.under (path : List Step) (e : ReadError) : ReadError :=
  { e with path := some (e.path.getD path) }

def inTicks (name : String) : String := "`" ++ name ++ "`"

/-- A list of choices as messages spell it. -/
def oneOf : List String → String
  | [] => "nothing"
  | [a] => inTicks a
  | [a, b] => inTicks a ++ " or " ++ inTicks b
  | names => "one of " ++ ", ".intercalate (names.map inTicks)

/-- A value as messages describe it. -/
def Value.describe : Value → String
  | .null => "unit value"
  | .bool b => "boolean " ++ inTicks (if b then "true" else "false")
  | .integer n =>
    let width :=
      if n < -0x8000000000000000 then " as i128"
      else if 0x10000000000000000 ≤ n then " as u128"
      else ""
    "integer " ++ inTicks (toString n) ++ width
  | .float x => "floating point " ++ inTicks (Decimal.Style.message.write x)
  | .text s => "string " ++ Text.shown s
  | .list _ => "sequence"
  | .map _ => "map"

def Fault.message : Fault → String
  | .missingField name => "missing field " ++ inTicks name
  | .unknownField name accepted => "unknown field " ++ inTicks name ++ ", expected " ++ oneOf accepted
  | .duplicateField name => "duplicate field " ++ inTicks name
  | .unknownVariant name accepted => "unknown variant " ++ inTicks name ++ ", expected " ++ oneOf accepted
  | .wrongType found expected => "invalid type: " ++ found.describe ++ ", expected " ++ expected
  | .wrongValue found expected => "invalid value: " ++ found.describe ++ ", expected " ++ expected
  | .mismatch expectation => expectation
  | .unreadable => "<yaml>"

def Step.text : Step → String
  | .key name => name
  | .item index => "\\[" ++ toString index ++ "\\]"
  | .unknown => "?"
  | .alias => ""

/-- The place, unless it is the root, and the fault. An unreadable text has no place. -/
def ReadError.message (e : ReadError) : String :=
  match e.fault, e.path with
  | .unreadable, _ => e.fault.message
  | _, none => e.fault.message
  | _, some [] => e.fault.message
  | _, some path => ".".intercalate (path.map Step.text) ++ ": " ++ e.fault.message

end StatusFrames.Yaml
