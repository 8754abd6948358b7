/-
The filters that templates may use, and the tests by which one of them selects.
-/
import StatusFrames.Decimal.Reading
import StatusFrames.Template.Value

namespace StatusFrames.Template.Filter

open Value

/-- Number of items, or of characters of a text. -/
def length : Value → Except Failure Value
  | .undefined | .absent => .error .undefinedValue
  | .data .null => .error .notIterable
  | v => do
    let items ← v.items
    return .data (.int items.length)

/-- A text with one more part behind it; `between` divides the two if there is a text yet. -/
def joined (between text part : String) : String := if text.isEmpty then part else text ++ between ++ part

/-- The texts of the items with a text between them. A value that is not there gives the empty text. -/
def join (v : Value) (between : String) : Except Failure Value :=
  match v with
  | .undefined | .absent | .data .null => .ok (.text "")
  | v => do
    let items ← v.items
    return .text ((items.map dataText).foldl (joined between) "")

def list (v : Value) : Except Failure Value := do
  let items ← v.items
  return .data (.list items)

/-- An argument as a text. -/
def textArgument : Value → Except Failure String
  | .undefined | .absent => .error .undefinedValue
  | v => .ok v.asText

/-- An argument that may be left out, or be a value that is not there. -/
def optionalText : List Value → Except Failure (Option String)
  | [] | [.undefined] | [.absent] | [.data .null] => .ok none
  | [v] => .ok (some v.asText)
  | _ => .error .tooManyArguments

/-- The place that a part of a path stands for, if it is a number. -/
def position? (part : String) : Option Nat :=
  match part.toList with
  | '+' :: digits => (Decimal.natural? 10 digits).filter (· < 0x10000000000000000)
  | digits => (Decimal.natural? 10 digits).filter (· < 0x10000000000000000)

/-- The item at a position of a list or a text. -/
def itemAt (index : Nat) : Value → Except Failure Value
  | .undefined | .absent => .error .undefinedValue
  | .data (.list items) => .ok (.ofData? items[index]?)
  | .data (.text s) => .ok (.ofData? (s.toList[index]?.map fun c => .text (String.singleton c)))
  | _ => .ok .undefined

/-- The parts of a path between its dots. -/
def pathParts (path : String) : List String := (path.toList.splitOn '.').map String.ofList

/-- Follows a path of member names and positions. -/
def follow (path : List String) (v : Value) : Except Failure Value :=
  path.foldlM (fun v part =>
    match position? part with
    | some index => itemAt index v
    | none => v.member part) v

/-- The items for which the value at a path passes a test. -/
def selectWhere (v : Value) (path : String) (passes : Value → Except Failure Bool) : Except Failure Value := do
  let items ← v.items
  let chosen ← items.filterM fun item => do passes (← follow (pathParts path) (.data item))
  return .data (.list chosen)

/-- Whether a value counts as true, one that is not there being false. -/
def countsAsTrue : Value → Except Failure Bool
  | .undefined => .ok false
  | v => v.isTrue

/-- The names of the tests. -/
def testNames : List String :=
  ["defined", "undefined", "none", "true", "false", "boolean", "number", "integer", "int", "string", "sequence",
    "mapping", "eq", "equalto", "==", "ne", "!="]

/-- Puts a value to a test, which may take arguments. -/
def test (name : String) (args : List Value) (v : Value) : Except Failure Bool :=
  match name, args with
  | "defined", [] => .ok (match v with | .undefined | .absent => false | _ => true)
  | "undefined", [] => .ok (match v with | .undefined | .absent => true | _ => false)
  | "none", [] => .ok (match v with | .data .null => true | _ => false)
  | "true", [] => .ok (match v with | .data (.bool true) => true | _ => false)
  | "false", [] => .ok (match v with | .data (.bool false) => true | _ => false)
  | "boolean", [] => .ok (match v with | .data (.bool _) => true | _ => false)
  | "number", [] => .ok (match v with | .data (.int _) | .data (.float _) => true | _ => false)
  | "integer", [] | "int", [] => .ok (match v with | .data (.int _) => true | _ => false)
  | "string", [] => .ok (match v with | .data (.text _) => true | _ => false)
  | "sequence", [] => .ok (match v with | .data (.list _) => true | _ => false)
  | "mapping", [] => .ok v.members?.isSome
  | "eq", [w] | "equalto", [w] | "==", [w] => .ok (v.same w)
  | "ne", [w] | "!=", [w] => .ok !v.same w
  | _, _ => .error .badArgument

def apply (name : String) (v : Value) (args : List Value) : Except Failure Value :=
  match name, args with
  | "length", [] => length v
  | "join", args => do join v ((← optionalText args).getD "")
  | "list", [] => list v
  | "selectattr", path :: args => do
    let path ← textArgument path
    match ← optionalText (args.take 1) with
    | none => selectWhere v path countsAsTrue
    | some name =>
      if testNames.contains name then selectWhere v path (test name (args.drop 1)) else throw (.unknownTest name)
  | "length", _ | "list", _ | "selectattr", _ => .error .badArgument
  | _, _ => .error (.unknownFilter name)

end StatusFrames.Template.Filter
