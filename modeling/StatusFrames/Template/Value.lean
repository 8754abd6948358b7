/-
Values that templates work with. Data comes from outside. A name that is not bound has no value, and such a value can
be handed on but not used.
-/
import StatusFrames.Data
import StatusFrames.Decimal.Style
import StatusFrames.Template.Program
import StatusFrames.Text.Escaped

namespace StatusFrames.Template

/-- A definition. Its closure is the number of the cell that holds the bindings it can see. -/
structure Routine where
  name : String
  params : List Param
  body : List Statement
  /-- Whether the body asks for the block of a call. -/
  wantsCaller : Bool
  closure : Option Nat

/-- Where a loop stands. -/
structure LoopState where
  index : Nat
  count : Nat
  previous : Option Data
  next : Option Data

inductive Value
  | undefined
  /-- The value of a choice that has no other side: it prints as nothing. -/
  | absent
  | data (d : Data)
  | routine (r : Routine)
  | loop (state : LoopState)
  /-- The definitions of another template, by name, and its text. -/
  | bundle (text : String) (members : List (String × Value))

/-- Why rendering fails. -/
inductive Failure
  | undefinedValue
  | notIterable
  | notCallable
  | tooManyArguments
  | unknownFilter (name : String)
  | unknownTest (name : String)
  | badArgument
  | badOperand
  | unknownTemplate
  | wrongCount
  | tooDeep
deriving DecidableEq, Repr

abbrev Scope := List (String × Value)

namespace Value

def text (s : String) : Value := .data (.text s)

mutual

def listText : List Data → List String
  | [] => []
  | d :: rest => nestedText d :: listText rest

def fieldText : List (String × Data) → List String
  | [] => []
  | (name, d) :: rest => (Text.shown name ++ ": " ++ nestedText d) :: fieldText rest

/-- The text of data inside a collection: texts are quoted there. -/
def nestedText : Data → String
  | .text s => Text.shown s
  | .null => "None"
  | .bool b => if b then "True" else "False"
  | .int n => toString n
  | .float x => Decimal.Style.constant.write x
  | .list items => "[" ++ ", ".intercalate (listText items) ++ "]"
  | .record fields => "\x7b" ++ ", ".intercalate (fieldText fields) ++ "\x7d"

end

def dataText : Data → String
  | .text s => s
  | .float x => Decimal.Style.message.write x
  | d => nestedText d

/-- The text that a value stands for in a longer text. -/
def asText : Value → String
  | .undefined | .absent => ""
  | .data d => dataText d
  | .routine r => "<macro " ++ r.name ++ ">"
  | .loop state => "<loop " ++ toString state.index ++ "/" ++ toString state.count ++ ">"
  | .bundle text _ => text

/-- The value itself, if there is one. -/
def defined : Value → Except Failure Value
  | .undefined => .error .undefinedValue
  | v => .ok v

/-- The text that is printed for a value. -/
def print (v : Value) : Except Failure String := do
  return (← v.defined).asText

def isTrueData : Data → Bool
  | .null => false
  | .bool b => b
  | .int n => n ≠ 0
  | .float x => x != 0.0
  | .text s => !s.isEmpty
  | .list items => !items.isEmpty
  | .record fields => !fields.isEmpty

/-- Whether a condition holds. -/
def isTrue : Value → Except Failure Bool
  | .undefined => .error .undefinedValue
  | .absent => .ok false
  | .data d => .ok (isTrueData d)
  | .routine _ | .loop _ => .ok true
  | .bundle _ members => .ok (!members.isEmpty)

/-- A value that may be missing. -/
def ofData? : Option Data → Value
  | some d => .data d
  | none => .undefined

end Value

/-- What can be asked of a definition. -/
def Routine.members (r : Routine) : List (String × Value) :=
  [("name", .text r.name), ("arguments", .data (.list (r.params.map fun param => .text param.name))),
    ("caller", .data (.bool r.wantsCaller))]

/-- What a loop body knows about the loop. -/
def LoopState.members (s : LoopState) : List (String × Value) :=
  [("index0", .data (.int s.index)), ("index", .data (.int (s.index + 1))), ("length", .data (.int s.count)),
    ("revindex", .data (.int (s.count - s.index))), ("revindex0", .data (.int (s.count - s.index - 1))),
    ("first", .data (.bool (s.index = 0))), ("last", .data (.bool (s.index + 1 = s.count))),
    ("depth", .data (.int 1)), ("depth0", .data (.int 0)), ("previtem", .ofData? s.previous),
    ("nextitem", .ofData? s.next)]

namespace Value

/-- The members of a value by name; only a record and the values that templates make have any. -/
def members? : Value → Option (List (String × Value))
  | .data (.record fields) => some (fields.map fun (name, d) => (name, .data d))
  | .routine r => some r.members
  | .loop state => some state.members
  | .bundle _ members => some members
  | _ => none

/-- A member of a value; a value that is not there has no members to ask for. -/
def member (name : String) : Value → Except Failure Value
  | .undefined | .absent => .error .undefinedValue
  | v => .ok ((v.members?.bind (·.lookup name)).getD .undefined)

/-- The items that a collection consists of: those of a list, or the names of its members. -/
def parts? : Value → Option (List Data)
  | .data (.list items) => some items
  | v => v.members?.map fun members => members.map fun (name, _) => .text name

/-- The items to loop over: those of a collection, the characters of a text, and none where there is no value. -/
def items : Value → Except Failure (List Data)
  | .undefined => .error .undefinedValue
  | .absent | .data .null => .ok []
  | .data (.text s) => .ok (s.toList.map fun c => .text (String.singleton c))
  | v =>
    match v.parts? with
    | some items => .ok items
    | none => .error .notIterable

mutual

def sameData : Data → Data → Bool
  | .null, .null => true
  | .bool a, .bool b => a == b
  | .bool a, .int b => Int.ofNat a.toNat == b
  | .int a, .bool b => a == Int.ofNat b.toNat
  | .int a, .int b => a == b
  | .int a, .float b => Float.ofInt a == b
  | .float a, .int b => a == Float.ofInt b
  | .float a, .float b => a == b
  | .text a, .text b => a == b
  | .list as, .list bs => sameItems as bs
  | .record as, .record bs => as.length == bs.length && sameFields as bs
  | _, _ => false

def sameItems : List Data → List Data → Bool
  | [], [] => true
  | a :: as, b :: bs => sameData a b && sameItems as bs
  | _, _ => false

/-- Whether each of the fields has the same value in the other record. -/
def sameFields : List (String × Data) → List (String × Data) → Bool
  | [], _ => true
  | (x, a) :: rest, bs =>
    (match bs.lookup x with
      | some b => sameData a b
      | none => false) && sameFields rest bs

end

/-- Sameness of values that have no members. -/
def samePlain : Value → Value → Bool
  | .undefined, .undefined | .undefined, .absent | .absent, .undefined | .absent, .absent => true
  | .data a, .data b => sameData a b
  | _, _ => false

/-- Sameness of values whose members have none themselves. -/
def sameFlat (v w : Value) : Bool :=
  match v.members?, w.members? with
  | some as, some bs => as.length == bs.length && as.all fun (x, a) => (bs.lookup x).any (samePlain a)
  | none, none => samePlain v w
  | _, _ => false

mutual

/-- Whether two values are equal. Values with members are equal when their members are. -/
def same : Value → Value → Bool
  | .data a, .data b => sameData a b
  | .bundle _ as, w =>
    match w.members? with
    | some bs => as.length == bs.length && sameMembers as bs
    | none => false
  | v, w => sameFlat v w

def sameMembers : List (String × Value) → List (String × Value) → Bool
  | [], _ => true
  | (x, a) :: rest, bs =>
    (match bs.lookup x with
      | some b => same a b
      | none => false) && sameMembers rest bs

end

end Value

end StatusFrames.Template
