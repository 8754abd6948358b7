/-
Running template programs. Calls of definitions and loading of other templates lead out of the program at hand, so the
interpreter is given a way to run other programs; `surroundings` ties the knot a bounded number of times.
-/
import StatusFrames.Template.Filter
import StatusFrames.Template.Machine

namespace StatusFrames.Template

/-- Templates by name. -/
abbrev Library := List (String × List Statement)

/-- What a program may ask of its surroundings. -/
structure Surroundings where
  library : Library
  /-- Runs a program with values for parameters: its text and the machine behind it. -/
  run : List (Param × Value) → List Statement → Machine → Except Failure (String × Machine)

/-- The argument for a parameter, given by position or by name. -/
def argumentFor (param : Param) (arg? : Option Value) (named : List (String × Value)) : Except Failure Value :=
  match arg?, named.lookup param.name with
  | some _, some _ => .error .tooManyArguments
  | some v, none | none, some v => .ok v
  | none, none => .ok .undefined

/-- Parameters with their arguments; one without an argument has no value. -/
def bindArgs (named : List (String × Value)) : List Param → List Value → Except Failure (List (Param × Value))
  | [], [] => .ok []
  | [], _ :: _ => .error .tooManyArguments
  | param :: params, args => do
    let v ← argumentFor param args.head? named
    let bindings ← bindArgs named params args.tail
    return (param, v) :: bindings

def callValue (s : Surroundings) (m : Machine) (callee : Value) (args : List Value)
    (named : List (String × Value)) : Except Failure Value :=
  match callee with
  | .routine r => do
    let bindings ← bindArgs named r.params args
    let known := if r.wantsCaller then "caller" :: r.params.map (·.name) else r.params.map (·.name)
    if named.any fun (x, _) => !known.contains x then throw .tooManyArguments
    let inner ← m.enter r
    let caller := (named.lookup "caller").getD .undefined
    let inner := if r.wantsCaller then inner.bind "caller" caller else inner
    let (text, _) ← s.run bindings r.body inner
    return .text text
  | _ => .error .notCallable

/-- The number with the other sign. The largest magnitude of a signed integer of 128 bits stays as it is. -/
def opposite : Value → Except Failure Value
  | .data (.int n) =>
    if n ≤ 0x7FFFFFFFFFFFFFFFFFFFFFFFFFFFFFFF then .ok (.data (.int (-n)))
    else if n = 0x80000000000000000000000000000000 then .ok (.data (.int n))
    else .error .badOperand
  | .data (.float x) => .ok (.data (.float (-x)))
  | _ => .error .badOperand

def compare (relation : Relation) (v w : Value) : Except Failure Bool := do
  let same := (← v.defined).same (← w.defined)
  return match relation with
    | .equal => same
    | .unequal => !same

mutual

def evalExpr (s : Surroundings) (m : Machine) : Expr → Except Failure Value
  | .none => .ok (.data .null)
  | .bool b => .ok (.data (.bool b))
  | .int n => .ok (.data (.int n))
  | .float x => .ok (.data (.float x))
  | .text t => .ok (.text t)
  | .name x => .ok (m.lookup x)
  | .attribute e name => do
    let v ← evalExpr s m e
    v.member name
  | .call callee args named => do
    let callee ← evalExpr s m callee
    let args ← evalExprs s m args
    let named ← evalNamed s m named
    callValue s m callee args named
  | .filter e name args named => do
    let v ← evalExpr s m e
    let args ← evalExprs s m args
    let named ← evalNamed s m named
    if named.isEmpty then Filter.apply name v args else throw .badArgument
  | .negation e => do
    let b ← (← evalExpr s m e).isTrue
    return .data (.bool !b)
  | .minus e => do
    opposite (← evalExpr s m e)
  | .both a b => do
    let v ← evalExpr s m a
    if ← v.isTrue then evalExpr s m b else return v
  | .either a b => do
    let v ← evalExpr s m a
    if ← v.isTrue then return v else evalExpr s m b
  | .comparison first links => do
    let v ← evalExpr s m first
    let b ← evalLinks s m v links
    return .data (.bool b)
  | .concat a b => do
    let v ← (← evalExpr s m a).defined
    let w ← (← evalExpr s m b).defined
    return .text (v.asText ++ w.asText)
  | .choice value condition other => do
    if ← (← evalExpr s m condition).isTrue then evalExpr s m value else evalOther s m other

def evalOther (s : Surroundings) (m : Machine) : Option Expr → Except Failure Value
  | some e => evalExpr s m e
  | none => .ok .absent

def evalExprs (s : Surroundings) (m : Machine) : List Expr → Except Failure (List Value)
  | [] => .ok []
  | e :: rest => do
    let v ← evalExpr s m e
    let vs ← evalExprs s m rest
    return v :: vs

def evalNamed (s : Surroundings) (m : Machine) : List (String × Expr) → Except Failure (List (String × Value))
  | [] => .ok []
  | (x, e) :: rest => do
    let v ← evalExpr s m e
    let vs ← evalNamed s m rest
    return (x, v) :: vs

/-- Whether all links of a chain hold; those behind one that does not are not looked at. -/
def evalLinks (s : Surroundings) (m : Machine) (left : Value) : List (Relation × Expr) → Except Failure Bool
  | [] => .ok true
  | (relation, e) :: rest => do
    let right ← evalExpr s m e
    if ← compare relation left right then evalLinks s m right rest else return false

end

/-- The items for which a condition on the loop variable holds. -/
def selectItems (s : Surroundings) (m : Machine) (target : Target) (condition : Option Expr) (items : List Data) :
    Except Failure (List Data) :=
  match condition with
  | none => .ok items
  | some e => do
    let m ← m.push {}
    items.filterM fun item => do
      let m ← m.bindTarget target (.data item)
      (← evalExpr s m e).isTrue

/-- The text of a loop body for the items from `index` on. What a body binds is there for the next item. -/
def runItems (body : Machine → Except Failure (String × Machine)) (target : Target) (count : Nat) :
    Nat → Option Data → List Data → Machine → Except Failure (String × Machine)
  | _, _, [], m => .ok ("", m)
  | index, previous, item :: rest, m => do
    let m := m.modifyTop fun f => { f with loop := some ⟨index, count, previous, rest.head?⟩ }
    let m ← m.bindTarget target (.data item)
    let (text, m) ← body m
    let (more, m) ← runItems body target count (index + 1) (some item) rest m
    return (text ++ more, m)

/-- The program of a template that is given by name. -/
def findProgram (library : Library) : Data → Except Failure (Option (List Statement))
  | .text name => .ok (library.lookup name)
  | _ => .error .unknownTemplate

/-- The program of the first template that exists among several. -/
def firstProgram (library : Library) : List Data → Except Failure (List Statement)
  | [] => .error .unknownTemplate
  | name :: rest => do
    match ← findProgram library name with
    | some program => return program
    | none => firstProgram library rest

/-- The program that a value names: that of a template, or that of the first one in a collection. An empty collection
stands for the empty program. -/
def chosenProgram (library : Library) (v : Value) : Except Failure (List Statement) :=
  match v, v.parts? with
  | _, some [] => .ok []
  | _, some names => firstProgram library names
  | .data name, none => firstProgram library [name]
  | _, none => .error .unknownTemplate

/-- Runs another template for its definitions and binds them. -/
def loadTemplate (s : Surroundings) (m : Machine) (template : Value) (x : String) : Except Failure Machine := do
  let inner ← m.beginLoad
  let program ← chosenProgram s.library template
  let (text, inner) ← s.run [] program inner
  let (members, m) := inner.endLoad
  return m.bind x (.bundle text members)

mutual

/-- Runs a statement: its text and the machine for the statements behind it. -/
def runStatement (s : Surroundings) (m : Machine) : Statement → Except Failure (String × Machine)
  | .text t => .ok (t, m)
  | .output e => do
    let text ← (← evalExpr s m e).print
    return (text, m)
  | .each target items condition body otherwise => do
    let all ← (← evalExpr s m items).items
    let chosen ← selectItems s m target condition all
    let inner ← m.push {}
    if chosen.isEmpty then runStatements s m otherwise
    else
      let (text, inner) ← runItems (fun m => runStatements s m body) target chosen.length 0 none chosen inner
      return (text, inner.pop)
  | .branch condition body otherwise => do
    if ← (← evalExpr s m condition).isTrue then runStatements s m body else runStatements s m otherwise
  | .assign target e => do
    let v ← evalExpr s m e
    let m ← m.bindTarget target v
    return ("", m)
  | .capture target body => do
    let (text, m) ← runStatements s m body
    let m ← m.bindTarget target (.text text)
    return ("", m)
  | .define x params body => .ok ("", m.define x params body)
  | .load template x => do
    let m ← loadTemplate s m (← evalExpr s m template) x
    return ("", m)

def runStatements (s : Surroundings) (m : Machine) : List Statement → Except Failure (String × Machine)
  | [] => .ok ("", m)
  | statement :: rest => do
    let (text, m) ← runStatement s m statement
    let (more, m) ← runStatements s m rest
    return (text ++ more, m)

end

/-- Binds parameters, the last one first. One without an argument falls back to its own value, which sees the
parameters behind it. -/
def bindParams (s : Surroundings) : List (Param × Value) → Machine → Except Failure Machine
  | [], m => .ok m
  | (param, v) :: rest, m => do
    let m ← bindParams s rest m
    let v ←
      match v, param.fallback with
      | .undefined, some e | .absent, some e => evalExpr s m e
      | v, _ => pure v
    return m.bind param.name v

/-- Surroundings in which programs may run inside each other to the given level. -/
def surroundings (library : Library) : Nat → Surroundings
  | 0 => { library := library, run := fun _ _ _ => .error .tooDeep }
  | level + 1 =>
    let inner := surroundings library level
    { library := library
      run := fun bindings program m => do runStatements inner (← bindParams inner bindings m) program }

/-- The text of a template of the library for the given data. -/
def render (library : Library) (name : String) (fields : List (String × Data)) : Except Failure String := do
  let program ← firstProgram library [.text name]
  let given : Scope := fields.map fun (x, d) => (x, .data d)
  let (text, _) ← runStatements (surroundings library Machine.maxDepth) (.start given) program
  return text

end StatusFrames.Template
