/-
The names that a definition takes from its surroundings: those that its body uses and has not bound before. A target is
bound before the value for it is looked at, and a branch or loop body does not bind names for what comes behind it.
-/
import StatusFrames.Template.Program

namespace StatusFrames.Template

mutual

def Target.names : Target → List String
  | .name x => [x]
  | .parts targets => namesOfTargets targets

def namesOfTargets : List Target → List String
  | [] => []
  | target :: rest => target.names ++ namesOfTargets rest

end

mutual

/-- The names that an expression mentions. -/
def Expr.names : Expr → List String
  | .none | .bool _ | .int _ | .float _ | .text _ => []
  | .name x => [x]
  | .attribute e _ | .negation e | .minus e => e.names
  | .call callee args named => callee.names ++ namesOfExprs args ++ namesOfNamed named
  | .filter e _ args named => e.names ++ namesOfExprs args ++ namesOfNamed named
  | .both a b | .either a b | .concat a b => a.names ++ b.names
  | .comparison first links => first.names ++ namesOfLinks links
  | .choice value condition other => value.names ++ condition.names ++ namesOfOption other

def namesOfExprs : List Expr → List String
  | [] => []
  | e :: rest => e.names ++ namesOfExprs rest

def namesOfNamed : List (String × Expr) → List String
  | [] => []
  | (_, e) :: rest => e.names ++ namesOfNamed rest

def namesOfLinks : List (Relation × Expr) → List String
  | [] => []
  | (_, e) :: rest => e.names ++ namesOfLinks rest

def namesOfOption : Option Expr → List String
  | none => []
  | some e => e.names

end

/-- The names of an expression that are not among the bound ones. -/
def Expr.freeNames (bound : List String) (e : Expr) : List String := e.names.filter (!bound.contains ·)

/-- The free names of the values that parameters fall back to. -/
def freeNamesOfParams (bound : List String) (params : List Param) : List String :=
  params.flatMap fun param => (namesOfOption param.fallback).filter (!bound.contains ·)

mutual

/-- The free names of a statement, and the names bound behind it. -/
def Statement.freeNames (bound : List String) : Statement → List String × List String
  | .text _ => ([], bound)
  | .output e => (e.freeNames bound, bound)
  | .each target items condition body otherwise =>
    let inLoop := "loop" :: bound
    let inBody := target.names ++ inLoop
    (items.freeNames inLoop ++ (namesOfOption condition).filter (!inBody.contains ·) ++
      (freeNamesOf inBody body).1 ++ (freeNamesOf bound otherwise).1, bound)
  | .branch condition body otherwise =>
    (condition.freeNames bound ++ (freeNamesOf bound body).1 ++ (freeNamesOf bound otherwise).1, bound)
  | .assign target value =>
    let bound := target.names ++ bound
    (value.freeNames bound, bound)
  | .capture target body =>
    let bound := target.names ++ bound
    ((freeNamesOf bound body).1, bound)
  | .define name params body =>
    let bound := params.map (·.name) ++ "caller" :: name :: bound
    let (free, bound') := freeNamesOf bound body
    (freeNamesOfParams bound params ++ free, bound')
  | .load template name => (template.freeNames bound, name :: bound)

def freeNamesOf (bound : List String) : List Statement → List String × List String
  | [] => ([], bound)
  | statement :: rest =>
    let (free, bound) := statement.freeNames bound
    let (more, bound) := freeNamesOf bound rest
    (free ++ more, bound)

end

/-- The names that a definition with these parameters and this body takes from its surroundings. -/
def freeNamesOfDefinition (params : List Param) (body : List Statement) : List String :=
  let bound := params.map (·.name)
  freeNamesOfParams bound params ++ (freeNamesOf bound body).1

end StatusFrames.Template
