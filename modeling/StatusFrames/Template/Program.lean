/-
Templates as programs: what pieces of a template do when it is rendered.
-/
namespace StatusFrames.Template

inductive Relation
  | equal
  | unequal
deriving DecidableEq, Repr

inductive Expr
  | none
  | bool (b : Bool)
  | int (n : Nat)
  | float (x : Float)
  | text (s : String)
  | name (s : String)
  | attribute (e : Expr) (name : String)
  /-- A call with arguments by position and arguments by name. -/
  | call (callee : Expr) (args : List Expr) (named : List (String × Expr))
  | filter (e : Expr) (name : String) (args : List Expr) (named : List (String × Expr))
  | negation (e : Expr)
  | minus (e : Expr)
  | both (a b : Expr)
  | either (a b : Expr)
  /-- A chain of comparisons, which holds when each link between two neighbours does. -/
  | comparison (first : Expr) (links : List (Relation × Expr))
  | concat (a b : Expr)
  /-- The first expression if the condition holds, else the second, which may be missing. -/
  | choice (value condition : Expr) (other : Option Expr)
deriving Repr

/-- What a value is bound to: a name, or one target for each item of the value. -/
inductive Target
  | name (s : String)
  | parts (targets : List Target)
deriving Repr

/-- A parameter with the value that it has when no argument is given. -/
structure Param where
  name : String
  fallback : Option Expr := none
deriving Repr

inductive Statement
  | text (s : String)
  | output (e : Expr)
  /-- Runs the body for each item for which the condition holds. -/
  | each (target : Target) (items : Expr) (condition : Option Expr) (body otherwise : List Statement)
  | branch (condition : Expr) (body otherwise : List Statement)
  | assign (target : Target) (value : Expr)
  /-- Binds the text of the body. -/
  | capture (target : Target) (body : List Statement)
  | define (name : String) (params : List Param) (body : List Statement)
  /-- Runs another template for its definitions and keeps them under a name. -/
  | load (template : Expr) (name : String)
deriving Repr

end StatusFrames.Template
