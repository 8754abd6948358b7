/-
The C symbols of an output. C keeps types, constants, macros and functions in one space of names, so a symbol asked for
twice is an error whatever it names.
-/
import StatusFrames.Error

namespace StatusFrames

/-- Symbols with their owners, newest first. -/
structure SymbolTable where
  entries : List (String × Owner) := []

namespace SymbolTable

def owner? (t : SymbolTable) (symbol : String) : Option Owner := t.entries.lookup symbol

def size (t : SymbolTable) : Nat := t.entries.length

def isEmpty (t : SymbolTable) : Bool := t.entries.isEmpty

end SymbolTable

/-- An operation that changes a table, also if it fails. -/
abbrev SymbolM := ExceptT CompileError (StateM SymbolTable)

/-- Adds a symbol that is not there yet. -/
def SymbolM.register (symbol : String) (owner : Owner) : SymbolM Unit := do
  match (← get).owner? symbol with
  | some first => throw (.nameCollision symbol first owner)
  | none => modify fun t => ⟨(symbol, owner) :: t.entries⟩

namespace SymbolTable

/-- The table that an operation makes of another, if it succeeds. -/
def after (t : SymbolTable) (operation : SymbolM Unit) : Except CompileError SymbolTable :=
  let (result, table) := operation.run.run t
  result.map fun () => table

/-- The table with one symbol more. -/
def register (t : SymbolTable) (symbol : String) (owner : Owner) : Except CompileError SymbolTable :=
  t.after (SymbolM.register symbol owner)

end SymbolTable

end StatusFrames
