/-
Plain data: what templates are given and what is printed for the reader.
-/
namespace StatusFrames

inductive Data
  | null
  | bool (b : Bool)
  | int (n : Int)
  | float (x : Float)
  | text (s : String)
  | list (items : List Data)
  | record (fields : List (String × Data))

namespace Data

def ofOption {α : Type} (f : α → Data) : Option α → Data
  | some x => f x
  | none => .null

def ofList {α : Type} (f : α → Data) (xs : List α) : Data := .list (xs.map f)

end Data

end StatusFrames
