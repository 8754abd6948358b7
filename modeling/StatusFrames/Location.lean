/-
Where in a document a problem lies.
-/
import StatusFrames.Files.Path

namespace StatusFrames

structure Location where
  document : Files.Path
  frame : Option String := none
  field : Option String := none
deriving DecidableEq, Repr

namespace Location

/-- A frame of the document; an earlier field is forgotten. -/
def inFrame (l : Location) (name : String) : Location := ⟨l.document, some name, none⟩

def inField (l : Location) (name : String) : Location := { l with field := some name }

def text (l : Location) : String :=
  let part := fun (what : String) (name : Option String) =>
    match name with
    | some name => ", " ++ what ++ " '" ++ name ++ "'"
    | none => ""
  l.document.text ++ part "frame" l.frame ++ part "field" l.field

end Location

end StatusFrames
