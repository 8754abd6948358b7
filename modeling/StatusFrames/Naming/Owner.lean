/-
Who asks for a C symbol: the output as a whole, or a subsystem, frame or field of a document.
-/
import StatusFrames.Files.Path

namespace StatusFrames

structure Owner where
  document : Option Files.Path
  /-- Subsystem, frame and field, as far as they are given. -/
  element : List String
  /-- What the symbol is. -/
  role : String
deriving DecidableEq, Repr

namespace Owner

/-- Owner of the symbols that all protocols share. -/
def output (role : String) : Owner := ⟨none, [], role⟩

def ofElement (document : Files.Path) (element : List String) (role : String) : Owner :=
  ⟨some document, element, role⟩

def text (o : Owner) : String :=
  match o.document with
  | none => "output (" ++ o.role ++ ")"
  | some document => "/".intercalate o.element ++ " (" ++ o.role ++ ") in " ++ document.text

end Owner

end StatusFrames
