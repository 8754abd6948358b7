/-
Names that can stand in a C identifier.
-/
namespace StatusFrames.Text

/-- A letter of the basic alphabet or an underscore. -/
def isNameStart (c : Char) : Bool := c.isAlpha || c == '_'

/-- A letter of the basic alphabet, a digit or an underscore. -/
def isNameChar (c : Char) : Bool := c.isAlphanum || c == '_'

/-- Not empty, made of `isNameChar` characters, and the first is no digit. -/
def isIdentifier (name : String) : Bool :=
  match name.toList with
  | [] => false
  | first :: rest => isNameStart first && rest.all isNameChar

end StatusFrames.Text
