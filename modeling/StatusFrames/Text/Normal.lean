/-
Plain text for generated comments and constants: canonical decomposition, removal of all marks, and trimming.
Marks are put into canonical order first, although removing them makes the order immaterial.
-/
import StatusFrames.Text.Blank
import StatusFrames.Text.Mark
import StatusFrames.Text.CombiningClass
import StatusFrames.Text.Decomposition

namespace StatusFrames.Text

/-- Puts a character in front of a text in canonical order, behind the marks of a lower class. -/
def placeMark (c : Char) : List Char → List Char
  | [] => [c]
  | d :: rest =>
    if combiningClass d ≠ 0 ∧ combiningClass d < combiningClass c then d :: placeMark c rest
    else c :: d :: rest

/-- Sorts every run of marks by combining class; marks of one class keep their order. -/
def canonicalOrder (cs : List Char) : List Char := cs.foldr placeMark []

/-- Canonical decomposition of a text. -/
def decomposed (cs : List Char) : List Char := canonicalOrder (cs.flatMap decompose)

/-- A decomposed text without its marks. -/
def withoutMarks (cs : List Char) : List Char := (decomposed cs).filter (!isMark ·)

/-- A text without marks and without white space at its ends. -/
def normalize (text : String) : String := String.ofList (trim (withoutMarks text.toList))

end StatusFrames.Text
