/-
Upper and lower case of texts. A character may have several in the other case, and the lower case of a sigma depends on
whether it ends a word.
-/
import StatusFrames.Text.Casing.Context
import StatusFrames.Text.Casing.Table

namespace StatusFrames.Text

/-- The image of a code point under a table of runs. -/
def imageInRuns? (runs : List (Nat × Nat × Nat × Nat)) (code : Nat) : Option Nat :=
  runs.findSome? fun (first, last, stride, image) =>
    if first ≤ code ∧ code ≤ last ∧ (code - first) % stride = 0 then some (image + (code - first)) else none

/-- A character in the other case. -/
def recase (runs : List (Nat × Nat × Nat × Nat)) (expansions : List (Nat × List Nat)) (c : Char) : List Char :=
  match expansions.lookup c.toNat with
  | some codes => codes.map Char.ofNat
  | none => [((imageInRuns? runs c.toNat).map Char.ofNat).getD c]

def upperChar (c : Char) : List Char :=
  if c.toNat < 0x80 then [c.toUpper] else recase upperRuns upperExpansions c

/-- A character in lower case, wherever it stands. -/
def lowerChar (c : Char) : List Char :=
  if c.toNat < 0x80 then [c.toLower] else recase lowerRuns lowerExpansions c

def uppercase (cs : List Char) : List Char := cs.flatMap upperChar

/-- Whether the first character that is not passed over has case. -/
def meetsCased (cs : List Char) : Bool := (cs.dropWhile isCaseIgnorable).head?.any isCased

/-- The lower case of a sigma between two texts, of which the first is given backwards: it has a form of its own at the
end of a word. -/
def lowerSigma (before after : List Char) : Char :=
  if meetsCased before && !meetsCased after then '\u03c2' else '\u03c3'

/-- The lower case of a text behind another, which is given backwards. -/
def lowercaseAfter (before : List Char) : List Char → List Char
  | [] => []
  | c :: rest =>
    (if c = '\u03a3' then [lowerSigma before rest] else lowerChar c) ++ lowercaseAfter (c :: before) rest

def lowercase (cs : List Char) : List Char := lowercaseAfter [] cs

end StatusFrames.Text
