/-
Canonical decomposition of one character.
-/
import StatusFrames.Text.Decomposition.Table

namespace StatusFrames.Text

/-- The leading consonant, vowel and trailing consonant of the Hangul syllable with this index. -/
def decomposeSyllable (index : Nat) : List Char :=
  let lead := Char.ofNat (0x1100 + index / 588)
  let vowel := Char.ofNat (0x1161 + index % 588 / 28)
  if index % 28 = 0 then [lead, vowel] else [lead, vowel, Char.ofNat (0x11A7 + index % 28)]

/-- The full canonical decomposition; a character without one stands for itself, as all below U+00C0 do. -/
def decompose (c : Char) : List Char :=
  let code := c.toNat
  if code < 0xC0 then [c]
  else if 0xAC00 ≤ code ∧ code ≤ 0xD7A3 then decomposeSyllable (code - 0xAC00)
  else
    match (Decomposition.pages.lookup (code / 256)).bind (·.lookup code) with
    | some parts => parts.map Char.ofNat
    | none => [c]

end StatusFrames.Text
