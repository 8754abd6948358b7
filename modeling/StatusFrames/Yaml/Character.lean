/-
Character classes of the document syntax, and what happens to a text before it is read: it is cut off where it holds
characters that no document may hold, and every line break but the two Unicode separators becomes a line feed.
-/
namespace StatusFrames.Yaml

def isBlank (c : Char) : Bool := c == ' ' || c == '\t'

/-- A line break of a text whose breaks are line feeds or Unicode separators. -/
def isBreak (c : Char) : Bool := c == '\n' || c == '\u2028' || c == '\u2029'

/-- End of text, a blank or a line break. -/
def endsWord : Option Char → Bool
  | none => true
  | some c => isBlank c || isBreak c

def endsLine : Option Char → Bool
  | none => true
  | some c => isBreak c

/-- Characters of anchors and tag handles. -/
def isWordChar (c : Char) : Bool := c.isAlphanum || c == '-' || c == '_'

/-- Whether the character may occur in a document at all. -/
def isReadable (c : Char) : Bool :=
  let code := c.toNat
  code == 0x09 || code == 0x0A || code == 0x0D || (0x20 ≤ code && code ≤ 0x7E) || code == 0x85 ||
    (0xA0 ≤ code && code ≤ 0xD7FF) || (0xE000 ≤ code && code ≤ 0xFFFD) || 0x10000 ≤ code

def byteOrderMark : Char := '\ufeff'

/-- Writes every line break as a line feed; the Unicode separators stay. -/
def unifyBreaks : List Char → List Char
  | [] => []
  | '\r' :: '\n' :: rest => '\n' :: unifyBreaks rest
  | c :: rest => (if c == '\r' || c == '\u0085' then '\n' else c) :: unifyBreaks rest

/-- A text is looked at in windows of this many octets, which hold whole characters only. -/
def windowSize : Nat := 16384

/-- The longest start of a text with at most `room` octets, and the rest. -/
def spanOctets (room : Nat) : List Char → List Char × List Char
  | [] => ([], [])
  | c :: rest =>
    if c.utf8Size ≤ room then
      let (start, rest) := spanOctets (room - c.utf8Size) rest
      (c :: start, rest)
    else ([], c :: rest)

/-- The windows of a text before the first one with a character that no document may hold, and whether they are the
whole text. -/
def readableWindows : Nat → List Char → List Char × Bool
  | 0, _ | _, [] => ([], true)
  | fuel + 1, cs =>
    let (window, rest) := spanOctets windowSize cs
    if window.all isReadable then
      let (more, whole) := readableWindows fuel rest
      (window ++ more, whole)
    else ([], false)

/-- The part of a text that can be read, and whether that is the whole text. -/
def readablePart (text : String) : List Char × Bool :=
  let cs := text.toList
  let (start, whole) := readableWindows cs.length cs
  (unifyBreaks start, whole)

end StatusFrames.Yaml
