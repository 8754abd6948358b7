/-
Template texts cut into plain text, outputs and tags. A tag or comment that starts a line takes the blanks before it
away, and one line break behind it; a minus sign at either end of a tag takes all white space on that side, a plus sign
keeps it. Inside the brackets words stand between ASCII blanks.
-/
import StatusFrames.Template.Constant
import StatusFrames.Text.Blank

namespace StatusFrames.Template

/-- The words inside an output or a tag. -/
inductive Word
  | name (s : String)
  | text (s : String)
  | number (n : Number)
  /-- An operator or a bracket. -/
  | mark (s : String)
deriving Repr

inductive Piece
  | text (s : String)
  | output (words : List Word)
  | tag (words : List Word)
deriving Repr

/-- What stands between the brackets. -/
inductive Bracket
  | output
  | tag
  | comment
deriving DecidableEq, Repr

def Bracket.closing : Bracket → List Char
  | .output => ['\x7d', '\x7d']
  | .tag => ['%', '\x7d']
  | .comment => ['#', '\x7d']

/-- The kind of an opening bracket, by its second character. -/
def Bracket.ofChar? : Char → Option Bracket
  | '\x7b' => some .output
  | '%' => some .tag
  | '#' => some .comment
  | _ => none

def isLineBreak (c : Char) : Bool := c == '\n' || c == '\r'

/-- The text before the next opening bracket, and what stands behind that bracket. -/
def spanText : List Char → List Char × Option (Bracket × List Char)
  | [] => ([], none)
  | '\x7b' :: c :: rest =>
    match Bracket.ofChar? c with
    | some bracket => ([], some (bracket, rest))
    | none =>
      let (text, found) := spanText (c :: rest)
      ('\x7b' :: text, found)
  | c :: rest =>
    let (text, found) := spanText rest
    (c :: text, found)

def dropEndWhile (p : Char → Bool) (cs : List Char) : List Char := (cs.reverse.dropWhile p).reverse

/-- Whether only white space stands on the line at the end of the text; `fresh` says so for what comes before it. -/
def endsFresh (fresh : Bool) (text : List Char) : Bool :=
  let line := text.reverse.takeWhile (!isLineBreak ·)
  line.all Text.isBlank && (fresh || line.length < text.length)

/-- The text without the blanks at its end, if they start a line that a line feed opens. -/
def withoutIndent (text : List Char) : List Char :=
  let kept := dropEndWhile (fun c => Text.isBlank c && !isLineBreak c) text
  if kept.isEmpty || kept.getLast? = some '\n' then kept else text

/-- The text before a bracket, as the sign behind the bracket and the kind of the bracket leave it. -/
def textBefore (fresh : Bool) (bracket : Bracket) (sign : Option Char) (text : List Char) : List Char :=
  if sign = some '-' then dropEndWhile Text.isBlank text
  else if sign = some '+' || bracket = .output || !endsFresh fresh text then text
  else withoutIndent text

/-- The sign behind an opening bracket, if there is one, and the rest. -/
def openingSign : List Char → Option Char × List Char
  | '-' :: rest => (some '-', rest)
  | '+' :: rest => (some '+', rest)
  | rest => (none, rest)

/-- Drops one line break. -/
def dropLineBreak (cs : List Char) : List Char :=
  let cs := if cs.head? = some '\r' then cs.drop 1 else cs
  if cs.head? = some '\n' then cs.drop 1 else cs

/-- The text behind a closing bracket, as the sign before the bracket and its kind leave it. -/
def textAfter (bracket : Bracket) (sign : Option Char) (rest : List Char) : List Char :=
  if sign = some '-' then rest.dropWhile Text.isBlank
  else if sign = some '+' || bracket = .output then rest
  else dropLineBreak rest

/-- A closing bracket at the start of the text: its sign and what stands behind it. An output takes no plus sign. -/
def closing? (bracket : Bracket) (cs : List Char) : Option (Option Char × List Char) :=
  let (sign, rest) := openingSign cs
  let signed := sign.isSome && !(sign = some '+' && bracket = .output)
  if bracket.closing.isPrefixOf cs then some (none, cs.drop 2)
  else if signed && bracket.closing.isPrefixOf rest then some (sign, rest.drop 2)
  else none

/-- Finds the end of a comment. -/
def skipComment? : List Char → Option (Option Char × List Char)
  | [] => none
  | c :: rest =>
    match closing? .comment (c :: rest) with
    | some found => some found
    | none => skipComment? rest

def isNameStart (c : Char) : Bool := c.isAlpha || c == '_'

def isNameRest (c : Char) : Bool := c.isAlphanum || c == '_'

/-- White space between words. -/
def isWordGap (c : Char) : Bool := c ∈ [' ', '\t', '\n', '\r', '\x0c']

/-- A mark at the start of the text and what stands behind it. -/
def mark? : List Char → Option (String × List Char)
  | '=' :: '=' :: rest => some ("==", rest)
  | '!' :: '=' :: rest => some ("!=", rest)
  | c :: rest => if c ∈ ['.', ',', '~', '|', '=', '-', '(', ')'] then some (String.singleton c, rest) else none
  | [] => none

/-- The word at the start of a text that does not start with white space. -/
def word? (cs : List Char) : Option (Word × List Char) :=
  match cs with
  | [] => none
  | c :: rest =>
    if isNameStart c then
      some (.name (String.ofList (cs.takeWhile isNameRest)), cs.dropWhile isNameRest)
    else if c.isDigit then
      (number? cs).map fun (n, rest) => (.number n, rest)
    else if c = '"' || c = '\'' then
      (textConstant? c rest).map fun (text, rest) => (.text (String.ofList text), rest)
    else (mark? cs).map fun (mark, rest) => (.mark mark, rest)

/-- The words up to the closing bracket, the sign at that bracket, and what stands behind it. -/
def words? (bracket : Bracket) : Nat → List Char → Option (List Word × Option Char × List Char)
  | 0, _ => none
  | fuel + 1, cs =>
    let cs := cs.dropWhile isWordGap
    match closing? bracket cs with
    | some (sign, rest) => some ([], sign, rest)
    | none =>
      match word? cs with
      | none => none
      | some (word, rest) => (words? bracket fuel rest).map fun (words, found) => (word :: words, found)

/-- Puts a text in front of pieces, unless it is empty. -/
def consText (text : List Char) (pieces : List Piece) : List Piece :=
  if text.isEmpty then pieces else .text (String.ofList text) :: pieces

/-- Cuts a text into pieces; `fresh` tells that only white space stands before it on its line. -/
def piecesFrom : Nat → Bool → List Char → Option (List Piece)
  | 0, _, _ => none
  | fuel + 1, fresh, cs =>
    match spanText cs with
    | (text, none) => some (consText text [])
    | (text, some (bracket, rest)) =>
      let (sign, rest) := openingSign rest
      let before := textBefore fresh bracket sign text
      let inside? : Option (List Piece × Option Char × List Char) :=
        match bracket with
        | .comment => (skipComment? rest).map fun (sign, rest) => ([], sign, rest)
        | .output => (words? .output (rest.length + 1) rest).map fun (words, found) => ([.output words], found)
        | .tag => (words? .tag (rest.length + 1) rest).map fun (words, found) => ([.tag words], found)
      match inside? with
      | none => none
      | some (piece, sign, rest) =>
        let after := textAfter bracket sign rest
        let skipped := rest.take (rest.length - after.length)
        (piecesFrom fuel (skipped.any isLineBreak) after).map fun pieces => consText before (piece ++ pieces)

/-- The pieces of a template text, unless a bracket is not closed or holds something that is no word. -/
def pieces (text : String) : Option (List Piece) :=
  let cs := text.toList
  piecesFrom (cs.length + 1) true cs

end StatusFrames.Template
