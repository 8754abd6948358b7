/-
Scalars as they are written: plain, quoted and block scalars, with their rules for folding line breaks. Each reader
takes the cursor at the scalar's first character and gives the text with the cursor behind the scalar, or nothing when
the scalar is malformed.
-/
import StatusFrames.Yaml.Cursor
import StatusFrames.Decimal.Reading

namespace StatusFrames.Yaml

/-- Line breaks between two words: a single line feed becomes a space, and of several the first is dropped. A Unicode
separator in front keeps them all. -/
def foldBreaks : List Char → List Char
  | ['\n'] => [' ']
  | '\n' :: more => more
  | breaks => breaks

/-- White space inside a scalar. -/
def isGap (c : Char) : Bool := isBlank c || isBreak c

/-- What white space inside a scalar stands for: itself on one line, folded breaks otherwise. -/
def gapText (gap : List Char) : List Char :=
  if gap.any isBreak then foldBreaks (gap.filter isBreak) else gap

namespace Plain

def isFlowIndicator (c : Char) : Bool := c == ',' || c == '[' || c == ']' || c == '\x7b' || c == '\x7d'

/-- The word at the start of the text. In a flow collection a colon must not stand before another indicator. -/
def word? (flow : Bool) : List Char → Option (List Char)
  | [] => some []
  | c :: rest =>
    if isGap c then some []
    else if flow && c == ':' && rest.head?.any (fun d => isFlowIndicator d || d == '?') then none
    else if (c == ':' && endsWord rest.head?) || (flow && isFlowIndicator c) then some []
    else (word? flow rest).map (c :: ·)

/-- Whether a tab stands left of column `indent` on a line that starts inside the white space. -/
def tabInIndent (indent : Int) : Option Nat → List Char → Bool
  | _, [] => false
  | column?, c :: rest =>
    if isBreak c then tabInIndent indent (some 0) rest
    else
      match column? with
      | none => tabInIndent indent none rest
      | some column => (c == '\t' && (column : Int) < indent) || tabInIndent indent (some (column + 1)) rest

/-- A plain scalar so far: its text and the white space after it. -/
structure Draft where
  text : List Char := []
  gap : List Char := []

/-- Reads on from a word boundary. The answer also tells whether line breaks follow the scalar. -/
def readFrom? (flow : Bool) (indent : Int) : Nat → Draft → Cursor → Option (List Char × Bool × Cursor)
  | 0, _, _ => none
  | fuel + 1, draft, c =>
    if c.atMarker || c.peek? = some '#' then some (draft.text, draft.gap.any isBreak, c)
    else
      match word? flow c.rest with
      | none => none
      | some word =>
        let draft := if word.isEmpty then draft else { text := draft.text ++ gapText draft.gap ++ word }
        let c := c.skip word.length
        let gap := c.upTo isGap
        if gap.isEmpty then some (draft.text, draft.gap.any isBreak, c)
        else if tabInIndent indent none gap then none
        else
          let c := c.skip gap.length
          let draft := { draft with gap := gap }
          if !flow && (c.column : Int) < indent then some (draft.text, gap.any isBreak, c)
          else readFrom? flow indent fuel draft c

/-- A plain scalar whose further lines must reach column `indent`, unless it stands in a flow collection. -/
def read? (flow : Bool) (indent : Int) (c : Cursor) : Option (List Char × Bool × Cursor) :=
  readFrom? flow indent (c.rest.length + 1) {} c

end Plain

namespace Quoted

/-- The single-quoted text up to white space or the closing quote, and how many characters it takes. -/
def singleRun : List Char → List Char × Nat
  | [] => ([], 0)
  | '\'' :: '\'' :: rest =>
    let (text, count) := singleRun rest
    ('\'' :: text, count + 2)
  | c :: rest =>
    if c == '\'' || isGap c then ([], 0)
    else
      let (text, count) := singleRun rest
      (c :: text, count + 1)

/-- The character given by `count` hexadecimal digits at the start of the text. -/
def codePoint? (count : Nat) (rest : List Char) : Option Char :=
  let digits := rest.take count
  if digits.length < count then none
  else
    match Decimal.natural? 16 digits with
    | some code => if code.isValidChar then some (Char.ofNat code) else none
    | none => none

/-- The character that an escape stands for and the number of characters behind the backslash. -/
def escape? : List Char → Option (Char × Nat)
  | [] => none
  | c :: rest =>
    match c with
    | '0' => some ('\x00', 1)
    | 'a' => some ('\x07', 1)
    | 'b' => some ('\x08', 1)
    | 't' => some ('\t', 1)
    | '\t' => some ('\t', 1)
    | 'n' => some ('\n', 1)
    | 'v' => some ('\x0b', 1)
    | 'f' => some ('\x0c', 1)
    | 'r' => some ('\r', 1)
    | 'e' => some ('\x1b', 1)
    | ' ' => some (' ', 1)
    | '"' => some ('"', 1)
    | '/' => some ('/', 1)
    | '\\' => some ('\\', 1)
    | 'N' => some ('\u0085', 1)
    | '_' => some ('\u00a0', 1)
    | 'L' => some ('\u2028', 1)
    | 'P' => some ('\u2029', 1)
    | 'x' => (codePoint? 2 rest).map (·, 3)
    | 'u' => (codePoint? 4 rest).map (·, 5)
    | 'U' => (codePoint? 8 rest).map (·, 9)
    | _ => none

/-- A stretch of quoted text without white space. -/
structure Run where
  text : List Char
  /-- How many characters it takes. -/
  count : Nat
  /-- Whether it ends with an escaped line break. -/
  continued : Bool := false

def Run.push (run : Run) (c : Char) (count : Nat) : Run :=
  { run with text := c :: run.text, count := run.count + count }

/-- The double-quoted text up to white space, an escaped line break or the closing quote. -/
def doubleRun? : Nat → List Char → Option Run
  | 0, _ => none
  | _, [] => some ⟨[], 0, false⟩
  | fuel + 1, c :: rest =>
    if c == '"' || isGap c then some ⟨[], 0, false⟩
    else if c == '\\' then
      if rest.head?.any isBreak then some ⟨[], 2, true⟩
      else
        match escape? rest with
        | none => none
        | some (d, count) => (doubleRun? fuel (rest.drop count)).map (·.push d (count + 1))
    else (doubleRun? fuel rest).map (·.push c 1)

def run? (single : Bool) (rest : List Char) : Option Run :=
  if single then
    let (text, count) := singleRun rest
    some ⟨text, count, false⟩
  else doubleRun? (rest.length + 1) rest

/-- Reads on behind white space. A document marker or the end of the text must not stand inside the quotes. -/
def readFrom? (single : Bool) : Nat → List Char → Cursor → Option (List Char × Cursor)
  | 0, _, _ => none
  | fuel + 1, text, c =>
    if c.atMarker || c.rest.isEmpty then none
    else
      match run? single c.rest with
      | none => none
      | some run =>
        let text := text ++ run.text
        let c := c.skip run.count
        if c.peek? = some (if single then '\'' else '"') then some (text, c.next)
        else
          let gap := c.upTo isGap
          let joint := if run.continued then gap.filter isBreak else gapText gap
          readFrom? single fuel (text ++ joint) (c.skip gap.length)

/-- A quoted scalar with its quotes. -/
def read? (single : Bool) (c : Cursor) : Option (List Char × Cursor) :=
  readFrom? single (c.rest.length + 1) [] c.next

end Quoted

namespace Block

/-- What happens to the line breaks at the end of a block scalar. -/
inductive Chomp
  | strip
  | clip
  | keep

structure Header where
  chomp : Chomp := .clip
  /-- Indentation beyond the parent's, if it is given. -/
  indent : Option Nat := none

def chomp? (c : Cursor) : Option Chomp :=
  match c.peek? with
  | some '-' => some .strip
  | some '+' => some .keep
  | _ => none

def indent? (c : Cursor) : Option Nat :=
  c.peek?.bind fun d => if d.isDigit then some (d.toNat - '0'.toNat) else none

/-- The indicators behind `|` or `>`, in either order. An indentation of zero is refused. -/
def header? (c : Cursor) : Option (Header × Cursor) :=
  let (chomp, c) :=
    match chomp? c with
    | some chomp => (some chomp, c.next)
    | none => (none, c)
  let (indent, c) :=
    match indent? c with
    | some indent => (some indent, c.next)
    | none => (none, c)
  let (chomp, c) :=
    match chomp, indent, chomp? c with
    | none, some _, some chomp => (some chomp, c.next)
    | chomp, _, _ => (chomp, c)
  if indent = some 0 then none
  else (Cursor.finishLine? c).map ((⟨chomp.getD .clip, indent⟩ : Header), ·)

/-- Skips empty lines and the indentation of the next line. Gives the line breaks, the rightmost column reached, and
the cursor; without a known `indent` all leading spaces are indentation, and a tab among them is refused. -/
def skipEmpty? (indent : Option Nat) : Nat → List Char → Nat → Cursor → Option (List Char × Nat × Cursor)
  | 0, _, _, _ => none
  | fuel + 1, breaks, widest, c =>
    let spaces := (c.upTo (· == ' ')).length
    let c := c.skip (match indent with | none => spaces | some n => min spaces (n - c.column))
    let widest := max widest c.column
    let inside := match indent with | none => true | some n => c.column < n
    if inside && c.peek? = some '\t' then none
    else
      match c.peek? with
      | some b => if isBreak b then skipEmpty? indent fuel (breaks ++ [b]) widest c.next else some (breaks, widest, c)
      | none => some (breaks, widest, c)

/-- A block scalar so far. -/
structure Draft where
  text : List Char := []
  /-- The break at the end of the last line. -/
  ending : List Char := []
  /-- The breaks of the empty lines after it. -/
  empty : List Char := []
  /-- Whether the last line starts with a blank. -/
  indented : Bool := false

/-- The text between the last line and the next one. -/
def Draft.joint (draft : Draft) (folded nextIndented : Bool) : List Char :=
  if folded && draft.ending == ['\n'] && !draft.indented && !nextIndented then
    (if draft.empty.isEmpty then [' '] else []) ++ draft.empty
  else draft.ending ++ draft.empty

/-- Reads the lines that stand at column `indent`. -/
def lines? (folded : Bool) (indent : Nat) : Nat → Draft → Cursor → Option (Draft × Cursor)
  | 0, _, _ => none
  | fuel + 1, draft, c =>
    match c.peek? with
    | none => some (draft, c)
    | some first =>
      if c.column ≠ indent then some (draft, c)
      else
        let line := c.upTo (!isBreak ·)
        let joint := draft.joint folded (isBlank first)
        let c := c.skip line.length
        let ending := c.peek?.toList
        match skipEmpty? (some indent) (c.rest.length + 1) [] 0 c.next with
        | none => none
        | some (empty, _, c) =>
          lines? folded indent fuel ⟨draft.text ++ joint ++ line, ending, empty, isBlank first⟩ c

/-- A block scalar with its header, inside a block at indentation `parent`. -/
def read? (folded : Bool) (parent : Int) (c : Cursor) : Option (List Char × Cursor) :=
  match header? c.next with
  | none => none
  | some (header, c) =>
    let known := header.indent.map (parent.toNat + ·)
    match skipEmpty? known (c.rest.length + 1) [] 0 c with
    | none => none
    | some (empty, widest, c) =>
      let indent := known.getD (max (max widest (parent + 1).toNat) 1)
      match lines? folded indent (c.rest.length + 1) { empty := empty } c with
      | none => none
      | some (draft, c) =>
        let ending :=
          match header.chomp with
          | .strip => []
          | .clip => draft.ending
          | .keep => draft.ending ++ draft.empty
        some (draft.text ++ ending, c)

end Block

end StatusFrames.Yaml
