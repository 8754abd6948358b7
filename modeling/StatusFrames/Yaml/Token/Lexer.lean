/-
Splitting a document text into tokens. Block structure is found from indentation, and a mapping key is only recognised
when its colon is reached, so tokens wait in a queue while a key in front of them is still possible. Where the text is
malformed the tokens that were already settled stand, and what still waited is lost.
-/
import StatusFrames.Yaml.Token.Scalar
import StatusFrames.Yaml.Token.Property

namespace StatusFrames.Yaml

/-- A place where a mapping key may have started. -/
structure KeyStart where
  /-- Number of the token that would be the key. -/
  token : Nat
  index : Nat
  line : Nat
  column : Nat
  /-- A key is required where a block mapping's next key is due. -/
  required : Bool

structure Lexer where
  cursor : Cursor
  /-- Whether the text ends with the last character. If not, no token may reach up to there. -/
  whole : Bool := true
  /-- One possible key per open flow collection, innermost first, and one for the block context. -/
  keys : List (Option KeyStart) := [none]
  keyAllowed : Bool := true
  /-- Columns of the open blocks, innermost first. -/
  indents : List Nat := []
  /-- Tokens that wait, in order. -/
  waiting : List Token := []
  /-- Number of tokens handed out. -/
  settled : Nat := 0

namespace Lexer

def inFlow (s : Lexer) : Bool := s.keys.length > 1

/-- Column of the innermost block, -1 outside all blocks. -/
def indent (s : Lexer) : Int :=
  match s.indents with
  | [] => -1
  | column :: _ => column

def peek? (s : Lexer) : Option Char := s.cursor.peek?

def push (s : Lexer) (token : Token) : Lexer := { s with waiting := s.waiting ++ [token] }

/-- Number that the next pushed token gets. -/
def nextNumber (s : Lexer) : Nat := s.settled + s.waiting.length

/-- Puts a token in front of the token with the given number. -/
def insert (s : Lexer) (number : Nat) (token : Token) : Lexer :=
  let place := number - s.settled
  { s with waiting := s.waiting.take place ++ token :: s.waiting.drop place }

/-- A key must end on its own line and within 1024 octets. -/
def isStale (s : Lexer) (key : KeyStart) : Bool :=
  key.line < s.cursor.line || key.index + 1024 < s.cursor.index

/-- Gives up the keys that can no longer end in time. -/
def dropStale? (s : Lexer) : Option Lexer :=
  if s.keys.any (·.any fun key => s.isStale key && key.required) then none
  else some { s with keys := s.keys.map (·.filter (!s.isStale ·)) }

/-- Gives up the innermost possible key, unless it is required. -/
def dropKey? (s : Lexer) : Option Lexer :=
  match s.keys with
  | some key :: outer => if key.required then none else some { s with keys := none :: outer }
  | _ => some s

/-- Notes that a key may start with the next token. -/
def noteKey? (s : Lexer) : Option Lexer :=
  if !s.keyAllowed then some s
  else
    let c := s.cursor
    let key : KeyStart :=
      ⟨s.nextNumber, c.index, c.line, c.column, !s.inFlow && s.indent == (c.column : Int)⟩
    s.dropKey?.map fun s => { s with keys := some key :: s.keys.drop 1 }

/-- Opens a block at `column` if it lies to the right of the innermost one. The token goes to the end, or in front of
the token with the given number. -/
def openBlock (s : Lexer) (column : Nat) (token : Token) (number : Option Nat) : Lexer :=
  if s.inFlow || (column : Int) ≤ s.indent then s
  else
    let s := { s with indents := column :: s.indents }
    match number with
    | none => s.push token
    | some number => s.insert number token

/-- Closes the blocks to the right of `column`. -/
def closeBlocks (s : Lexer) (column : Int) : Lexer :=
  if s.inFlow then s
  else
    let closed := s.indents.takeWhile fun (indent : Nat) => column < (indent : Int)
    { s with
      indents := s.indents.drop closed.length
      waiting := s.waiting ++ closed.map fun _ => Token.blockEnd }

/-- Steps over white space, comments and line breaks, and over one byte order mark at the start of each line. After a
line break a key may start, except in a flow collection; tabs count as white space only where no key may start. -/
def skipSpace : Nat → Lexer → Lexer
  | 0, s => s
  | fuel + 1, s =>
    let c := s.cursor
    let c := if c.column == 0 && c.peek? == some byteOrderMark then c.next else c
    let tabs := s.inFlow || !s.keyAllowed
    let c := c.skipWhile fun ch => ch == ' ' || (tabs && ch == '\t')
    let c := if c.peek? == some '#' then c.skipWhile (!isBreak ·) else c
    if c.peek?.any isBreak then
      skipSpace fuel { s with cursor := c.next, keyAllowed := s.keyAllowed || !s.inFlow }
    else { s with cursor := c }

/-- Pushes a token that takes `count` characters. -/
def take (s : Lexer) (count : Nat) (token : Token) : Lexer :=
  { s with cursor := s.cursor.skip count }.push token

/-- Pushes a token and moves the cursor behind it. -/
def accept (s : Lexer) (token : Token) (cursor : Cursor) : Lexer :=
  { s with cursor := cursor }.push token

/-- The end of the text counts as the end of its last line. -/
def streamEnd? (s : Lexer) : Option Lexer :=
  let c := s.cursor
  let s := { s with cursor := ⟨c.rest, c.index, c.line + min c.column 1, 0⟩ }
  (s.closeBlocks (-1)).dropKey?.map fun s => { s with keyAllowed := false }.push .streamEnd

def directive? (s : Lexer) : Option Lexer := do
  let s ← (s.closeBlocks (-1)).dropKey?
  let (token, c) ← Directive.read? s.cursor
  some ({ s with keyAllowed := false }.accept token c)

def marker? (s : Lexer) (token : Token) : Option Lexer :=
  (s.closeBlocks (-1)).dropKey?.map fun s => { s with keyAllowed := false }.take 3 token

def openFlow? (s : Lexer) (token : Token) : Option Lexer :=
  s.noteKey?.map fun s => { s with keys := none :: s.keys, keyAllowed := true }.take 1 token

def closeFlow? (s : Lexer) (token : Token) : Option Lexer :=
  s.dropKey?.map fun s =>
    { s with keys := if s.inFlow then s.keys.drop 1 else s.keys, keyAllowed := false }.take 1 token

def comma? (s : Lexer) : Option Lexer :=
  s.dropKey?.map fun s => { s with keyAllowed := true }.take 1 .comma

def dash? (s : Lexer) : Option Lexer :=
  if !s.inFlow && !s.keyAllowed then none
  else
    let s := s.openBlock s.cursor.column .blockSequence none
    s.dropKey?.map fun s => { s with keyAllowed := true }.take 1 .dash

def explicitKey? (s : Lexer) : Option Lexer :=
  if !s.inFlow && !s.keyAllowed then none
  else
    let s := s.openBlock s.cursor.column .blockMapping none
    s.dropKey?.map fun s => { s with keyAllowed := !s.inFlow }.take 1 .key

/-- The colon of a mapping entry, which turns a possible key into one. -/
def colon? (s : Lexer) : Option Lexer :=
  match s.keys with
  | some key :: outer =>
    let s := s.insert key.token .key
    let s := s.openBlock key.column .blockMapping (some key.token)
    some ({ s with keys := none :: outer, keyAllowed := false }.take 1 .value)
  | _ =>
    if !s.inFlow && !s.keyAllowed then none
    else
      let s := s.openBlock s.cursor.column .blockMapping none
      some ({ s with keyAllowed := !s.inFlow }.take 1 .value)

/-- An anchor or alias. -/
def named? (s : Lexer) (token : String → Token) : Option Lexer := do
  let s ← s.noteKey?
  let (name, c) ← Anchor.name? s.cursor
  some ({ s with keyAllowed := false }.accept (token name) c)

def tag? (s : Lexer) : Option Lexer := do
  let s ← s.noteKey?
  let (token, c) ← Tag.read? s.inFlow s.cursor
  some ({ s with keyAllowed := false }.accept token c)

def blockScalar? (s : Lexer) (folded : Bool) : Option Lexer := do
  let s ← s.dropKey?
  let (text, c) ← Block.read? folded s.indent s.cursor
  let style := if folded then Style.folded else Style.literal
  some ({ s with keyAllowed := true }.accept (.scalar (String.ofList text) style) c)

def quoted? (s : Lexer) (single : Bool) : Option Lexer := do
  let s ← s.noteKey?
  let (text, c) ← Quoted.read? single s.cursor
  let style := if single then Style.singleQuoted else Style.doubleQuoted
  some ({ s with keyAllowed := false }.accept (.scalar (String.ofList text) style) c)

def plain? (s : Lexer) : Option Lexer := do
  let s ← s.noteKey?
  let (text, newLine, c) ← Plain.read? s.inFlow (s.indent + 1) s.cursor
  some ({ s with keyAllowed := newLine }.accept (.scalar (String.ofList text) .plain) c)

/-- Whether a plain scalar may start with `c`, given the character after it. -/
def startsPlain (flow : Bool) (c : Char) (next : Option Char) : Bool :=
  !isGap c &&
      c ∉ ['-', '?', ':', ',', '[', ']', '\x7b', '\x7d', '#', '&', '*', '!', '|', '>', '\'', '"', '%', '@', '\x60'] ||
    (c == '-' && !next.any isBlank) ||
    (!flow && (c == '?' || c == ':') && !endsWord next)

/-- Reads the token at the cursor. -/
def readToken? (s : Lexer) (c : Char) : Option Lexer :=
  let next := s.cursor.ahead? 1
  if s.cursor.column == 0 && c == '%' then s.directive?
  else if s.cursor.atMarker then s.marker? (if c == '-' then .documentStart else .documentEnd)
  else if c == '[' then s.openFlow? .openBracket
  else if c == '\x7b' then s.openFlow? .openBrace
  else if c == ']' then s.closeFlow? .closeBracket
  else if c == '\x7d' then s.closeFlow? .closeBrace
  else if c == ',' then s.comma?
  else if c == '-' && endsWord next then s.dash?
  else if c == '?' && (s.inFlow || endsWord next) then s.explicitKey?
  else if c == ':' && (s.inFlow || endsWord next) then s.colon?
  else if c == '*' then s.named? .alias
  else if c == '&' then s.named? .anchor
  else if c == '!' then s.tag?
  else if c == '|' && !s.inFlow then s.blockScalar? false
  else if c == '>' && !s.inFlow then s.blockScalar? true
  else if c == '\'' then s.quoted? true
  else if c == '"' then s.quoted? false
  else if startsPlain s.inFlow c next then s.plain?
  else none

/-- Moves on by one token. -/
def fetch? (s : Lexer) : Option Lexer := do
  let s := skipSpace (s.cursor.rest.length + 1) s
  let s ← s.dropStale?
  let s := s.closeBlocks s.cursor.column
  match s.peek? with
  | none => if s.whole then s.streamEnd? else none
  | some c => (s.readToken? c).filter fun s => s.whole || !s.cursor.rest.isEmpty

/-- Whether the first waiting token may still turn out to be a key. -/
def headMayBeKey (s : Lexer) : Bool := s.keys.any (·.any (·.token == s.settled))

/-- Hands out the next token as soon as it is settled. -/
def next? : Nat → Lexer → Option (Token × Lexer)
  | 0, _ => none
  | fuel + 1, s =>
    match s.waiting with
    | [] => s.fetch?.bind (next? fuel)
    | token :: waiting =>
      match s.dropStale? with
      | none => none
      | some s =>
        if s.headMayBeKey then s.fetch?.bind (next? fuel)
        else some (token, { s with waiting := waiting, settled := s.settled + 1 })

/-- Hands out tokens until the text ends or is malformed. -/
def collect : Nat → Lexer → List Token → List Token
  | 0, _, tokens => tokens.reverse
  | fuel + 1, s, tokens =>
    match next? (s.cursor.rest.length + s.waiting.length + 4) s with
    | none => tokens.reverse
    | some (.streamEnd, _) => (Token.streamEnd :: tokens).reverse
    | some (token, s) => collect fuel s (token :: tokens)

end Lexer

/-- The tokens of a text, or of the part of it that can be read. The last is `streamEnd` exactly when the text is well
formed to its end. -/
def tokens (text : List Char) (whole : Bool) : List Token :=
  Lexer.collect (8 * text.length + 8) { cursor := { rest := text }, whole := whole } []

end StatusFrames.Yaml
