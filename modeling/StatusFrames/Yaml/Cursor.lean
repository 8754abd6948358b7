/-
A place in a document text. Lines and columns, counted in characters, decide block structure; the index, counted in
octets of UTF-8, limits the length of a key.
-/
import StatusFrames.Yaml.Character

namespace StatusFrames.Yaml

structure Cursor where
  rest : List Char
  index : Nat := 0
  line : Nat := 0
  column : Nat := 0

namespace Cursor

def peek? (c : Cursor) : Option Char := c.rest.head?

/-- The character `n` places ahead. -/
def ahead? (c : Cursor) (n : Nat) : Option Char := c.rest[n]?

/-- Steps over one character; a line break starts a new line. -/
def next (c : Cursor) : Cursor :=
  match c.rest with
  | [] => c
  | ch :: rest =>
    let index := c.index + ch.utf8Size
    if isBreak ch then ⟨rest, index, c.line + 1, 0⟩ else ⟨rest, index, c.line, c.column + 1⟩

/-- Steps over `n` characters. -/
def skip (c : Cursor) : Nat → Cursor
  | 0 => c
  | n + 1 => c.next.skip n

/-- The characters up to the first that fails the test. -/
def upTo (p : Char → Bool) (c : Cursor) : List Char := c.rest.takeWhile p

/-- Steps over the characters that pass the test. -/
def skipWhile (p : Char → Bool) (c : Cursor) : Cursor := c.skip (c.upTo p).length

def skipBlanks (c : Cursor) : Cursor := c.skipWhile isBlank

/-- Steps over blanks and a comment; what follows must be the end of the line, which is stepped over too. -/
def finishLine? (c : Cursor) : Option Cursor :=
  let c := c.skipBlanks
  let c := if c.peek? = some '#' then c.skipWhile (!isBreak ·) else c
  if endsLine c.peek? then some c.next else none

/-- Whether a document marker, `---` or `...`, stands here at the start of a line. -/
def atMarker (c : Cursor) : Bool :=
  c.column == 0 &&
    match c.rest with
    | '-' :: '-' :: '-' :: rest => endsWord rest.head?
    | '.' :: '.' :: '.' :: rest => endsWord rest.head?
    | _ => false

end Cursor

end StatusFrames.Yaml
