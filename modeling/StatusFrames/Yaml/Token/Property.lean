/-
Anchors, tags and directives. As with scalars, a reader gives nothing when what stands at the cursor is malformed.
-/
import StatusFrames.Yaml.Cursor
import StatusFrames.Yaml.Token
import StatusFrames.Decimal.Reading

namespace StatusFrames.Yaml

namespace Anchor

/-- What may follow the name of an anchor or alias. -/
def endsName (next : Option Char) : Bool :=
  endsWord next || next.any fun c => c ∈ ['?', ':', ',', ']', '\x7d', '%', '@', '\x60']

/-- The name behind `&` or `*`. -/
def name? (c : Cursor) : Option (String × Cursor) :=
  let c := c.next
  let name := c.upTo isWordChar
  let c := c.skip name.length
  if name.isEmpty || !endsName c.peek? then none else some (String.ofList name, c)

end Anchor

namespace Tag

def isUriChar (verbatim : Bool) (c : Char) : Bool :=
  isWordChar c || c ∈ [';', '/', '?', ':', '@', '&', '=', '+', '$', '.', '%', '!', '~', '*', '\'', '(', ')'] ||
    (verbatim && c ∈ [',', '[', ']'])

/-- One octet written as a percent sign and two hexadecimal digits. -/
def octet? : List Char → Option UInt8
  | '%' :: a :: b :: _ => (Decimal.natural? 16 [a, b]).map Nat.toUInt8
  | _ => none

/-- A number of continuation octets. -/
def continuation? : Nat → List Char → Option (List UInt8)
  | 0, _ => some []
  | count + 1, rest =>
    match octet? rest with
    | some octet => if octet / 64 = 2 then (continuation? count (rest.drop 3)).map (octet :: ·) else none
    | none => none

/-- The octets of one escaped character. Their shape is checked, but not that they spell a character. -/
def escaped? (rest : List Char) : Option (List UInt8) :=
  match octet? rest with
  | none => none
  | some octet =>
    let count? : Option Nat :=
      if octet < 0x80 then some 0
      else if octet / 32 = 6 then some 1
      else if octet / 16 = 14 then some 2
      else if octet / 8 = 30 then some 3
      else none
    count?.bind fun count => (continuation? count (rest.drop 3)).map (octet :: ·)

/-- The octets of a tag, with its escapes replaced. -/
def uri? (verbatim : Bool) : Nat → List UInt8 → Cursor → Option (List UInt8 × Cursor)
  | 0, _, _ => none
  | fuel + 1, octets, c =>
    match c.peek? with
    | none => some (octets, c)
    | some ch =>
      if !isUriChar verbatim ch then some (octets, c)
      else if ch == '%' then
        match escaped? c.rest with
        | none => none
        | some more => uri? verbatim fuel (octets ++ more) (c.skip (3 * more.length))
      else uri? verbatim fuel (octets ++ [ch.toNat.toUInt8]) c.next

def readUri? (verbatim : Bool) (c : Cursor) : Option (List UInt8 × Cursor) :=
  uri? verbatim (c.rest.length + 1) [] c

/-- A tag ends at the first NUL. -/
def upToNul (octets : List UInt8) : List UInt8 := octets.takeWhile (· ≠ 0)

def asciiOctets (cs : List Char) : List UInt8 := cs.map fun c => c.toNat.toUInt8

/-- A handle: an exclamation mark, a word, and a second mark if there is one. -/
def handle (c : Cursor) : List Char × Cursor :=
  let word := c.next.upTo isWordChar
  let behind := c.next.skip word.length
  if behind.peek? = some '!' then ('!' :: word ++ ['!'], behind.next) else ('!' :: word, behind)

/-- A tag as handle and suffix. A lone exclamation mark has the empty handle, and so has a tag in angle brackets. -/
def parts? (c : Cursor) : Option (List Char × List UInt8 × Cursor) :=
  if c.ahead? 1 = some '<' then
    match readUri? true (c.skip 2) with
    | none => none
    | some (suffix, c) =>
      if suffix.isEmpty || c.peek? ≠ some '>' then none else some ([], upToNul suffix, c.next)
  else
    let (handle, c) := handle c
    match readUri? false c with
    | none => none
    | some (octets, c) =>
      if handle.length > 1 && handle.getLast? = some '!' then
        if octets.isEmpty then none else some (handle, upToNul octets, c)
      else
        let suffix := upToNul (asciiOctets (handle.drop 1) ++ octets)
        if suffix.isEmpty then some ([], asciiOctets ['!'], c) else some (['!'], suffix, c)

/-- A tag, which ends with white space or, in a flow collection, with a comma. -/
def read? (flow : Bool) (c : Cursor) : Option (Token × Cursor) :=
  match parts? c with
  | none => none
  | some (handle, suffix, c) =>
    if endsWord c.peek? || (flow && c.peek? = some ',') then
      some (.tag (String.ofList handle) suffix, c)
    else none

end Tag

namespace Directive

/-- A version number has at most nine digits. -/
def number? (c : Cursor) : Option (Nat × Cursor) :=
  let digits := c.upTo Char.isDigit
  if digits.length > 9 then none else (Decimal.natural? 10 digits).map (·, c.skip digits.length)

/-- Versions 1.1 and 1.2 are known. -/
def version? (c : Cursor) : Option (Token × Cursor) := do
  let (major, c) ← number? c.skipBlanks
  if c.peek? ≠ some '.' then none
  let (minor, c) ← number? c.next
  if major = 1 ∧ (minor = 1 ∨ minor = 2) then some (.version, c) else none

def tagHandle? (c : Cursor) : Option (Token × Cursor) := do
  let c := c.skipBlanks
  if c.peek? ≠ some '!' then none
  let (handle, c) := Tag.handle c
  if handle.length > 1 && handle.getLast? ≠ some '!' then none
  if !c.peek?.any isBlank then none
  let (meaning, c) ← Tag.readUri? true c.skipBlanks
  if meaning.isEmpty || !endsWord c.peek? then none
  some (.tagDirective (String.ofList handle) (Tag.upToNul meaning), c)

/-- A directive line. -/
def read? (c : Cursor) : Option (Token × Cursor) := do
  let c := c.next
  let name := c.upTo isWordChar
  let c := c.skip name.length
  if !endsWord c.peek? then none
  let (token, c) ←
    match String.ofList name with
    | "YAML" => version? c
    | "TAG" => tagHandle? c
    | _ => none
  let c ← c.finishLine?
  some (token, c)

end Directive

end StatusFrames.Yaml
