/-
Constants as templates write them: numbers in several bases and texts with escapes.
-/
import StatusFrames.Decimal.Reading

namespace StatusFrames.Template

/-- A number without a sign. -/
inductive Number
  | int (n : Nat)
  | float (x : Float)
deriving Repr

/-- How much of a numeral has been read. -/
inductive NumeralStage
  | whole
  /-- Behind a base marker. -/
  | based
  | fraction
  /-- Behind the letter of an exponent. -/
  | exponent
  | power
deriving DecidableEq, Repr

/-- The stage behind one more character, if the numeral goes on with it. -/
def NumeralStage.next? (base : Nat) : NumeralStage → Char → Option NumeralStage
  | stage, '_' => some stage
  | .based, c => if c.isDigit || (Decimal.digitValue? base c).isSome then some .based else none
  | .whole, '.' => some .fraction
  | .whole, 'e' | .whole, 'E' | .fraction, 'e' | .fraction, 'E' => some .exponent
  | .exponent, '+' | .exponent, '-' => some .power
  | stage, c => if c.isDigit then some (if stage = .exponent then .power else stage) else none

/-- The characters of a numeral from a stage on, the last stage, and what stands behind them. -/
def spanNumeral (base : Nat) (stage : NumeralStage) : List Char → List Char × NumeralStage × List Char
  | [] => ([], stage, [])
  | c :: rest =>
    match stage.next? base c with
    | none => ([], stage, c :: rest)
    | some stage =>
      let (numeral, found) := spanNumeral base stage rest
      (c :: numeral, found)

/-- The base that a marker stands for. -/
def markedBase? : List Char → Option Nat
  | '0' :: 'b' :: _ | '0' :: 'B' :: _ => some 2
  | '0' :: 'o' :: _ | '0' :: 'O' :: _ => some 8
  | '0' :: 'x' :: _ | '0' :: 'X' :: _ => some 16
  | _ => none

/-- The number at the start of a text and what stands behind it. Underscores may divide the digits, but none may end
the number; an integer has at most 128 bits. -/
def number? (cs : List Char) : Option (Number × List Char) :=
  let base := (markedBase? cs).getD 10
  let marked := (markedBase? cs).isSome
  let (numeral, stage, rest) :=
    spanNumeral base (if marked then .based else .whole) (if marked then cs.drop 2 else cs)
  let digits := numeral.filter (· ≠ '_')
  if numeral.getLast? = some '_' then none
  else if stage = .whole ∨ stage = .based then
    ((Decimal.natural? base digits).filter (· < 0x100000000000000000000000000000000)).map (.int ·, rest)
  else (Decimal.unsigned? digits).map (.float ·, rest)

/-- What the next character of a text constant belongs to. -/
inductive EscapeStage
  | plain
  | backslash
  /-- Hexadecimal digits, last first, until there are `width` of them. -/
  | hex (width : Nat) (digits : List Char)
  /-- One to three octal digits, last first. -/
  | octal (digits : List Char)
deriving DecidableEq, Repr

/-- A text constant that is being read. -/
structure Unescaping where
  /-- The characters so far, last first. -/
  text : List Char := []
  /-- The first half of a surrogate pair, which the second half must follow. -/
  half : Option Nat := none
  stage : EscapeStage := .plain

namespace Unescaping

def push? (u : Unescaping) (c : Char) : Option Unescaping :=
  if u.half.isSome then none else some { u with text := c :: u.text, stage := .plain }

/-- Takes a code unit of sixteen bits. -/
def pushUnit? (u : Unescaping) (unit : Nat) : Option Unescaping :=
  if unit < 0xD800 ∨ 0xE000 ≤ unit then u.push? (Char.ofNat unit)
  else
    match u.half with
    | none => some { u with half := some unit, stage := .plain }
    | some high =>
      if high < 0xDC00 ∧ 0xDC00 ≤ unit then
        { u with half := none }.push? (Char.ofNat (0x10000 + (high - 0xD800) * 0x400 + (unit - 0xDC00)))
      else none

/-- The value of escaped digits; hexadecimal ones may start with a plus sign. -/
def hexValue? : List Char → Option Nat
  | '+' :: digits => Decimal.natural? 16 digits
  | digits => Decimal.natural? 16 digits

/-- Ends an octal escape. -/
def closeOctal? (u : Unescaping) (digits : List Char) : Option Unescaping :=
  match Decimal.natural? 8 digits.reverse with
  | some code => if code < 256 then u.push? (Char.ofNat code) else none
  | none => none

/-- Takes the character behind a backslash. A backslash that escapes nothing stands for itself. -/
def escape? (u : Unescaping) (c : Char) : Option Unescaping :=
  match c with
  | '"' | '\\' | '/' | '\'' => u.push? c
  | 'b' => u.push? '\x08'
  | 'f' => u.push? '\x0c'
  | 'n' => u.push? '\n'
  | 'r' => u.push? '\r'
  | 't' => u.push? '\t'
  | 'u' => some { u with stage := .hex 4 [] }
  | 'x' => some { u with stage := .hex 2 [] }
  | c =>
    if (Decimal.digitValue? 8 c).isSome then some { u with stage := .octal [c] }
    else (u.push? '\\').bind (·.push? c)

def plain? (u : Unescaping) (c : Char) : Option Unescaping :=
  if c = '\\' then some { u with stage := .backslash } else u.push? c

def next? (u : Unescaping) (c : Char) : Option Unescaping :=
  match u.stage with
  | .plain => u.plain? c
  | .backslash => u.escape? c
  | .hex width digits =>
    if digits.length + 1 < width then some { u with stage := .hex width (c :: digits) }
    else (hexValue? (c :: digits).reverse).bind u.pushUnit?
  | .octal digits =>
    if digits.length < 3 ∧ (Decimal.digitValue? 8 c).isSome then some { u with stage := .octal (c :: digits) }
    else (u.closeOctal? digits).bind (·.plain? c)

/-- The text, unless it ends in the middle of an escape or of a surrogate pair. -/
def finish? (u : Unescaping) : Option (List Char) :=
  let ended :=
    match u.stage with
    | .plain => some u
    | .octal digits => u.closeOctal? digits
    | _ => none
  (ended.filter (·.half.isNone)).map (·.text.reverse)

end Unescaping

/-- What the characters between the quotes of a text constant stand for. -/
def unescape? (cs : List Char) : Option (List Char) :=
  (cs.foldlM Unescaping.next? {}).bind Unescaping.finish?

/-- The characters up to the closing quote, and what stands behind it. -/
def spanQuoted? (quote : Char) : List Char → Option (List Char × List Char)
  | [] => none
  | '\\' :: c :: rest => (spanQuoted? quote rest).map fun (text, rest) => ('\\' :: c :: text, rest)
  | c :: rest =>
    if c = quote then some ([], rest)
    else (spanQuoted? quote rest).map fun (text, rest) => (c :: text, rest)

/-- A text constant behind its opening quote, and what stands behind it. -/
def textConstant? (quote : Char) (cs : List Char) : Option (List Char × List Char) :=
  match spanQuoted? quote cs with
  | none => none
  | some (inside, rest) => (unescape? inside).map (·, rest)

end StatusFrames.Template
