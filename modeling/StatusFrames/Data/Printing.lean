/-
Data as indented JSON: two spaces per level, one member per line, members in the order given.
-/
import StatusFrames.Data
import StatusFrames.Decimal.Style

namespace StatusFrames.Data

def hexDigits (n : Nat) : List Char :=
  let digits := Nat.toDigits 16 n
  List.replicate (4 - digits.length) '0' ++ digits

def escapeChar (c : Char) : List Char :=
  match c with
  | '"' => ['\\', '"']
  | '\\' => ['\\', '\\']
  | '\x08' => ['\\', 'b']
  | '\x0c' => ['\\', 'f']
  | '\n' => ['\\', 'n']
  | '\r' => ['\\', 'r']
  | '\t' => ['\\', 't']
  | c => if c.toNat < 0x20 then ['\\', 'u'] ++ hexDigits c.toNat else [c]

def quote (s : String) : String := String.ofList ('"' :: s.toList.flatMap escapeChar ++ ['"'])

def indentation (level : Nat) : String := String.ofList (List.replicate (2 * level) ' ')

/-- The members of a collection, one per line, between its brackets. -/
def enclose (opening closing : String) (level : Nat) (members : List String) : String :=
  if members.isEmpty then opening ++ closing
  else
    opening ++ "\n" ++ ",\n".intercalate (members.map (indentation (level + 1) ++ ·)) ++ "\n" ++ indentation level ++
      closing

mutual

def printAt (level : Nat) : Data → String
  | .null => "null"
  | .bool b => if b then "true" else "false"
  | .int n => toString n
  | .float x => if x.isFinite then Decimal.Style.printed.write x else "null"
  | .text s => quote s
  | .list items => enclose "[" "]" level (printItems (level + 1) items)
  | .record fields => enclose "\x7b" "\x7d" level (printFields (level + 1) fields)

def printItems (level : Nat) : List Data → List String
  | [] => []
  | item :: rest => printAt level item :: printItems level rest

def printFields (level : Nat) : List (String × Data) → List String
  | [] => []
  | (name, value) :: rest => (quote name ++ ": " ++ printAt level value) :: printFields level rest

end

def print (d : Data) : String := printAt 0 d

end StatusFrames.Data
