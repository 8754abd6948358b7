/-
Texts shown in error messages: between double quotes, with everything that does not print escaped.
-/
import StatusFrames.Text.Unprintable

namespace StatusFrames.Text

def shownChar (c : Char) : List Char :=
  match c with
  | '\x00' => ['\\', '0']
  | '\t' => ['\\', 't']
  | '\r' => ['\\', 'r']
  | '\n' => ['\\', 'n']
  | '\\' => ['\\', '\\']
  | '"' => ['\\', '"']
  | c =>
    if isPrintable c then [c]
    else ['\\', 'u', '\x7b'] ++ Nat.toDigits 16 c.toNat ++ ['\x7d']

/-- A text as messages show it. -/
def shown (text : String) : String :=
  String.ofList ('"' :: text.toList.flatMap shownChar ++ ['"'])

end StatusFrames.Text
