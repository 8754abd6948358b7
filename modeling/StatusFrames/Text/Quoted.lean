/-
C string literals: a text between double quotes, with the five characters that cannot stand there escaped.
-/
namespace StatusFrames.Text

def escape : Char → List Char
  | '\\' => ['\\', '\\']
  | '"' => ['\\', '"']
  | '\n' => ['\\', 'n']
  | '\r' => ['\\', 'r']
  | '\t' => ['\\', 't']
  | c => [c]

/-- The C string literal whose value is `text`. -/
def quoted (text : String) : String :=
  String.ofList ('"' :: text.toList.flatMap escape ++ ['"'])

end StatusFrames.Text
