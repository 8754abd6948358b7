/-
Tokens of the document syntax.
-/
namespace StatusFrames.Yaml

/-- How a scalar was written. -/
inductive Style
  | plain
  | singleQuoted
  | doubleQuoted
  | literal
  | folded
deriving DecidableEq, Repr

inductive Token
  | streamEnd
  | version
  /-- A handle and the octets that it stands for. -/
  | tagDirective (handle : String) (meaning : List UInt8)
  | documentStart
  | documentEnd
  | blockSequence
  | blockMapping
  | blockEnd
  | openBracket
  | closeBracket
  | openBrace
  | closeBrace
  | comma
  | dash
  | key
  | value
  | alias (name : String)
  | anchor (name : String)
  /-- A handle, which may be empty, and the octets behind it. -/
  | tag (handle : String) (suffix : List UInt8)
  | scalar (text : String) (style : Style)
deriving DecidableEq, Repr

end StatusFrames.Yaml
