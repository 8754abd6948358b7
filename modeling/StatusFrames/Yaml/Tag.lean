/-
What a tag says about a node: a type of the core schema, a word of the document's own, or nothing that is known here.
-/
import StatusFrames.Yaml.Token

namespace StatusFrames.Yaml

inductive Tag
  /-- A type of the core schema. -/
  | core (name : String)
  /-- A word of the document's own; nothing where its octets spell no text. -/
  | own (word : Option String)
  | foreign
deriving DecidableEq, Repr

namespace Tag

/-- What the tags of the core schema start with. -/
def coreStart : List UInt8 := "tag:yaml.org,2002:".toUTF8.toList

/-- The text that octets spell in UTF-8, if they do. -/
def spelled? (octets : List UInt8) : Option String := String.fromUTF8? ⟨octets.toArray⟩

/-- The tag that octets stand for. A lone exclamation mark is a word by itself. -/
def ofOctets (octets : List UInt8) : Tag :=
  match octets with
  | [] => .foreign
  | first :: rest =>
    if first = '!'.toNat.toUInt8 then .own (spelled? (if rest.isEmpty then octets else rest))
    else if coreStart.isPrefixOf octets then
      match spelled? (octets.drop coreStart.length) with
      | some name => .core name
      | none => .foreign
    else .foreign

/-- The word of the document's own that a tag is. -/
def word? : Option Tag → Option String
  | some (.own word) => word
  | _ => none

end Tag

end StatusFrames.Yaml
