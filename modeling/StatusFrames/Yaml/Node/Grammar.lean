/-
From tokens to the tree of a document. The grammar needs one token of look-ahead; where the tokens run out or do not
fit, the tree is closed with `broken` nodes.
-/
import StatusFrames.Yaml.Node
import StatusFrames.Yaml.Token.Lexer

namespace StatusFrames.Yaml

/-- The place in a token list, with the tag handles and anchors in force. -/
structure Reading where
  tokens : List Token
  handles : List (String × List UInt8) := []
  /-- Anchor names with the number that an alias to them gets. -/
  names : List (String × Nat) := []
  /-- The latest node started under each number, newest first. -/
  started : List (Nat × Nat) := []
  /-- The finished nodes by order of their start. -/
  finished : List (Nat × Node) := []
  broken : Bool := false

namespace Reading

def fail (s : Reading) : Node × Reading := (.broken, { s with tokens := [], broken := true })

def drop (s : Reading) : Reading := { s with tokens := s.tokens.drop 1 }

/-- Gives an anchor its number, which is the number of different names seen before. -/
def nameAnchor (s : Reading) (name : String) : Reading :=
  let id := s.names.length
  { s with
    names := (name, id) :: s.names.filter (·.1 ≠ name)
    started := (id, s.started.length) :: s.started }

/-- Anchor and tag of a node. -/
structure Properties where
  anchor : Option String := none
  tag : Option (String × List UInt8) := none

/-- An anchor and a tag, in either order, each at most once. -/
def properties (s : Reading) : Properties × Reading :=
  match s.tokens with
  | .anchor name :: .tag handle suffix :: rest => (⟨some name, some (handle, suffix)⟩, { s with tokens := rest })
  | .tag handle suffix :: .anchor name :: rest => (⟨some name, some (handle, suffix)⟩, { s with tokens := rest })
  | .anchor name :: rest => (⟨some name, none⟩, { s with tokens := rest })
  | .tag handle suffix :: rest => (⟨none, some (handle, suffix)⟩, { s with tokens := rest })
  | _ => ({}, s)

/-- The meaning of a tag, unless its handle is unknown. -/
def resolveTag (s : Reading) : Option (String × List UInt8) → Option (Option Tag)
  | none => some none
  | some (handle, suffix) =>
    if handle.isEmpty then some (some (.ofOctets suffix))
    else (s.handles.lookup handle).map fun meaning => some (.ofOctets (meaning ++ suffix))

/-- Notes the start of a node; the answer is its place in the order of starts. -/
def start (s : Reading) (anchor : Option String) : Option Nat × Reading :=
  match anchor with
  | none => (none, s)
  | some name => (some s.started.length, s.nameAnchor name)

def finish (s : Reading) (place : Option Nat) (node : Node) : Node × Reading :=
  match place with
  | none => (node, s)
  | some place => (node, { s with finished := (place, node) :: s.finished })

end Reading

open Reading

/-- Where a node may stand: in a block, and with a sequence that is not indented. -/
structure Place where
  block : Bool
  indentless : Bool

def Place.flow : Place := ⟨false, false⟩
def Place.item : Place := ⟨true, false⟩
def Place.entry : Place := ⟨true, true⟩

/-- Tokens before which a part of a block mapping is empty. -/
def endsBlockPart : Token → Bool
  | .key | .value | .blockEnd => true
  | _ => false

def endsDashItem : Token → Bool
  | .dash | .blockEnd => true
  | _ => false

def endsIndentlessItem : Token → Bool
  | .dash | .key | .value | .blockEnd => true
  | _ => false

def endsBracketPart : Token → Bool
  | .comma | .closeBracket => true
  | _ => false

def endsBracketKey : Token → Bool
  | .value | .comma | .closeBracket => true
  | _ => false

def endsBracePart : Token → Bool
  | .comma | .closeBrace => true
  | _ => false

def endsBraceKey : Token → Bool
  | .value | .comma | .closeBrace => true
  | _ => false

mutual

/-- Reads one node. -/
def readNode (place : Place) : Nat → Reading → Node × Reading
  | 0, s => s.fail
  | fuel + 1, s =>
    match s.tokens with
    | .alias name :: rest =>
      match s.names.lookup name with
      | some id => (.alias id, { s with tokens := rest })
      | none => s.fail
    | _ =>
      let (props, s) := s.properties
      match s.tokens, s.resolveTag props.tag with
      | [], _ => s.fail
      | _, none => s.fail
      | token :: rest, some tag =>
        let (order, begun) := s.start props.anchor
        let inside := { begun with tokens := rest }
        match token with
        | .scalar text style => inside.finish order (.scalar tag style text)
        | .openBracket =>
          let (items, s) := readBrackets true fuel inside []
          s.finish order (.sequence tag items)
        | .openBrace =>
          let (entries, s) := readBraces true fuel inside []
          s.finish order (.mapping tag entries)
        | .dash =>
          if place.indentless then
            let (items, s) := readIndentless fuel begun []
            s.finish order (.sequence tag items)
          else if props.anchor.isSome || tag.isSome then begun.finish order (.scalar tag .plain "")
          else s.fail
        | .blockSequence =>
          if place.block then
            let (items, s) := readDashes fuel inside []
            s.finish order (.sequence tag items)
          else if props.anchor.isSome || tag.isSome then begun.finish order (.scalar tag .plain "")
          else s.fail
        | .blockMapping =>
          if place.block then
            let (entries, s) := readEntries fuel inside []
            s.finish order (.mapping tag entries)
          else if props.anchor.isSome || tag.isSome then begun.finish order (.scalar tag .plain "")
          else s.fail
        | _ =>
          if props.anchor.isSome || tag.isSome then begun.finish order (.scalar tag .plain "")
          else s.fail

/-- Reads a node, or nothing before a token that `ends` it. -/
def readPart (ends : Token → Bool) (place : Place) : Nat → Reading → Node × Reading
  | 0, s => s.fail
  | fuel + 1, s =>
    match s.tokens with
    | [] => s.fail
    | token :: _ => if ends token then (.empty, s) else readNode place fuel s

/-- Reads a colon and the value behind it; without a colon the value is empty. -/
def readValue (ends : Token → Bool) (place : Place) : Nat → Reading → Node × Reading
  | 0, s => s.fail
  | fuel + 1, s =>
    match s.tokens with
    | [] => s.fail
    | .value :: _ => readPart ends place fuel s.drop
    | _ => (.empty, s)

/-- The items of a block sequence, each behind a dash. -/
def readDashes : Nat → Reading → List Node → List Node × Reading
  | 0, s, items => ((Node.broken :: items).reverse, s.fail.2)
  | fuel + 1, s, items =>
    match s.tokens with
    | .blockEnd :: _ => (items.reverse, s.drop)
    | .dash :: _ =>
      let (item, s) := readPart endsDashItem .item fuel s.drop
      if s.broken then ((item :: items).reverse, s) else readDashes fuel s (item :: items)
    | _ => ((Node.broken :: items).reverse, s.fail.2)

/-- The items of a block sequence that stands at the column of its mapping key. -/
def readIndentless : Nat → Reading → List Node → List Node × Reading
  | 0, s, items => ((Node.broken :: items).reverse, s.fail.2)
  | fuel + 1, s, items =>
    match s.tokens with
    | [] => ((Node.broken :: items).reverse, s.fail.2)
    | .dash :: _ =>
      let (item, s) := readPart endsIndentlessItem .item fuel s.drop
      if s.broken then ((item :: items).reverse, s) else readIndentless fuel s (item :: items)
    | _ => (items.reverse, s)

/-- The entries of a block mapping. -/
def readEntries : Nat → Reading → List (Node × Node) → List (Node × Node) × Reading
  | 0, s, entries => (((Node.broken, Node.broken) :: entries).reverse, s.fail.2)
  | fuel + 1, s, entries =>
    match s.tokens with
    | .blockEnd :: _ => (entries.reverse, s.drop)
    | .key :: _ =>
      let (key, s) := readPart endsBlockPart .entry fuel s.drop
      if s.broken then (((key, .broken) :: entries).reverse, s)
      else
        let (value, s) := readValue endsBlockPart .entry fuel s
        if s.broken then (((key, value) :: entries).reverse, s) else readEntries fuel s ((key, value) :: entries)
    | _ => (((Node.broken, Node.broken) :: entries).reverse, s.fail.2)

/-- The items of a sequence in brackets. `first` tells that no comma is due. -/
def readBrackets (first : Bool) : Nat → Reading → List Node → List Node × Reading
  | 0, s, items => ((Node.broken :: items).reverse, s.fail.2)
  | fuel + 1, s, items =>
    match s.tokens with
    | .closeBracket :: _ => (items.reverse, s.drop)
    | token :: _ =>
      if !first && token != .comma then ((Node.broken :: items).reverse, s.fail.2)
      else
        let s := if first then s else s.drop
        match s.tokens with
        | .closeBracket :: _ => (items.reverse, s.drop)
        | .key :: _ =>
          let (item, s) := readPair fuel s.drop
          if s.broken then ((item :: items).reverse, s) else readBrackets false fuel s (item :: items)
        | _ =>
          let (item, s) := readNode .flow fuel s
          if s.broken then ((item :: items).reverse, s) else readBrackets false fuel s (item :: items)
    | [] => ((Node.broken :: items).reverse, s.fail.2)

/-- A mapping of one entry that stands in brackets without braces. Where its key is missing, the token in the key's
place is dropped. -/
def readPair : Nat → Reading → Node × Reading
  | 0, s => s.fail
  | fuel + 1, s =>
    let (key, s) :=
      match s.tokens with
      | [] => s.fail
      | token :: _ => if endsBracketKey token then (.empty, s.drop) else readNode .flow fuel s
    if s.broken then (.mapping none [(key, .broken)], s)
    else
      let (value, s) := readValue endsBracketPart .flow fuel s
      if s.broken then (.mapping none [(key, value)], s)
      else if s.tokens.isEmpty then (.mapping none [(key, value), (.broken, .broken)], s.fail.2)
      else (.mapping none [(key, value)], s)

/-- The entries of a mapping in braces. `first` tells that no comma is due. -/
def readBraces (first : Bool) : Nat → Reading → List (Node × Node) → List (Node × Node) × Reading
  | 0, s, entries => (((Node.broken, Node.broken) :: entries).reverse, s.fail.2)
  | fuel + 1, s, entries =>
    match s.tokens with
    | .closeBrace :: _ => (entries.reverse, s.drop)
    | token :: _ =>
      if !first && token != .comma then (((Node.broken, Node.broken) :: entries).reverse, s.fail.2)
      else
        let s := if first then s else s.drop
        match s.tokens with
        | .closeBrace :: _ => (entries.reverse, s.drop)
        | .key :: _ =>
          let (key, s) := readPart endsBraceKey .flow fuel s.drop
          if s.broken then (((key, .broken) :: entries).reverse, s)
          else
            let (value, s) := readValue endsBracePart .flow fuel s
            if s.broken then (((key, value) :: entries).reverse, s)
            else readBraces false fuel s ((key, value) :: entries)
        | _ =>
          let (key, s) := readNode .flow fuel s
          if s.broken || s.tokens.isEmpty then (((key, .broken) :: entries).reverse, s.fail.2)
          else readBraces false fuel s ((key, .empty) :: entries)
    | [] => (((Node.broken, Node.broken) :: entries).reverse, s.fail.2)

end

/-- The tag handles that hold without a directive. -/
def defaultHandles : List (String × List UInt8) := [("!", "!".toUTF8.toList), ("!!", Tag.coreStart)]

/-- The directives in front of a document and the tokens behind them. A second version or a handle given twice is
refused. -/
def readDirectives (versioned : Bool) (handles : List (String × List UInt8)) :
    List Token → Option (List (String × List UInt8) × List Token)
  | .version :: rest => if versioned then none else readDirectives true handles rest
  | .tagDirective handle meaning :: rest =>
    if (handles.lookup handle).isSome then none else readDirectives versioned ((handle, meaning) :: handles) rest
  | rest => some (handles, rest)

def endsContent : Token → Bool
  | .version | .tagDirective .. | .documentStart | .documentEnd | .streamEnd => true
  | _ => false

/-- Whether only the end of the text follows a document. -/
def endsText (tokens : List Token) : Bool :=
  tokens.dropWhile (· == .documentEnd) == [.streamEnd]

def Reading.document (s : Reading) (root : Node) : Document where
  root := root
  anchors := s.started.reverse.foldl (fun table (id, order) =>
    match s.finished.lookup order with
    | some node => (id, node) :: table
    | none => table) []
  complete := !s.broken && endsText s.tokens

/-- The document that a token list denotes. -/
def Document.ofTokens (tokens : List Token) : Document :=
  let fuel := 4 * tokens.length + 8
  let fail : Document := ⟨.broken, [], false⟩
  match tokens with
  | [] => fail
  | .streamEnd :: _ => ⟨.empty, [], true⟩
  | first :: _ =>
    match first with
    | .version | .tagDirective .. | .documentStart =>
      match readDirectives false [] tokens with
      | some (handles, .documentStart :: rest) =>
        let s : Reading := { tokens := rest, handles := handles ++ defaultHandles }
        let (root, s) := readPart endsContent .item fuel s
        s.document root
      | _ => fail
    | _ =>
      let s : Reading := { tokens := tokens, handles := defaultHandles }
      let (root, s) := readNode .item fuel s
      s.document root

/-- The document that a text denotes. -/
def Document.ofText (text : String) : Document :=
  let (cs, whole) := readablePart text
  Document.ofTokens (tokens cs whole)

end StatusFrames.Yaml
