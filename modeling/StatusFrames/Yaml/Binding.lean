/-
Reading typed values out of a document. Nodes are visited in document order and the first fault is reported. A fault
that arises inside a value, without a node of its own, is placed at the innermost node being read.
-/
import StatusFrames.Yaml.Node.Grammar
import StatusFrames.Yaml.Error

namespace StatusFrames.Yaml

/-- The surroundings of a node. -/
structure Context where
  anchors : List (Nat × Node)
  /-- How often aliases may be followed in one document. -/
  aliasLimit : Nat
  /-- How many more collections may be nested. -/
  depth : Nat := 128
  /-- The way to the node, last step first. -/
  trail : List Step := []

def Context.child (ctx : Context) (step : Step) : Context := { ctx with trail := step :: ctx.trail }

/-- A reader may fail, and counts the aliases that were followed. -/
abbrev Reader (α : Type) := StateT Nat (Except ReadError) α

def fault {α : Type} (f : Fault) : Reader α := throw { fault := f }

/-- Faults without a place get the place of the context. -/
def located {α : Type} (ctx : Context) (reader : Reader α) : Reader α := fun followed =>
  match reader followed with
  | .ok result => .ok result
  | .error e => .error (e.under ctx.trail.reverse)

/-- The node itself with its surroundings, or the one that an alias points at, one step further on. -/
def follow (ctx : Context) : Node → Reader (Context × Node)
  | .alias target => do
    modify (· + 1)
    if (← get) > ctx.aliasLimit then fault .unreadable
    else
      match ctx.anchors.lookup target with
      | some node => pure (ctx.child .alias, node)
      | none => fault .unreadable
  | node => pure (ctx, node)

/-- The surroundings of the members of a collection. -/
def Context.enter (ctx : Context) : Reader Context :=
  match ctx.depth with
  | 0 => fault .unreadable
  | depth + 1 => pure { ctx with depth := depth }

/-- The fault of a node that has not the expected type. -/
def typeFault (expected : String) : Node → Fault
  | .scalar tag style text =>
    match Value.ofScalar tag style text with
    | .ok value => .wrongType value expected
    | .error wanted => .wrongValue (.text text) wanted
  | .sequence .. => .wrongType (.list []) expected
  | .mapping .. => .wrongType (.map []) expected
  | .alias _ => .unreadable
  | .broken => .unreadable

/-- Any scalar, by its spelling. -/
def readText (expected : String) (ctx : Context) (node : Node) : Reader String := do
  let (ctx, node) ← follow ctx node
  located ctx do
    match node with
    | .scalar _ _ text => pure text
    | other => fault (typeFault expected other)

/-- Whether a scalar's spelling may be read as a number or boolean: it is plain, or a literal block with the tag. -/
def isBare (tagName : String) (tag : Option Tag) (style : Style) : Bool :=
  style = .plain || (style = .literal && tag = some (.core tagName))

def readByte (ctx : Context) (node : Node) : Reader UInt8 := do
  let (ctx, node) ← follow ctx node
  located ctx do
    match node with
    | .scalar tag style text =>
      match if isBare "int" tag style then (Plain.unsigned? text.toList).filter (· < 0x10000000000000000) else none with
      | some n => if n < 256 then pure n.toUInt8 else fault (.wrongValue (.integer n) "u8")
      | none => fault (typeFault "u8" node)
    | other => fault (typeFault "u8" other)

def readBool (ctx : Context) (node : Node) : Reader Bool := do
  let (ctx, node) ← follow ctx node
  located ctx do
    match node with
    | .scalar tag style text =>
      match if isBare "bool" tag style then Plain.bool? text else none with
      | some b => pure b
      | none => fault (typeFault "a boolean" node)
    | other => fault (typeFault "a boolean" other)

/-- Nothing for a plain null or an empty plain scalar. -/
def readOptional {α : Type} (read : Context → Node → Reader α) (ctx : Context) (node : Node) :
    Reader (Option α) := do
  let (ctx, node) ← follow ctx node
  match node with
  | .scalar none .plain text => if text.isEmpty || Plain.isNull text then pure none else some <$> read ctx node
  | .scalar (some tag) .plain text =>
    if tag ≠ .core "null" then some <$> read ctx node
    else if Plain.isNull text then pure none
    else fault (.wrongValue (.text text) "null")
  | .broken => fault .unreadable
  | node => some <$> read ctx node

def readItems {α : Type} (read : Context → Node → Reader α) (ctx : Context) :
    Nat → List Node → Reader (List α)
  | _, [] => pure []
  | index, node :: rest => do
    let item ← read (ctx.child (.item index)) node
    let items ← readItems read ctx (index + 1) rest
    pure (item :: items)

/-- A sequence; an empty plain scalar is an empty one. -/
def readList {α : Type} (read : Context → Node → Reader α) (ctx : Context) (node : Node) : Reader (List α) := do
  let (ctx, node) ← follow ctx node
  located ctx do
    match node with
    | .sequence _ items => readItems read (← ctx.enter) 0 items
    | .scalar tag style text =>
      if style = .plain && text.isEmpty then pure [] else fault (typeFault "a sequence" (.scalar tag style text))
    | other => fault (typeFault "a sequence" other)

/-- A key of a record, with the other spellings accepted for it. -/
structure Key where
  name : String
  others : List String := []

/-- The spelling of a record key and the step to its value. -/
def readKey (ctx : Context) (node : Node) : Reader (String × Step) := do
  let name ← readText "field identifier" ctx node
  pure (name, match node with | .scalar .. => .key name | _ => .unknown)

/-- Reads the entries of a record into a draft, refusing unknown keys and keys given twice. -/
def readEntriesInto {σ : Type} (keys : List Key) (set : σ → String → Context → Node → Reader σ) (ctx : Context) :
    List (Node × Node) → List String → σ → Reader σ
  | [], _, draft => pure draft
  | (keyNode, value) :: rest, seen, draft => do
    let (name, step) ← readKey ctx keyNode
    match keys.find? fun key => key.name == name || key.others.contains name with
    | none => fault (.unknownField name (keys.flatMap fun key => key.name :: key.others))
    | some key =>
      if seen.contains key.name then fault (.duplicateField key.name)
      else
        let draft ← set draft key.name (ctx.child step) value
        readEntriesInto keys set ctx rest (key.name :: seen) draft

/-- A mapping with fixed keys; an empty plain scalar is one without keys. -/
def readRecord {σ α : Type} (expected : String) (keys : List Key) (start : σ)
    (set : σ → String → Context → Node → Reader σ) (finish : σ → Except Fault α) (ctx : Context) (node : Node) :
    Reader α := do
  let (ctx, node) ← follow ctx node
  located ctx do
    let draft ←
      match node with
      | .mapping _ entries => readEntriesInto keys set (← ctx.enter) entries [] start
      | .scalar tag style text =>
        if style = .plain && text.isEmpty then pure start else fault (typeFault expected (.scalar tag style text))
      | other => fault (typeFault expected other)
    match finish draft with
    | .ok result => pure result
    | .error f => fault f

/-- The value of a field that must be there. -/
def required {α : Type} (name : String) : Option α → Except Fault α
  | some x => .ok x
  | none => .error (.missingField name)

/-- A node that must be null, behind a tag that carries all the meaning. -/
def readUnit (ctx : Context) (node : Node) : Reader Unit :=
  located ctx do
    match node with
    | .scalar _ style text =>
      if style = .plain && (text.isEmpty || Plain.isNull text) then pure ()
      else fault (.wrongValue (.text text) "null")
    | other => fault (typeFault "unit" other)

def pickVariant {α : Type} (variants : List (String × α)) (name : String) : Except Fault α :=
  match variants.lookup name with
  | some x => .ok x
  | none => .error (.unknownVariant name (variants.map (·.1)))

/-- One of several words, written as a scalar or as the tag of a null. -/
def readVariant {α : Type} (variants : List (String × α)) (ctx : Context) (node : Node) : Reader α := do
  let (ctx, node) ← follow ctx node
  let tag? :=
    match node with
    | .scalar tag .. | .sequence tag _ | .mapping tag _ => Tag.word? tag
    | _ => none
  match tag?, node with
  | some name, node =>
    match pickVariant variants name with
    | .ok x => do
      readUnit ctx node
      pure x
    | .error f => fault f
  | none, .scalar _ _ text =>
    located ctx <|
      match pickVariant variants text with
      | .ok x => pure x
      | .error f => fault f
  | none, other => located ctx (fault (typeFault "a YAML tag starting with '!'" other))

def readPairs {α : Type} (read : Context → Node → Reader α) (ctx : Context) :
    List (Node × Node) → Reader (List (α × α))
  | [] => pure []
  | (keyNode, valueNode) :: rest => do
    let key ← read ctx keyNode
    let step :=
      match keyNode with
      | .scalar _ _ text => Step.key text
      | _ => .unknown
    let value ← read (ctx.child step) valueNode
    let pairs ← readPairs read ctx rest
    pure ((key, value) :: pairs)

/-- Any value. Tags of the document's own and integers beyond 64 bits are refused. -/
def readValueAt : Nat → Context → Node → Reader Value
  | 0, _, _ => fault .unreadable
  | fuel + 1, ctx, node => do
    let (ctx, node) ← follow ctx node
    located ctx do
      match node with
      | .scalar tag style text =>
        if (Tag.word? tag).isSome then fault .unreadable
        else
          match Value.ofScalar tag style text with
          | .error wanted => fault (.wrongValue (.text text) wanted)
          | .ok (.integer n) =>
            if -0x8000000000000000 ≤ n ∧ n < 0x10000000000000000 then pure (.integer n)
            else fault (.wrongType (.integer n) "any value")
          | .ok value => pure value
      | .sequence tag items =>
        if (Tag.word? tag).isSome then fault .unreadable
        else .list <$> readItems (readValueAt fuel) (← ctx.enter) 0 items
      | .mapping tag entries =>
        if (Tag.word? tag).isSome then fault .unreadable
        else .map <$> readPairs (readValueAt fuel) (← ctx.enter) entries
      | _ => fault .unreadable

/-- Any value, read to the full depth that the context allows. -/
def readAny (ctx : Context) (node : Node) : Reader Value := readValueAt (ctx.depth + 1) ctx node

/-- Reads a whole text. A fault in the data is reported before one in the text behind it. -/
def readDocument {α : Type} (read : Context → Node → Reader α) (text : String) : Except ReadError α :=
  let document := Document.ofText text
  let ctx : Context := { anchors := document.anchors, aliasLimit := 100 * document.root.steps }
  match (read ctx document.root).run 0 with
  | .error e => .error e
  | .ok (result, _) => if document.complete then .ok result else .error { fault := .unreadable }

end StatusFrames.Yaml
