/-
The tree of values that a document text denotes. A text may stop being readable in the middle; the tree then holds
what came before, and a `broken` node where reading stopped.
-/
import StatusFrames.Yaml.Tag

namespace StatusFrames.Yaml

inductive Node
  | scalar (tag : Option Tag) (style : Style) (text : String)
  | sequence (tag : Option Tag) (items : List Node)
  | mapping (tag : Option Tag) (entries : List (Node × Node))
  | alias (target : Nat)
  | broken
deriving Repr

/-- What stands where nothing is written. -/
def Node.empty : Node := .scalar none .plain ""

mutual

/-- Number of parsing steps that a node takes, a collection counting twice. -/
def Node.steps : Node → Nat
  | .scalar .. => 1
  | .sequence _ items => 2 + stepsOfItems items
  | .mapping _ entries => 2 + stepsOfEntries entries
  | .alias _ => 1
  | .broken => 0

def stepsOfItems : List Node → Nat
  | [] => 0
  | node :: rest => node.steps + stepsOfItems rest

def stepsOfEntries : List (Node × Node) → Nat
  | [] => 0
  | (key, value) :: rest => key.steps + value.steps + stepsOfEntries rest

end

structure Document where
  root : Node
  /-- The nodes that aliases point at. -/
  anchors : List (Nat × Node)
  /-- Whether the text is readable to its end and holds no second document. -/
  complete : Bool

end StatusFrames.Yaml
