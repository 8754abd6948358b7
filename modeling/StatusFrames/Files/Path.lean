/-
Paths as they are spelled. A path is kept as its text and taken apart where its components matter: paths are compared
component by component, and joining or taking a parent never tidies the spelling.
-/
namespace StatusFrames.Files

structure Path where
  text : String
deriving DecidableEq, Repr, Inhabited

inductive Component
  | root
  | here
  | up
  | name (s : String)
deriving DecidableEq, Repr

namespace Component

/-- Kinds of components in the order in which they sort. -/
def rank : Component → Nat
  | .root => 0
  | .here => 1
  | .up => 2
  | .name _ => 3

def lt : Component → Component → Bool
  | .name a, .name b => a < b
  | a, b => a.rank < b.rank

def le : List Component → List Component → Bool
  | [], _ => true
  | _ :: _, [] => false
  | a :: as, b :: bs => if a = b then le as bs else a.lt b

end Component

namespace Path

/-- Cuts a text at its slashes; each piece comes with the offset of its end. -/
def pieces : List Char → List Char → Nat → List (List Char × Nat)
  | [], piece, offset => [(piece.reverse, offset)]
  | c :: rest, piece, offset =>
    if c = '/' then (piece.reverse, offset) :: pieces rest [] (offset + 1)
    else pieces rest (c :: piece) (offset + 1)

def componentOf : List Char → Component
  | ['.', '.'] => .up
  | piece => .name (String.ofList piece)

/-- The components with the offset of the end of each. Empty pieces do not count, and a dot only counts at the start
of a relative path. -/
def spans (p : Path) : List (Component × Nat) :=
  let cs := p.text.toList
  let all := pieces cs [] 0
  let front :=
    match cs, all with
    | '/' :: _, _ => [(Component.root, 1)]
    | _, (['.'], offset) :: _ => [(.here, offset)]
    | _, _ => []
  front ++ (all.filter fun (piece, _) => piece ≠ [] ∧ piece ≠ ['.']).map fun (piece, offset) =>
    (componentOf piece, offset)

def components (p : Path) : List Component := p.spans.map (·.1)

/-- Paths with the same components are the same place. -/
def same (p q : Path) : Bool := p.components = q.components

def le (p q : Path) : Bool := Component.le p.components q.components

def isAbsolute (p : Path) : Bool := p.text.toList.head? = some '/'

/-- The path without its last component, cut off the text. Neither the root nor the empty path has a parent. -/
def parent? (p : Path) : Option Path :=
  match p.spans.reverse with
  | [] => none
  | [(.root, _)] => none
  | [_] => some ⟨""⟩
  | _ :: (_, offset) :: _ => some ⟨String.ofList (p.text.toList.take offset)⟩

/-- The path itself and its parents, innermost first. -/
def ancestors (p : Path) : List Path :=
  let cut := fun (offset : Nat) => (⟨String.ofList (p.text.toList.take offset)⟩ : Path)
  let inner := (p.spans.reverse.drop 1).map fun (_, offset) => cut offset
  if p.spans.isEmpty then [p]
  else if p.isAbsolute then p :: inner
  else p :: inner ++ [⟨""⟩]

/-- The last component, if it is a name. -/
def fileName? (p : Path) : Option String :=
  match p.components.getLast? with
  | some (.name s) => some s
  | _ => none

/-- What follows the last dot of the file name, unless that dot comes first. -/
def extension? (p : Path) : Option String :=
  match p.fileName? with
  | none => none
  | some name =>
    let cs := name.toList.reverse
    let tail := cs.takeWhile (· ≠ '.')
    if cs.length ≤ tail.length + 1 then none else some (String.ofList tail.reverse)

/-- The path `q` as seen from `p`. An absolute `q` stays as it is. -/
def join (p q : Path) : Path :=
  if q.isAbsolute then q
  else
    match p.text.toList.getLast? with
    | none => q
    | some '/' => ⟨p.text ++ q.text⟩
    | some _ => ⟨p.text ++ "/" ++ q.text⟩

end Path

end StatusFrames.Files
