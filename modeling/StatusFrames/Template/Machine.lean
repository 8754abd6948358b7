/-
The state of a template that is being rendered. Bindings live in frames, one for the template and one more for each
loop. Definitions of one frame share a cell that holds what they see of their surroundings: the free names of each are
put there when it is made, and from then on every binding of the frame goes there too. So a definition sees later
bindings of its own frame, but not those of other frames.
-/
import StatusFrames.Template.FreeNames
import StatusFrames.Template.Value

namespace StatusFrames.Template

/-- Binds a name, in place of an earlier binding. -/
def Scope.put (s : Scope) (x : String) (v : Value) : Scope := (x, v) :: s.filter (·.1 ≠ x)

/-- Names with their bindings, in the order of the names. -/
def Scope.sorted (s : Scope) : Scope := s.mergeSort fun a b => decide (a.1 ≤ b.1)

structure Frame where
  /-- What was bound in the frame. -/
  locals : Scope := []
  loop : Option LoopState := none
  /-- What was bound from the start. -/
  given : Scope := []
  /-- Number of the cell of the definitions made in the frame. -/
  closure : Option Nat := none

def Frame.lookup? (f : Frame) (x : String) : Option Value :=
  match f.locals.lookup x with
  | some v => some v
  | none =>
    match if x = "loop" then f.loop else none with
    | some state => some (.loop state)
    | none => f.given.lookup x

structure Machine where
  /-- Frames, innermost first. -/
  frames : List Frame
  /-- How deep the frames lie in those of others. -/
  below : Nat := 0
  /-- Contents of the cells. -/
  cells : List Scope := []

namespace Machine

/-- How deep frames may nest. -/
def maxDepth : Nat := 500

/-- What a call adds to the depth besides its frames. -/
def callCost : Nat := 4

/-- What loading a template adds to the depth besides its frame. -/
def loadCost : Nat := 10

/-- A template that is given some bindings. -/
def start (given : Scope) : Machine := { frames := [{ given := given }] }

def depth (m : Machine) : Nat := m.below + m.frames.length

def checkDepth (m : Machine) : Except Failure Unit := if m.depth > maxDepth then .error .tooDeep else .ok ()

def lookup (m : Machine) (x : String) : Value := (m.frames.findSome? (·.lookup? x)).getD .undefined

def push (m : Machine) (f : Frame) : Except Failure Machine := do
  m.checkDepth
  return { m with frames := f :: m.frames }

def pop (m : Machine) : Machine := { m with frames := m.frames.tail }

/-- Changes the innermost frame. -/
def modifyTop (m : Machine) (f : Frame → Frame) : Machine :=
  match m.frames with
  | [] => m
  | top :: outer => { m with frames := f top :: outer }

def top (m : Machine) : Frame := m.frames.head?.getD {}

/-- Binds a name in the innermost frame. -/
def bind (m : Machine) (x : String) (v : Value) : Machine :=
  let cells :=
    match m.top.closure with
    | some cell => m.cells.modify cell (·.put x v)
    | none => m.cells
  { m with cells := cells }.modifyTop fun f => { f with locals := f.locals.put x v }

mutual

/-- Binds a target, which takes a collection apart if it has parts. -/
def bindTarget (m : Machine) : Target → Value → Except Failure Machine
  | .name x, v => .ok (m.bind x v)
  | .parts targets, v =>
    match v.parts? with
    | some items => bindTargets m targets items
    | none => .error .notIterable

def bindTargets (m : Machine) : List Target → List Data → Except Failure Machine
  | [], [] => .ok m
  | target :: targets, item :: items => do
    let m ← bindTarget m target (.data item)
    bindTargets m targets items
  | _, _ => .error .wrongCount

end

/-- Puts a name into the cell of the innermost frame with the value that it has now, unless it is there. -/
def enclose (m : Machine) (x : String) : Machine :=
  let v := m.lookup x
  let add (cell : Scope) : Scope := if (cell.lookup x).isSome then cell else cell.put x v
  match m.top.closure with
  | some cell => { m with cells := m.cells.modify cell add }
  | none =>
    { m with cells := m.cells ++ [add []] }.modifyTop fun f => { f with closure := some m.cells.length }

/-- Makes a definition. -/
def define (m : Machine) (name : String) (params : List Param) (body : List Statement) : Machine :=
  let free := freeNamesOfDefinition params body
  let m := (free.filter (· ≠ "caller")).foldl enclose m
  m.bind name (.routine ⟨name, params, body, free.contains "caller", m.top.closure⟩)

/-- The machine that runs the body of a definition: it sees what the definition sees and what was given to the
template. -/
def enter (m : Machine) (r : Routine) : Except Failure Machine := do
  let seen := (r.closure.bind (m.cells[·]?)).getD []
  let given := (m.frames.getLast?.map (·.given)).getD []
  let inner : Machine :=
    { m with frames := [{ given := seen }, { given := given }], below := m.depth + callCost }
  inner.checkDepth
  return inner

/-- The machine that runs another template for its definitions. -/
def beginLoad (m : Machine) : Except Failure Machine := do
  let inner ← m.push {}
  let inner := { inner with below := inner.below + loadCost }
  inner.checkDepth
  return inner

/-- The definitions that a template made, and the machine behind it. -/
def endLoad (m : Machine) : Scope × Machine :=
  (m.top.locals.sorted, { m.pop with below := m.below - loadCost })

end Machine

end StatusFrames.Template
