/-
The headers of a compilation by their path below the include root, in the order of the paths. Two spellings of one path
are one path.
-/
import StatusFrames.Error

namespace StatusFrames

abbrev Artifacts := List (Files.Path × String)

namespace Artifacts

def contains (a : Artifacts) (path : Files.Path) : Bool := a.any (·.1.same path)

/-- Puts a header in its place; one at the same path gets the new text. -/
def put (path : Files.Path) (text : String) : Artifacts → Artifacts
  | [] => [(path, text)]
  | (q, other) :: rest =>
    if q.same path then (q, text) :: rest
    else if path.le q then (path, text) :: (q, other) :: rest
    else (q, other) :: put path text rest

/-- Adds a header at a path that is not taken. -/
def insert (a : Artifacts) (path : String) (text : String) : Except CompileError Artifacts :=
  if contains a ⟨path⟩ then .error (.render path .producedTwice) else .ok (put ⟨path⟩ text a)

/-- Adds headers in order, up to the first whose path is taken. -/
def insertAll (a : Artifacts) (headers : List (String × String)) : Except CompileError Artifacts :=
  headers.foldlM (fun a (path, text) => insert a path text) a

end Artifacts

end StatusFrames
