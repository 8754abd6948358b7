/-
A file system as a value: a tree of folders and regular files, and the folder that relative paths start from. Every
folder and every file has one name in one folder: there are no symbolic links, no hard links, and no folder is mounted
at a second place, so that to write one file never changes another. There are no permissions.
-/
import StatusFrames.Files.Failure
import StatusFrames.Files.Path

namespace StatusFrames.Files

inductive Entry
  | file (bytes : ByteArray)
  /-- A folder with its entries in the order of their names. -/
  | folder (entries : List (String × Entry))

/-- A place in the tree: the names on the way from the top. -/
abbrev Place := List String

/-- Gives a name a new entry, in the order of the names. -/
def putEntry (name : String) (entry : Entry) : List (String × Entry) → List (String × Entry)
  | [] => [(name, entry)]
  | (other, e) :: rest =>
    if other = name then (name, entry) :: rest
    else if name < other then (name, entry) :: (other, e) :: rest
    else (other, e) :: putEntry name entry rest

namespace Entry

/-- What is at a place. -/
def at? : Entry → Place → Option Entry
  | e, [] => some e
  | .file _, _ :: _ => none
  | .folder entries, name :: rest =>
    match entries.lookup name with
    | some e => e.at? rest
    | none => none

/-- Puts an entry at a place; all folders on the way must be there. -/
def put : Entry → Place → Entry → Entry
  | _, [], new => new
  | .file bytes, _ :: _, _ => .file bytes
  | .folder entries, name :: rest, new =>
    match entries.lookup name, rest with
    | some e, rest => .folder (putEntry name (e.put rest new) entries)
    | none, [] => .folder (putEntry name new entries)
    | none, _ :: _ => .folder entries

mutual

/-- All files below an entry, with their places. -/
def files (place : Place) : Entry → List (Place × ByteArray)
  | .file bytes => [(place, bytes)]
  | .folder entries => filesOf place entries

def filesOf (place : Place) : List (String × Entry) → List (Place × ByteArray)
  | [] => []
  | (name, e) :: rest => e.files (place ++ [name]) ++ filesOf place rest

/-- Number of entries of a tree. -/
def size : Entry → Nat
  | .file _ => 1
  | .folder entries => 1 + sizeOfAll entries

def sizeOfAll : List (String × Entry) → Nat
  | [] => 0
  | (_, e) :: rest => e.size + sizeOfAll rest

end

end Entry

/-- A tree in which every file has one place. -/
structure Disk where
  root : Entry
  /-- The folder that relative paths start from. -/
  here : Place

/-- A step of a path on the disk. -/
inductive Move
  | stay
  | up
  | down (name : String)
deriving DecidableEq, Repr

def Move.ofPiece : List Char → Move
  | ['.'] => .stay
  | ['.', '.'] => .up
  | piece => .down (String.ofList piece)

/-- The steps of a path. A slash at the end is not a step. -/
def Path.moves (p : Path) : List Move :=
  ((Path.pieces p.text.toList [] 0).map (·.1)).filter (· ≠ []) |>.map Move.ofPiece

/-- A slash at the end asks for a folder. -/
def Path.endsInSlash (p : Path) : Bool := p.text.toList.getLast? = some '/'

/-- Whether a name has more octets than the name of an entry can have. -/
def isLongName (name : String) : Bool := name.utf8ByteSize > 255

/-- Whether a path can be asked for at all, wherever it leads. -/
def Path.check (p : Path) : Except Failure Unit :=
  if p.text.toList.contains '\x00' then .error .nulInPath
  else if p.text.utf8ByteSize ≥ 4096 then .error .tooLong
  else if p.text.isEmpty then .error .missing
  else .ok ()

namespace Disk

/-- Goes on from a place. Only folders can be passed through. -/
def walkFrom (d : Disk) : Place → List Move → Except Failure Place
  | place, [] => .ok place
  | place, move :: rest =>
    match d.root.at? place with
    | none => .error .missing
    | some (.file _) => .error .notAFolder
    | some (.folder entries) =>
      match move with
      | .stay => d.walkFrom place rest
      | .up => d.walkFrom place.dropLast rest
      | .down name =>
        if isLongName name then .error .tooLong
        else if (entries.lookup name).isSome then d.walkFrom (place ++ [name]) rest
        else .error .missing

def start (d : Disk) (p : Path) : Place := if p.isAbsolute then [] else d.here

/-- The place that a path leads to. -/
def locate (d : Disk) (p : Path) : Except Failure Place := do
  p.check
  d.walkFrom (d.start p) (p.moves ++ if p.endsInSlash then [.stay] else [])

/-- What a path leads to. -/
def get (d : Disk) (p : Path) : Except Failure Entry := do
  let place ← d.locate p
  match d.root.at? place with
  | some e => .ok e
  | none => .error .missing

def isFile (d : Disk) (p : Path) : Bool :=
  match d.get p with
  | .ok (.file _) => true
  | _ => false

def isFolder (d : Disk) (p : Path) : Bool :=
  match d.get p with
  | .ok (.folder _) => true
  | _ => false

def readBytes (d : Disk) (p : Path) : Except Failure ByteArray := do
  match ← d.get p with
  | .file bytes => .ok bytes
  | .folder _ => .error .isAFolder

def readText (d : Disk) (p : Path) : Except Failure String := do
  match String.fromUTF8? (← d.readBytes p) with
  | some text => .ok text
  | none => .error .notText

/-- The names in a folder, in order. -/
def list (d : Disk) (p : Path) : Except Failure (List String) := do
  match ← d.get p with
  | .folder entries => .ok (entries.map (·.1))
  | .file _ => .error .notAFolder

def put (d : Disk) (place : Place) (e : Entry) : Disk := { d with root := d.root.put place e }

/-- The place that a new entry would take: the folder it would be in must be there. Nothing if the path ends in a
step that names no entry. -/
def newPlace (d : Disk) (p : Path) : Except Failure (Option Place) := do
  p.check
  match p.moves.reverse with
  | .down name :: front => do
    let folder ← d.walkFrom (d.start p) (front.reverse ++ [.stay])
    if isLongName name then .error .tooLong else .ok (some (folder ++ [name]))
  | _ => do
    let _ ← d.locate p
    .ok none

/-- Makes a folder at a path where nothing is yet. -/
def makeFolder (d : Disk) (p : Path) : Except Failure Disk := do
  match ← d.newPlace p with
  | none => .error .alreadyThere
  | some place =>
    match d.root.at? place with
    | some _ => .error .alreadyThere
    | none => .ok (d.put place (.folder []))

/-- Makes the first of the folders, after the others if its own folder is missing. A folder that is there is left as
it is. Folders made before a failure stay. -/
def makeFolderChain (d : Disk) : List Path → Except Failure Unit × Disk
  | [] => (.ok (), d)
  | p :: outer =>
    let settled := fun (d : Disk) (e : Failure) => (if d.isFolder p then .ok () else .error e, d)
    if p.components.isEmpty then (.ok (), d)
    else
      match d.makeFolder p with
      | .ok d => (.ok (), d)
      | .error .missing =>
        match d.makeFolderChain outer with
        | (.error e, d) => (.error e, d)
        | (.ok (), d) =>
          match d.makeFolder p with
          | .ok d => (.ok (), d)
          | .error e => settled d e
      | .error e => settled d e

/-- Makes a folder and all folders on the way to it. -/
def makeFolders (d : Disk) (p : Path) : Except Failure Unit × Disk := d.makeFolderChain p.ancestors

/-- The place of a file that is to be written, which must not be a folder. -/
def filePlace (d : Disk) (p : Path) : Except Failure Place := do
  match ← d.newPlace p with
  | none => .error .isAFolder
  | some place =>
    if p.endsInSlash then .error .isAFolder
    else
      match d.root.at? place with
      | some (.folder _) => .error .isAFolder
      | _ => .ok place

/-- Writes a file, over the one that may be there. -/
def write (d : Disk) (p : Path) (bytes : ByteArray) : Except Failure Disk := do
  let place ← d.filePlace p
  return d.put place (.file bytes)

/-- Copies a file. A file copied onto itself is emptied first and stays empty. -/
def copy (d : Disk) (source target : Path) : Except Failure Disk := do
  let bytes ← d.readBytes source
  let origin ← d.locate source
  let place ← d.filePlace target
  return d.put place (.file (if place = origin then ByteArray.empty else bytes))

/-- The files of a disk, with their places. -/
def files (d : Disk) : List (Place × ByteArray) := d.root.files []

end Disk

end StatusFrames.Files
