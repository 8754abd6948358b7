/-
The commands of the program, the ways in which one fails, and what a run leaves behind.
-/
import StatusFrames.Settings

namespace StatusFrames

open Files (Disk)

inductive Command
  /-- Writes the headers. -/
  | generate (overrides : Overrides) (settingsFile : Option Files.Path)
  /-- Prints the layouts and writes nothing. -/
  | analyze (source : Option Files.Path) (printLayouts : Bool) (settingsFile : Option Files.Path)
deriving DecidableEq, Repr

/-- A command line that asks for a command. -/
structure Invocation where
  verbose : Bool
  command : Command
deriving DecidableEq, Repr

/-- Steps of a command that name themselves when they fail. -/
inductive Stage
  | options
  | load (folder : Files.Path)
  | layout
  | symbols
  | compile
  | write (folder : Files.Path)
deriving DecidableEq, Repr

def Stage.message? : Stage → Option String
  | .options => none
  | .load folder => some ("Failed to load protocols from " ++ folder.text)
  | .layout => some "Layout computation failed"
  | .symbols => some "Symbol check failed"
  | .compile => some "Compilation failed"
  | .write folder => some ("Failed to write output to " ++ folder.text)

inductive CommandError
  | settings (e : SettingsError)
  | during (stage : Stage) (e : CompileError)
  | noLibrary (folder : Files.Path)

namespace CommandError

/-- The message, then those of the failures behind it. -/
def messages : CommandError → List String
  | .settings e => e.messages
  | .during stage e => stage.message?.toList ++ e.messages
  | .noLibrary folder => ["Library directory " ++ folder.text ++ " does not exist"]

/-- A cause on lines of its own: the first line follows `start`, the others are indented by as much as `start` is
wide. -/
def indented (start : String) (message : String) : String :=
  let blanks := String.ofList (List.replicate start.length ' ')
  "\n" ++ start ++ String.intercalate ("\n" ++ blanks) (message.splitOn "\n")

/-- The causes of a failure, numbered from zero if there is more than one. -/
def causes : List String → String
  | [] => ""
  | [message] => "\n\nCaused by:" ++ indented "    " message
  | messages =>
    "\n\nCaused by:" ++
      String.join (messages.mapIdx fun i message =>
        let number := toString i
        indented (String.ofList (List.replicate (5 - number.length) ' ') ++ number ++ ": ") message)

def report (e : CommandError) : String :=
  match e.messages with
  | [] => "Error: "
  | message :: rest => "Error: " ++ message ++ causes rest

end CommandError

/-- What a run leaves behind. -/
structure Outcome where
  exitCode : UInt8
  printed : String
  reported : String
  disk : Disk

/-- What a command works on: the disk, and the text printed so far. -/
structure Session where
  disk : Disk
  printed : String := ""

/-- A command that is running. What it printed and wrote before a failure stays. -/
abbrev CommandM := ExceptT CommandError (StateM Session)

namespace CommandM

def print (text : String) : CommandM Unit := modify fun s => { s with printed := s.printed ++ text }

def printLine (text : String) : CommandM Unit := print (text ++ "\n")

def disk : CommandM Disk := return (← get).disk

/-- A step that does not change the disk. -/
def attempt {α : Type} (stage : Stage) (result : Except CompileError α) : CommandM α :=
  match result with
  | .ok a => pure a
  | .error e => throw (.during stage e)

def settled {α : Type} (result : Except SettingsError α) : CommandM α :=
  match result with
  | .ok a => pure a
  | .error e => throw (.settings e)

end CommandM

end StatusFrames
