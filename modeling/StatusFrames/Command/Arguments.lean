/-
Reading a command line. Words are read from left to right: the first one that cannot be accepted, or that asks for
help or the version, decides.
-/
import StatusFrames.Command

namespace StatusFrames.Command

/-- What help can be asked for. -/
inductive Topic
  | program
  | generate
  | analyze
  | help
deriving DecidableEq, Repr

/-- Why a command line does not give a command. -/
inductive Halt
  | rejected
  /-- Help on a topic, in full or not. -/
  | help (topic : Topic) (full : Bool)
  | version
deriving DecidableEq, Repr

inductive FlagKind
  /-- A flag without a value. -/
  | switch
  /-- A flag with a path, which must not be empty. -/
  | path
  /-- A flag with the name of an emitter. -/
  | emitter
  | help
  | version
deriving DecidableEq, Repr

structure Flag where
  long : String
  short : Option Char := none
  kind : FlagKind := .path
deriving DecidableEq, Repr

def sourceFlag : Flag := ⟨"source", some 's', .path⟩
def outputFlag : Flag := ⟨"output", some 'o', .path⟩
def templatesFlag : Flag := ⟨"templates", some 't', .path⟩
def emitterFlag : Flag := ⟨"emitter", none, .emitter⟩
def libraryFlag : Flag := ⟨"library", none, .path⟩
def noLibraryFlag : Flag := ⟨"no-library", none, .switch⟩
def printLayoutsFlag : Flag := ⟨"print-ir", none, .switch⟩
def configFlag : Flag := ⟨"config", none, .path⟩
def verboseFlag : Flag := ⟨"verbose", some 'v', .switch⟩
def helpFlag : Flag := ⟨"help", some 'h', .help⟩
def versionFlag : Flag := ⟨"version", some 'V', .version⟩

/-- The flags of the program, which stand before a command, and those of its commands. -/
def Topic.flags : Topic → List Flag
  | .program => [verboseFlag, helpFlag, versionFlag]
  | .generate =>
    [sourceFlag, verboseFlag, outputFlag, templatesFlag, emitterFlag, libraryFlag, noLibraryFlag, configFlag, helpFlag]
  | .analyze => [sourceFlag, verboseFlag, printLayoutsFlag, configFlag, helpFlag]
  | .help => []

/-- What has been read: the values of the flags, a flag that waits for its value, and whether the flags are closed. -/
structure Reading where
  values : List (String × String) := []
  waiting : Option Flag := none
  closed : Bool := false
deriving DecidableEq, Repr

namespace Reading

def has (r : Reading) (long : String) : Bool := (r.values.lookup long).isSome

def path? (r : Reading) (long : String) : Option Files.Path := (r.values.lookup long).map Files.Path.mk

def emitter? (r : Reading) (long : String) : Option Emitter :=
  (r.values.lookup long).bind fun name => Emitter.byName.lookup name

/-- Gives a flag its value. No flag is given twice. -/
def give (r : Reading) (flag : Flag) (value : String) : Except Halt Reading :=
  let fits :=
    match flag.kind with
    | .path => !value.isEmpty
    | .emitter => (Emitter.byName.lookup value).isSome
    | _ => true
  if fits && !r.has flag.long then .ok { r with values := r.values ++ [(flag.long, value)], waiting := none }
  else .error .rejected

/-- A flag that came without a value. The long name asks for the full help. -/
def meet (topic : Topic) (r : Reading) (flag : Flag) (long : Bool) : Except Halt Reading :=
  match flag.kind with
  | .switch => r.give flag ""
  | .help => .error (.help topic long)
  | .version => .error .version
  | .path | .emitter => .ok { r with waiting := some flag }

/-- A flag by its long name, with a value behind an equals sign or without one. -/
def readLong (topic : Topic) (r : Reading) (cs : List Char) : Except Halt Reading :=
  let name := String.ofList (cs.takeWhile (· ≠ '='))
  match topic.flags.find? (·.long = name), cs.dropWhile (· ≠ '=') with
  | none, _ => .error .rejected
  | some flag, [] => r.meet topic flag true
  | some flag, _ :: value =>
    match flag.kind with
    | .path | .emitter => r.give flag (String.ofList value)
    | _ => .error .rejected

/-- Short flags in one word. What follows a flag with a value is its value, with or without an equals sign. -/
def readShort (topic : Topic) (r : Reading) : List Char → Except Halt Reading
  | [] => .ok r
  | c :: cs =>
    match topic.flags.find? (·.short = some c) with
    | none => .error .rejected
    | some flag =>
      match flag.kind, cs with
      | .path, '=' :: value | .emitter, '=' :: value => r.give flag (String.ofList value)
      | .path, v :: value | .emitter, v :: value => r.give flag (String.ofList (v :: value))
      | _, cs => do
        let r ← r.meet topic flag false
        readShort topic r cs

/-- Reads a word. A flag that waits for its value takes the next word, unless that looks like a flag. -/
def step (topic : Topic) (r : Reading) (word : String) : Except Halt Reading :=
  match r.waiting, r.closed, word.toList with
  | some _, _, '-' :: _ :: _ => .error .rejected
  | some flag, _, _ => r.give flag word
  | none, false, ['-', '-'] => .ok { r with closed := true }
  | none, false, '-' :: '-' :: cs => r.readLong topic cs
  | none, false, '-' :: c :: cs => r.readShort topic (c :: cs)
  | none, _, _ => .error .rejected

/-- Reads all words behind a command. -/
def ofWords (topic : Topic) (words : List String) : Except Halt Reading := do
  let r ← words.foldlM (step topic) {}
  if r.waiting.isSome then .error .rejected else .ok r

end Reading

def readGenerate (verbose : Bool) (words : List String) : Except Halt Invocation := do
  let r ← Reading.ofWords .generate words
  if r.has "library" && r.has "no-library" then .error .rejected
  let overrides : Overrides :=
    { source := r.path? "source", output := r.path? "output", templates := r.path? "templates",
      library := r.path? "library", noLibrary := r.has "no-library", emitter := r.emitter? "emitter" }
  return ⟨verbose || r.has "verbose", .generate overrides (r.path? "config")⟩

def readAnalyze (verbose : Bool) (words : List String) : Except Halt Invocation := do
  let r ← Reading.ofWords .analyze words
  return ⟨verbose || r.has "verbose", .analyze (r.path? "source") (r.has "print-ir") (r.path? "config")⟩

/-- Full help on the program or on one of its commands. -/
def readHelp : List String → Halt
  | [] => .help .program true
  | ["codegen"] => .help .generate true
  | ["analyze"] => .help .analyze true
  | ["help"] => .help .help true
  | _ => .rejected

def readWords (r : Reading) : List String → Except Halt Invocation
  | [] => .error .rejected
  | word :: rest =>
    match r.closed, word with
    | false, "codegen" => readGenerate (r.has "verbose") rest
    | false, "analyze" => readAnalyze (r.has "verbose") rest
    | false, "help" => .error (readHelp rest)
    | _, _ => do
      let r ← r.step .program word
      readWords r rest

/-- The command that a command line asks for. -/
def parse (words : List String) : Except Halt Invocation := readWords {} words

end StatusFrames.Command
