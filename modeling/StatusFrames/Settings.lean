/-
The settings of a run. They come from the command line, from a settings file and from defaults, in this order of
precedence.
-/
import StatusFrames.Compiler

namespace StatusFrames

open Files (Disk Failure)
open Yaml

/-- The file that is looked for when the command line names none. -/
def defaultSettingsFile : Files.Path := ⟨"ksrp.yaml"⟩

/-- The library that is copied when none is named. -/
def defaultLibrary : Files.Path := ⟨"library_source"⟩

/-- What a settings file may say. -/
structure FileSettings where
  source : Option Files.Path := none
  output : Option Files.Path := none
  templates : Option Files.Path := none
  library : Option Files.Path := none
  includeRoot : Option String := none
  lead : Option String := none
  emitter : Option Emitter := none
deriving DecidableEq, Repr

/-- What the command line may say. -/
structure Overrides where
  source : Option Files.Path := none
  output : Option Files.Path := none
  templates : Option Files.Path := none
  library : Option Files.Path := none
  noLibrary : Bool := false
  emitter : Option Emitter := none
deriving DecidableEq, Repr

/-- Where the library comes from that is copied beside the headers. -/
inductive Library
  /-- A library that was named must be there. -/
  | named (folder : Files.Path)
  /-- The default library is left out if it is not there. -/
  | byDefault (folder : Files.Path)
  | disabled
deriving DecidableEq, Repr

structure Settings where
  file : Option Files.Path
  source : Files.Path
  output : Option Files.Path
  library : Library
  options : CompilerOptions
deriving DecidableEq, Repr

inductive SettingsError
  | unreadable (file : Files.Path) (failure : Failure)
  | malformed (file : Files.Path) (e : ReadError)
  | noSource
  | noOutput

/-- The message, then those of the failures behind it. -/
def SettingsError.messages : SettingsError → List String
  | .unreadable file failure => ("Failed to read config file " ++ file.text) :: failure.messages
  | .malformed file e => ["Failed to parse config file " ++ file.text, e.message]
  | .noSource =>
    ["No source directory given; pass --source or set `source_dir` in " ++ defaultSettingsFile.text]
  | .noOutput =>
    ["No output directory given; pass --output or set `output_dir` in " ++ defaultSettingsFile.text]

namespace FileSettings

def readPath (ctx : Context) (node : Node) : Reader (Option Files.Path) := do
  return (← readOptional (readText "path string") ctx node).map Files.Path.mk

def read : Context → Node → Reader FileSettings :=
  readRecord "struct FileConfig"
    [⟨"source_dir", []⟩, ⟨"output_dir", []⟩, ⟨"templates_dir", []⟩, ⟨"library_dir", []⟩, ⟨"include_root", []⟩,
      ⟨"prefix", []⟩, ⟨"emitter", []⟩]
    ({} : FileSettings)
    (fun s key ctx node =>
      match key with
      | "source_dir" => do pure { s with source := ← readPath ctx node }
      | "output_dir" => do pure { s with output := ← readPath ctx node }
      | "templates_dir" => do pure { s with templates := ← readPath ctx node }
      | "library_dir" => do pure { s with library := ← readPath ctx node }
      | "include_root" => do pure { s with includeRoot := ← readOptional (readText "a string") ctx node }
      | "prefix" => do pure { s with lead := ← readOptional (readText "a string") ctx node }
      | _ => do pure { s with emitter := ← readOptional (readVariant Emitter.byName) ctx node })
    pure

/-- Relative paths start from a folder. -/
def startingFrom (base : Files.Path) (s : FileSettings) : FileSettings :=
  { s with
    source := s.source.map base.join
    output := s.output.map base.join
    templates := s.templates.map base.join
    library := s.library.map base.join }

/-- Loads a settings file. Its paths start from the folder it is in. -/
def ofFile (disk : Disk) (file : Files.Path) : Except SettingsError FileSettings := do
  let text ← (disk.readText file).mapError (.unreadable file ·)
  let settings ← (readDocument read text).mapError (.malformed file ·)
  return settings.startingFrom (file.parent?.getD ⟨""⟩)

end FileSettings

namespace Settings

/-- The settings file of a run: the one that was named, or the default one if it is there. -/
def fileOf (disk : Disk) (named : Option Files.Path) : Option Files.Path :=
  match named with
  | some file => some file
  | none => if disk.isFile defaultSettingsFile then some defaultSettingsFile else none

def merge (file : Option Files.Path) (settings : FileSettings) (overrides : Overrides) :
    Except SettingsError Settings :=
  match overrides.source <|> settings.source with
  | none => .error .noSource
  | some source =>
    let library :=
      if overrides.noLibrary then .disabled
      else
        match overrides.library <|> settings.library with
        | some folder => .named folder
        | none => .byDefault defaultLibrary
    let defaults : CompilerOptions := {}
    .ok
      { file, source, library
        output := overrides.output <|> settings.output
        options :=
          { lead := settings.lead.getD defaults.lead
            includeRoot := settings.includeRoot.getD defaults.includeRoot
            emitter := (overrides.emitter <|> settings.emitter).getD defaults.emitter
            templates := overrides.templates <|> settings.templates } }

def resolve (disk : Disk) (named : Option Files.Path) (overrides : Overrides) : Except SettingsError Settings := do
  match fileOf disk named with
  | some file => merge (some file) (← FileSettings.ofFile disk file) overrides
  | none => merge none {} overrides

def requiredOutput (s : Settings) : Except SettingsError Files.Path :=
  match s.output with
  | some folder => .ok folder
  | none => .error .noOutput

end Settings

end StatusFrames
