/-
Headers written by way of templates. A folder may replace any of the built-in templates by a file of the same name.
-/
import StatusFrames.Artifacts
import StatusFrames.Files.Disk
import StatusFrames.Outline.Data
import StatusFrames.Template.BuiltIn
import StatusFrames.Template.Parsing
import StatusFrames.Template.Rendering

namespace StatusFrames.Emission

open Files (Disk)
open Template

/-- The text of a template: that of the replacement if there is one. -/
def templateText (disk : Disk) (folder : Option Files.Path) (t : BuiltIn) : Except CompileError String :=
  match folder with
  | none => .ok t.text
  | some folder =>
    let path := folder.join ⟨t.fileName⟩
    if disk.isFile path then (disk.readText path).mapError (.files path ·) else .ok t.text

def program (t : BuiltIn) (text : String) : Except CompileError (List Statement) :=
  match parse text with
  | some program => .ok program
  | none => .error (.render t.fileName .template)

/-- The programs of all templates, read in their fixed order. -/
def library (disk : Disk) (folder : Option Files.Path) : Except CompileError Library :=
  builtIns.mapM fun t => do
    let text ← templateText disk folder t
    let program ← program t text
    return (t.name, program)

/-- A header to render: the template, the outline of the file, and the data of its own. -/
structure Job where
  template : String
  header : Outline.Header
  fields : List (String × Data)

/-- What every template is given about its own file. -/
def headerFields (o : Outline) (header : Outline.Header) : List (String × Data) :=
  [("clibraries", Outline.texts header.systemIncludes), ("libraries", Outline.texts header.includes),
   ("guard", .text header.guard), ("prefix", .text o.lead)]

def jobs (o : Outline) : List Job :=
  let protocols := ("protocols", Data.ofList Outline.Protocol.toData o.protocols)
  o.protocols.flatMap (fun protocol =>
    [⟨"protocol", protocol.header, [("protocol", protocol.toData), protocols]⟩,
     ⟨"instance", protocol.instanceOutline.header, [("protocol", protocol.toData)]⟩]) ++
    [⟨"common", o.common, [protocols, ("subsystem_ids", o.subsystemIds.toData)]⟩,
     ⟨"utils", o.utils, [protocols, ("subsystem_count", o.subsystemCount.toData)]⟩]

def Job.render (job : Job) (library : Library) (o : Outline) : Except CompileError String :=
  match Template.render library job.template (job.fields ++ headerFields o job.header) with
  | .ok text => .ok text
  | .error _ => .error (.render job.header.path .template)

/-- Renders each header and puts it among the others before the next one is begun. -/
def renderAll (library : Library) (o : Outline) : Artifacts → List Job → Except CompileError Artifacts
  | artifacts, [] => .ok artifacts
  | artifacts, job :: rest => do
    let text ← job.render library o
    let artifacts ← artifacts.insert job.header.path text
    renderAll library o artifacts rest

/-- Writes the headers of an outline from templates. -/
def fromTemplates (disk : Disk) (folder : Option Files.Path) (o : Outline) : Except CompileError Artifacts := do
  let library ← library disk folder
  renderAll library o [] (jobs o)

end StatusFrames.Emission
