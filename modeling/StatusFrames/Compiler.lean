/-
A compilation: documents are put into order, laid out, outlined, checked for symbols that collide, and written.
-/
import StatusFrames.Document.Folder
import StatusFrames.Emission.Templates
import StatusFrames.Emission.Tree
import StatusFrames.Layout.Placement
import StatusFrames.Outline.Drafting
import StatusFrames.Outline.Symbols

namespace StatusFrames

open Files (Component Disk)

/-- The two ways to write headers. -/
inductive Emitter
  | template
  | construct
deriving DecidableEq, Repr

namespace Emitter

def word : Emitter → String
  | .template => "template"
  | .construct => "construct"

/-- The emitters by their names. -/
def byName : List (String × Emitter) := [("template", .template), ("construct", .construct)]

def ofName (name : String) : Except CompileError Emitter :=
  match byName.lookup name with
  | some emitter => .ok emitter
  | none => .error (.options (.unknownEmitter name))

end Emitter

structure CompilerOptions where
  lead : String := ({} : Naming).lead
  includeRoot : String := Outline.defaultIncludeRoot
  emitter : Emitter := .template
  /-- A folder with templates that replace the built-in ones. -/
  templates : Option Files.Path := none
deriving DecidableEq, Repr

/-- The include root stands in include lines and below the output folder, so it must be a plain relative path. -/
def checkIncludeRoot (root : String) : Except CompileError Unit :=
  let isName := fun (c : Component) =>
    match c with
    | .name _ => true
    | _ => false
  if root.isEmpty || !(Files.Path.mk root).components.all isName || root.toList.contains '\\' then
    .error (.options (.badIncludeRoot root))
  else .ok ()

/-- Options that have been checked. -/
structure Compiler where
  naming : Naming
  options : CompilerOptions

/-- What a compilation gives; nothing is on disk yet. -/
structure Compilation where
  protocols : List Layout.Protocol
  artifacts : Artifacts
  /-- Number of C symbols. -/
  symbols : Nat

namespace Compiler

def ofOptions (options : CompilerOptions) : Except CompileError Compiler := do
  if !Text.isIdentifier options.lead then .error (.options (.badLead options.lead))
  checkIncludeRoot options.includeRoot
  return ⟨⟨options.lead⟩, options⟩

/-- The layouts of all documents, by subsystem name. -/
def build (c : Compiler) (documents : List Document) : Except CompileError (List Layout.Protocol) := do
  let sorted := Document.sort documents
  Document.checkUnique sorted
  sorted.mapM (Layout.ofDocument c.naming)

/-- The outline of the output, whose symbols may still collide. -/
def outline (c : Compiler) (protocols : List Layout.Protocol) : Outline :=
  Outline.ofLayouts ⟨c.naming, c.options.includeRoot⟩ protocols

/-- The outline and the table of its symbols. -/
def checkedOutline (c : Compiler) (protocols : List Layout.Protocol) : Except CompileError (Outline × SymbolTable) := do
  let outline := c.outline protocols
  let symbols ← outline.symbolTable
  return (outline, symbols)

/-- Writes the headers of an outline. The disk is asked for templates only. -/
def emit (c : Compiler) (disk : Disk) (outline : Outline) : Except CompileError Artifacts :=
  match c.options.emitter with
  | .template => Emission.fromTemplates disk c.options.templates outline
  | .construct => Emission.fromTrees outline

def compile (c : Compiler) (disk : Disk) (documents : List Document) : Except CompileError Compilation := do
  let protocols ← c.build documents
  let (outline, symbols) ← c.checkedOutline protocols
  let artifacts ← c.emit disk outline
  return ⟨protocols, artifacts, symbols.size⟩

def compileFolder (c : Compiler) (disk : Disk) (folder : Files.Path) : Except CompileError Compilation := do
  let documents ← Document.ofFolder disk folder
  c.compile disk documents

end Compiler

end StatusFrames
