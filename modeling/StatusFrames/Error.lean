/-
Everything that can be wrong with a compilation, as causes. The wording of each is in its `message`.
-/
import StatusFrames.Document
import StatusFrames.Files.Failure
import StatusFrames.Location
import StatusFrames.Naming.Owner
import StatusFrames.Yaml.Error

namespace StatusFrames

/-- What a name that must be an identifier names. -/
inductive NameKind
  | subsystem
  | frame
  | field
  | enumLabel
  | checkResult
deriving DecidableEq, Repr

def NameKind.text : NameKind → String
  | .subsystem => "subsystem name"
  | .frame => "frame name"
  | .field => "field name"
  | .enumLabel => "enum label"
  | .checkResult => "health check result"

/-- Why a field cannot hold a literal. -/
inductive LiteralFault
  | outside (literal : Literal) (low high : Int) (width : Nat)
  | notALabel (label : String)
  | notAValue (value : Int)
  | wrongClass (literal : Literal)

def LiteralFault.message : LiteralFault → String
  | .outside literal low high width =>
    literal.source ++ " is outside the range " ++ toString low ++ "..=" ++ toString high ++ " of a " ++
      toString width ++ "-byte field"
  | .notALabel label => "'" ++ label ++ "' is not one of the enum labels"
  | .notAValue value => toString value ++ " is not the value of any enum label"
  | .wrongClass literal => "'" ++ literal.source ++ "' does not match the field type"

/-- What is wrong with a document or a set of documents. -/
inductive Problem
  | unreadable (e : Yaml.ReadError)
  | badName (kind : NameKind) (name : String)
  | noFrames
  | duplicateFrame
  | frameIdTaken (id : UInt8) (frame : String)
  | noFields
  | duplicateField
  | reservedField
  | noEnumValues
  | duplicateLabel (label : String)
  | valuesNotAllowed (typeName : String)
  | tooManyLabels (count : Nat)
  | valueTooWide (label : String) (value : Int)
  | valueRepeated (label : String) (value : UInt8) (previous : String)
  | badInitial (fault : LiteralFault)
  | subsystemTaken (subsystem : String) (previous : Files.Path)
  | subsystemIdTaken (id : UInt8) (subsystem : String)
  | noDocuments

/-- Largest number of labels that one byte can number. -/
def maxEnumLabels : Nat := 256

def Problem.message : Problem → String
  | .unreadable e => "invalid protocol document: " ++ e.message
  | .badName kind name =>
    kind.text ++ " '" ++ name ++
      "' must contain only ASCII letters, digits and underscores and must not start with a digit"
  | .noFrames => "protocol declares no frames"
  | .duplicateFrame => "duplicate frame name"
  | .frameIdTaken id frame => "frame id " ++ toString id ++ " is already used by frame '" ++ frame ++ "'"
  | .noFields => "frame declares no fields"
  | .duplicateField => "duplicate field name"
  | .reservedField => "field name is reserved for the device id of multi-device protocols"
  | .noEnumValues => "enum field requires a non-empty `values` list"
  | .duplicateLabel label => "duplicate enum label '" ++ label ++ "'"
  | .valuesNotAllowed typeName => "`values` is only allowed on enum fields, not on '" ++ typeName ++ "'"
  | .tooManyLabels count =>
    "enum declares " ++ toString count ++ " labels but its 1-byte storage holds at most " ++ toString maxEnumLabels
  | .valueTooWide label value =>
    "enum label '" ++ label ++ "' has value " ++ toString value ++ " which does not fit the 1-byte storage"
  | .valueRepeated label value previous =>
    "enum label '" ++ label ++ "' repeats value " ++ toString value ++ " of label '" ++ previous ++ "'"
  | .badInitial fault => "invalid default: " ++ fault.message
  | .subsystemTaken subsystem previous => "subsystem '" ++ subsystem ++ "' is already defined in " ++ previous.text
  | .subsystemIdTaken id subsystem =>
    "subsystem id " ++ toString id ++ " is already used by subsystem '" ++ subsystem ++ "'"
  | .noDocuments => "directory contains no protocol documents (*.yaml, *.yml)"

/-- What is wrong with a health check. -/
inductive CheckFault
  | boundsOnExact
  | noValue
  | valueOnRange
  | noMin
  | noMax
  | literal (fault : LiteralFault)
  | inverted (min max : Literal)

def CheckFault.message : CheckFault → String
  | .boundsOnExact => "`exact` checks must not carry `min` or `max`"
  | .noValue => "`exact` check requires `value`"
  | .valueOnRange => "`range` checks must not carry `value`"
  | .noMin => "`range` check requires `min`"
  | .noMax => "`range` check requires `max`"
  | .literal fault => fault.message
  | .inverted min max => "`min` " ++ min.source ++ " is greater than `max` " ++ max.source

/-- Why a header cannot be rendered. -/
inductive RenderFault
  /-- A template is malformed or fails on its data. -/
  | template
  | producedTwice
deriving DecidableEq, Repr

def RenderFault.message : RenderFault → String
  | .template => "<reason>"
  | .producedTwice => "artifact path is produced twice"

/-- What is wrong with the options of a compilation. -/
inductive OptionFault
  | unknownEmitter (name : String)
  | badLead (lead : String)
  | badIncludeRoot (root : String)
deriving DecidableEq, Repr

def OptionFault.message : OptionFault → String
  | .unknownEmitter name => "unknown emitter '" ++ name ++ "' (expected 'template' or 'construct')"
  | .badLead lead => "prefix '" ++ lead ++ "' is not a valid C identifier"
  | .badIncludeRoot root => "include root '" ++ root ++ "' must be a non-empty relative path without '..'"

inductive CompileError
  | schema (location : Location) (problem : Problem)
  | unknownType (location : Location) (typeName : String)
  /-- The index counts the health checks of a field from one. -/
  | healthCheck (location : Location) (index : Nat) (fault : CheckFault)
  | nameCollision (symbol : String) (first second : Owner)
  | render (artifact : String) (fault : RenderFault)
  | files (path : Files.Path) (failure : Files.Failure)
  | options (fault : OptionFault)

namespace CompileError

def message : CompileError → String
  | .schema location problem => location.text ++ ": " ++ problem.message
  | .unknownType location typeName => location.text ++ ": unknown type '" ++ typeName ++ "'"
  | .healthCheck location index fault =>
    location.text ++ ": health check #" ++ toString index ++ ": " ++ fault.message
  | .nameCollision symbol first second =>
    "symbol '" ++ symbol ++ "' is produced by both " ++ first.text ++ " and " ++ second.text
  | .render artifact fault => "failed to render '" ++ artifact ++ "': " ++ fault.message
  | .files path failure => path.text ++ ": " ++ failure.message
  | .options fault => "configuration error: " ++ fault.message

/-- The message, then those of the failures behind it. -/
def messages : CompileError → List String
  | .files path failure => (CompileError.files path failure).message :: failure.messages
  | e => [e.message]

/-- The place of an error that belongs to one document. -/
def location? : CompileError → Option Location
  | .schema location _ => some location
  | .unknownType location _ => some location
  | .healthCheck location _ _ => some location
  | _ => none

end CompileError

end StatusFrames
