/-
Reading a protocol document from its text.
-/
import StatusFrames.Document
import StatusFrames.Yaml.Binding

namespace StatusFrames.Document

open Yaml

def literalOfValue (value : Value) : Except Fault Literal :=
  match Literal.ofValue? value with
  | some literal => .ok literal
  | none => .error (.mismatch "expected a boolean, an integer, a floating point number or an enum label")

def readLiteral (ctx : Context) (node : Node) : Reader Literal := do
  match literalOfValue (← readAny ctx node) with
  | .ok literal => pure literal
  | .error f => fault f

/-- The literal that a whole text denotes. The text is read to its end before its value is looked at. -/
def literalOfText (text : String) : Except ReadError Literal := do
  let value ← readDocument readAny text
  match literalOfValue value with
  | .ok literal => return literal
  | .error f => throw { fault := f }

/-- The two members of an enum value that is written as a mapping. Members may be named or numbered. -/
inductive EnumMember
  | name
  | value
  | ignored

def enumMember? : Value → Option EnumMember
  | .text s => some (if s = "name" then .name else if s = "value" then .value else .ignored)
  | .integer n => if n < 0 then none else some (if n = 0 then .name else if n = 1 then .value else .ignored)
  | _ => none

/-- Collects name and value; other members are ignored, and a member given twice is refused. -/
def enumMembers? : List (Value × Value) → Option String → Option Int → Option EnumValue
  | [], some name, some value => some ⟨name, some value⟩
  | [], _, _ => none
  | (key, member) :: rest, name, value =>
    match enumMember? key, member with
    | some .name, .text s => if name.isSome then none else enumMembers? rest (some s) value
    | some .value, .integer n =>
      if value.isSome || 0x8000000000000000 ≤ n then none else enumMembers? rest name (some n)
    | some .ignored, _ => enumMembers? rest name value
    | _, _ => none

/-- A label, or a mapping with name and value. -/
def EnumValue.ofValue? : Value → Option EnumValue
  | .text s => some ⟨s, none⟩
  | .map entries => enumMembers? entries none none
  | _ => none

def readEnumValue (ctx : Context) (node : Node) : Reader EnumValue := do
  match EnumValue.ofValue? (← readAny ctx node) with
  | some value => pure value
  | none => fault (.mismatch "expected an enum label or a mapping with `name` and `value`")

/-- A string, or nothing for null. -/
def readOptionalText : Context → Node → Reader (Option String) := readOptional (readText "a string")

structure CheckDraft where
  kind : Option CheckKind := none
  value : Option Literal := none
  min : Option Literal := none
  max : Option Literal := none
  result : Option String := none
  troubleshoot : Option String := none
  description : Option String := none

def readHealthCheck : Context → Node → Reader HealthCheck :=
  readRecord "struct HealthCheckDef"
    [⟨"type", []⟩, ⟨"value", []⟩, ⟨"min", []⟩, ⟨"max", []⟩, ⟨"result", []⟩, ⟨"troubleshoot", []⟩, ⟨"description", []⟩]
    ({} : CheckDraft)
    (fun d key ctx node =>
      match key with
      | "type" => do
        let kind ← readVariant [("exact", CheckKind.exact), ("range", CheckKind.range)] ctx node
        pure { d with kind := some kind }
      | "value" => do pure { d with value := ← readOptional readLiteral ctx node }
      | "min" => do pure { d with min := ← readOptional readLiteral ctx node }
      | "max" => do pure { d with max := ← readOptional readLiteral ctx node }
      | "result" => do pure { d with result := ← readOptionalText ctx node }
      | "troubleshoot" => do pure { d with troubleshoot := ← readOptionalText ctx node }
      | _ => do pure { d with description := ← readOptionalText ctx node })
    fun d => do
      let kind ← required "type" d.kind
      return ⟨kind, d.value, d.min, d.max, d.result, d.troubleshoot, d.description⟩

structure FieldDraft where
  name : Option String := none
  typeName : Option String := none
  initial : Option Literal := none
  values : List EnumValue := []
  healthChecks : List HealthCheck := []

def readField : Context → Node → Reader Field :=
  readRecord "struct FieldDef" [⟨"name", []⟩, ⟨"type", []⟩, ⟨"default", []⟩, ⟨"values", []⟩, ⟨"health_checks", []⟩]
    ({} : FieldDraft)
    (fun d key ctx node =>
      match key with
      | "name" => do pure { d with name := some (← readText "a string" ctx node) }
      | "type" => do pure { d with typeName := some (← readText "a string" ctx node) }
      | "default" => do pure { d with initial := ← readOptional readLiteral ctx node }
      | "values" => do pure { d with values := ← readList readEnumValue ctx node }
      | _ => do pure { d with healthChecks := ← readList readHealthCheck ctx node })
    fun d => do
      let name ← required "name" d.name
      let typeName ← required "type" d.typeName
      return ⟨name, typeName, d.initial, d.values, d.healthChecks⟩

structure FrameDraft where
  name : Option String := none
  frameId : Option UInt8 := none
  fields : List Field := []

def readFrame : Context → Node → Reader Frame :=
  readRecord "struct FrameDef" [⟨"name", []⟩, ⟨"frame_id", []⟩, ⟨"fields", []⟩] ({} : FrameDraft)
    (fun d key ctx node =>
      match key with
      | "name" => do pure { d with name := some (← readText "a string" ctx node) }
      | "frame_id" => do pure { d with frameId := some (← readByte ctx node) }
      | _ => do pure { d with fields := ← readList readField ctx node })
    fun d => do
      let name ← required "name" d.name
      let frameId ← required "frame_id" d.frameId
      return ⟨name, frameId, d.fields⟩

structure ProtocolDraft where
  subsystem : Option String := none
  subsystemId : Option UInt8 := none
  multiDevice : Bool := false
  frames : List Frame := []

def readProtocol : Context → Node → Reader Protocol :=
  readRecord "struct ProtocolDef"
    [⟨"subsystem", []⟩, ⟨"subsystem_id", []⟩, ⟨"multi_device", ["multiple_devices"]⟩, ⟨"frames", []⟩]
    ({} : ProtocolDraft)
    (fun d key ctx node =>
      match key with
      | "subsystem" => do pure { d with subsystem := some (← readText "a string" ctx node) }
      | "subsystem_id" => do pure { d with subsystemId := some (← readByte ctx node) }
      | "multi_device" => do pure { d with multiDevice := ← readBool ctx node }
      | _ => do pure { d with frames := ← readList readFrame ctx node })
    fun d => do
      let subsystem ← required "subsystem" d.subsystem
      let subsystemId ← required "subsystem_id" d.subsystemId
      return ⟨subsystem, subsystemId, d.multiDevice, d.frames⟩

/-- The top level of a document: the key `protocol` alone. -/
def readFile : Context → Node → Reader Protocol :=
  readRecord "struct ProtocolFile" [⟨"protocol", []⟩] (none : Option Protocol)
    (fun _ _ ctx node => do pure (some (← readProtocol ctx node)))
    (required "protocol")

end StatusFrames.Document
