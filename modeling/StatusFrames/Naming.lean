/-
Every C name of the output, made from the names of subsystem, frame and field. Types and functions have capitalized
parts, constants have upper-case parts, and all start with the same word.
-/
import StatusFrames.Naming.Case

namespace StatusFrames

/-- How names are made: all start with `lead`. -/
structure Naming where
  lead : String := "KSRP"
deriving DecidableEq, Repr

namespace Naming

/-- The leading word and the given parts, with underscores between them. -/
def symbol (n : Naming) (parts : List String) : String :=
  n.lead ++ "_" ++ "_".intercalate parts

/-! Types -/

def enumType (n : Naming) (subsystem frame field : String) : String :=
  n.symbol [camel subsystem, camel frame, camel field]

def frameType (n : Naming) (subsystem frame : String) : String :=
  n.symbol [camel subsystem, camel frame, "Frame"]

def fieldIdType (n : Naming) (subsystem frame : String) : String :=
  n.symbol [camel subsystem, camel frame, "FieldID"]

def frameIdType (n : Naming) (subsystem : String) : String :=
  n.symbol [camel subsystem, "FrameID"]

def instanceType (n : Naming) (subsystem : String) : String :=
  n.symbol [camel subsystem, "Instance"]

def subsystemIdType (n : Naming) : String := n.symbol ["SubsystemID"]

/-! Constants -/

def subsystemId (n : Naming) (subsystem : String) : String :=
  n.symbol [upper subsystem, "SUBSYSTEM_ID"]

def subsystemCount (n : Naming) : String := n.symbol ["SUBSYSTEM_COUNT"]

def frameId (n : Naming) (subsystem frame : String) : String :=
  n.symbol [upper subsystem, upper frame, "FRAME_ID"]

def frameSize (n : Naming) (subsystem frame : String) : String :=
  n.symbol [upper subsystem, upper frame, "FRAME_SIZE"]

def typeId (n : Naming) (subsystem frame : String) : String :=
  n.symbol [upper subsystem, upper frame, "TYPE_ID"]

def fieldId (n : Naming) (subsystem frame field : String) : String :=
  n.symbol [upper subsystem, upper frame, upper field, "FIELD_ID"]

def enumLabel (n : Naming) (subsystem frame field label : String) : String :=
  n.symbol [upper subsystem, upper frame, upper field, upper label]

def initialValue (n : Naming) (subsystem frame field : String) : String :=
  n.symbol [upper subsystem, upper frame, upper field, "DEFAULT"]

/-- Named for the result of the check, or for its position if it has none. -/
def healthCheck (n : Naming) (subsystem frame field : String) (result : Option String) (position : Nat) : String :=
  let label :=
    match result with
    | some result => upper result
    | none => toString position
  n.symbol [upper subsystem, upper frame, upper field, "HEALTH_CHECK", label]

/-! Functions -/

def getter (n : Naming) (subsystem frame field : String) : String :=
  n.symbol ["Get", camel subsystem, camel frame, camel field]

def setter (n : Naming) (subsystem frame field : String) : String :=
  n.symbol ["Set", camel subsystem, camel frame, camel field]

def frameSizeLookup (n : Naming) (subsystem : String) : String :=
  n.symbol ["FrameSize", camel subsystem]

def typeIdCheck (n : Naming) (subsystem : String) : String :=
  n.symbol ["IsTypeIDOf", camel subsystem]

def instanceFunction (n : Naming) (subsystem operation : String) : String :=
  n.symbol [camel subsystem, "Instance", operation]

/-! Files -/

def headerGuard (n : Naming) (stem : String) : String := n.symbol [upper stem, "H_"]

end Naming

end StatusFrames
