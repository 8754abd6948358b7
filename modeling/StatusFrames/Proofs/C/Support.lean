/-
The support library that generated headers include: what its two headers declare for everyone who includes them.
-/
import StatusFrames.Decimal.Reading

namespace StatusFrames.C

/-- The global names of a header, by what they are. -/
structure Interface where
  guard : String
  /-- Macros without parameters, with the text that each stands for. -/
  macros : List (String × String) := []
  /-- Macros with parameters. -/
  functionMacros : List String := []
  /-- Enumerations with their constants. -/
  enumerations : List (String × List String) := []
  /-- All other types. -/
  types : List String := []
  functions : List String := []

def Interface.names (h : Interface) : List String :=
  h.guard :: h.macros.map (·.1) ++ h.functionMacros ++ h.enumerations.flatMap (fun e => e.1 :: e.2) ++ h.types ++
    h.functions

/-- The value of an integer constant in hexadecimal digits. -/
def hexadecimal? (text : String) : Option Nat :=
  match text.toList with
  | '0' :: 'x' :: digits => Decimal.natural? 16 digits
  | _ => none

namespace Support

/-- What `common.h` declares. -/
def common : Interface where
  guard := "KALMAN_STATUS_REPORT_PROTOCOL_COMMON_H_"
  macros := [("KSRP_ID_BYTES", "2")]
  enumerations :=
    [("KSRP_HealthCheckResult",
      ["KSRP_RESULT_OK", "KSRP_RESULT_WARNING", "KSRP_RESULT_CRITICAL", "KSRP_RESULT_UNKNOWN"])]

/-- What `frames.h` declares besides, which includes the other one. -/
def frames : Interface where
  guard := "KALMAN_STATUS_REPORT_PROTOCOL_FRAMES_H_"
  macros := [("KSRP_ILLEGAL_TYPE_ID", "0xFFFF")]
  functionMacros := ["KSRP_MAKE_TYPE_ID", "KSRP_GET_SUBSYSTEM_ID_FROM_TYPE_ID", "KSRP_GET_FRAME_ID_FROM_TYPE_ID"]
  enumerations :=
    [("KSRP_Status",
      ["KSRP_STATUS_OK", "KSRP_STATUS_INVALID_DATA_SIZE", "KSRP_STATUS_INVALID_FRAME_TYPE",
        "KSRP_STATUS_INVALID_FIELD_TYPE", "KSRP_STATUS_ERROR"])]
  types := ["KSRP_RawData_Frame", "KSRP_TypeID"]
  functions :=
    ["KSRP_RawDataFrame_Init", "KSRP_RawDataFrame_Append", "KSRP_RawDataFrame_GetTypeID", "KSRP_RawDataFrame_Clear"]

/-- All names that the library takes. -/
def names : List String := common.names ++ frames.names

/-- The type id that no frame may have. -/
def illegalTypeId? : Option Nat := (frames.macros.lookup "KSRP_ILLEGAL_TYPE_ID").bind hexadecimal?

theorem illegalTypeId?_eq : illegalTypeId? = some 0xFFFF := by decide +kernel

end Support

end StatusFrames.C
