/-
Outlines of the headers: every name, type, number and include line of the output, ready to be written in either of the
two ways. Nothing is computed after this point.
-/
import StatusFrames.Files.Path

namespace StatusFrames

namespace Outline

/-- A header file: where it goes and what it includes. -/
structure Header where
  path : String
  guard : String
  systemIncludes : List String
  includes : List String
deriving DecidableEq, Repr

structure Constant where
  name : String
  value : String
  role : String
deriving DecidableEq, Repr

structure Enumerator where
  name : String
  value : Nat
  /-- Whether the value is written; otherwise counting on from the one before gives it. -/
  explicit : Bool
  role : String
deriving DecidableEq, Repr

structure Enumeration where
  typeName : String
  enumerators : List Enumerator
deriving DecidableEq, Repr

structure Prototype where
  returnType : String
  name : String
  params : List String
  role : String
deriving DecidableEq, Repr

structure Field where
  name : String
  declaredType : String
  storageType : String
  /-- The type that getter and setter use. -/
  apiType : String
  offset : Nat
  width : Nat
  isTypeCast : Bool
  isDeviceId : Bool
  enumType : Option Enumeration
  constants : List Constant
  getter : Prototype
  setter : Prototype
deriving DecidableEq, Repr

structure Frame where
  name : String
  id : UInt8
  typeName : String
  size : Nat
  sizeConstant : Constant
  sizeAssert : String
  typeId : Constant
  fieldIds : Enumeration
  fields : List Field
deriving DecidableEq, Repr

structure InstanceMember where
  frameType : String
  frameMember : String
  clockMember : String
deriving DecidableEq, Repr

structure Instance where
  header : Header
  typeName : String
  clockType : String
  members : List InstanceMember
  prototypes : List Prototype
deriving DecidableEq, Repr

structure Protocol where
  subsystem : String
  subsystemId : UInt8
  multiDevice : Bool
  /-- The file name shown in the header. -/
  source : String
  document : Files.Path
  header : Header
  frameIds : Enumeration
  frames : List Frame
  dispatch : List Prototype
  instanceOutline : Instance
deriving DecidableEq, Repr

end Outline

structure Outline where
  lead : String
  includeRoot : String
  common : Outline.Header
  subsystemIds : Outline.Enumeration
  utils : Outline.Header
  subsystemCount : Outline.Constant
  protocols : List Outline.Protocol
deriving DecidableEq, Repr

end StatusFrames
