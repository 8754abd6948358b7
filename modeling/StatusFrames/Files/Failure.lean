/-
Why an operation on files fails.
-/
namespace StatusFrames.Files

inductive Failure
  | missing
  | alreadyThere
  | notAFolder
  | isAFolder
  | notText
  /-- A path, or a name on it, that is longer than can be. -/
  | tooLong
  /-- A path with a NUL character. -/
  | nulInPath
  /-- A walk over a folder that fails. -/
  | walk (folder : String) (cause : Failure)
deriving DecidableEq, Repr

def Failure.message : Failure → String
  | .missing => "No such file or directory (os error 2)"
  | .alreadyThere => "File exists (os error 17)"
  | .notAFolder => "Not a directory (os error 20)"
  | .isAFolder => "Is a directory (os error 21)"
  | .notText => "stream did not contain valid UTF-8"
  | .tooLong => "File name too long (os error 36)"
  | .nulInPath => "file name contained an unexpected NUL byte"
  | .walk folder cause => "IO error for operation on " ++ folder ++ ": " ++ cause.message

/-- The message, then those of the failures behind it. -/
def Failure.messages : Failure → List String
  | .walk folder cause => (Failure.walk folder cause).message :: cause.messages
  | e => [e.message]

end StatusFrames.Files
