/-! What an operation on files may be refused with. -/
namespace DeviceLab

inductive OsError where
  | notFound
  | denied
  | taken
  | notDirectory
  | isDirectory
  | nameTooLong
  | argumentsTooLong
  /-- A program that is none. -/
  | badFormat
  | notEmpty
  /-- A path may not hold the character NUL. -/
  | nulInPath
  /-- A program's argument may not either. -/
  | nulInArgument
  /-- The file is no text. -/
  | notText
  deriving DecidableEq

/-- What is wrong, in words. -/
def OsError.reason : OsError → String
  | .notFound => "No such file or directory"
  | .argumentsTooLong => "Argument list too long"
  | .badFormat => "Exec format error"
  | .denied => "Permission denied"
  | .taken => "File exists"
  | .notDirectory => "Not a directory"
  | .isDirectory => "Is a directory"
  | .nameTooLong => "File name too long"
  | .notEmpty => "Directory not empty"
  | .nulInPath => "file name contained an unexpected NUL byte"
  | .nulInArgument => "nul byte found in provided data"
  | .notText => "stream did not contain valid UTF-8"

/-- The number the operating system has for it, if that is who refuses. -/
def OsError.number : OsError → Option Nat
  | .notFound => some 2
  | .argumentsTooLong => some 7
  | .badFormat => some 8
  | .denied => some 13
  | .taken => some 17
  | .notDirectory => some 20
  | .isDirectory => some 21
  | .nameTooLong => some 36
  | .notEmpty => some 39
  | .nulInPath | .nulInArgument | .notText => none

/-- What a message about the refusal says. -/
def OsError.text (e : OsError) : String :=
  match e.number with
  | some n => e.reason ++ " (os error " ++ toString n ++ ")"
  | none => e.reason

end DeviceLab
