import ToolBridge.Text.Number

/-!
# Failures

Why the operating system refused a request, and why the bridge could not
serve one.
-/

namespace ToolBridge

open ToolBridge.Text

/-- The operating system's refusals. -/
inductive OsError where
  | notFound
  | permissionDenied
  | alreadyExists
  | notADirectory
  | isADirectory
  | nameTooLong
  /-- A path with a zero character never reaches the system. -/
  | zeroInPath
  /-- Neither does a command with one. -/
  | zeroInCommand
  /-- A file was read as text and is not UTF-8. -/
  | notUtf8
  deriving DecidableEq, Repr

namespace OsError

/-- The system's number, for the errors that have one. -/
def code? : OsError → Option Nat
  | notFound => some 2
  | permissionDenied => some 13
  | alreadyExists => some 17
  | notADirectory => some 20
  | isADirectory => some 21
  | nameTooLong => some 36
  | zeroInPath => none
  | zeroInCommand => none
  | notUtf8 => none

def sentence : OsError → String
  | notFound => "No such file or directory"
  | permissionDenied => "Permission denied"
  | alreadyExists => "File exists"
  | notADirectory => "Not a directory"
  | isADirectory => "Is a directory"
  | nameTooLong => "File name too long"
  | zeroInPath => "file name contained an unexpected NUL byte"
  | zeroInCommand => "nul byte found in provided data"
  | notUtf8 => "stream did not contain valid UTF-8"

/-- The sentence with the number. -/
def message (error : OsError) : String :=
  match error.code? with
  | some code => error.sentence ++ " (os error " ++ numeral code ++ ")"
  | none => error.sentence

end OsError

/-- Why the bridge could not serve a request. -/
inductive Failure where
  /-- The toolchain could not be launched. -/
  | launch (command : String) (cause : OsError)
  /-- A scratch file could not be written or removed. -/
  | scratch (path : String) (cause : OsError)
  /-- A configuration file could not be read. -/
  | configUnreadable (path : String) (cause : OsError)
  /-- A configuration file holds no configuration. -/
  | configMalformed (path : String)
  /-- A path that does not end in the source extension. -/
  | notSource (path extension : String)
  deriving DecidableEq, Repr

namespace Failure

/-- What is said of a text that is not a configuration. -/
def malformedText : String := "TOML parse error"

/-- The operating system's part in a failure. -/
def cause? : Failure → Option String
  | launch _ cause => some cause.message
  | scratch _ cause => some cause.message
  | configUnreadable _ cause => some cause.message
  | configMalformed _ => some malformedText
  | notSource _ _ => none

/-- The failure in one sentence. -/
def message : Failure → String
  | launch command cause =>
      "failed to launch `" ++ command ++ "`: " ++ cause.message
  | scratch path cause => "scratch file " ++ path ++ ": " ++ cause.message
  | configUnreadable path cause =>
      "failed to read config " ++ path ++ ": " ++ cause.message
  | configMalformed path => "invalid config " ++ path ++ ": " ++ malformedText
  | notSource path extension =>
      "not a ." ++ extension ++ " source file: " ++ path

end Failure

end ToolBridge
