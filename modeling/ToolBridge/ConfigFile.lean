import ToolBridge.Config
import ToolBridge.Failure
import ToolBridge.Toml.Printer
import ToolBridge.Toml.Reader

/-!
# Configuration files

A configuration file may set each field of the configuration; what it does
not set has its standard value.  Unknown keys are ignored.
-/

namespace ToolBridge.Config

open ToolBridge.Text

def stringItem? : Toml.Item → Option String
  | .string text => some text
  | _ => none

/-- A signed integer of 32 bits. -/
def codeItem? : Toml.Item → Option Int
  | .integer value =>
      if -(Nat.pow 2 31 : Int) ≤ value ∧ value < Nat.pow 2 31 then some value
      else none
  | _ => none

def stringsItem? : Toml.Item → Option (List String)
  | .array items => items.mapM stringItem?
  | _ => none

/-- The value of a field, or its standard value when it is not set. -/
def fieldOr {α : Type} (entries : Toml.Entries) (key : String)
    (read : Toml.Item → Option α) (standard : α) : Option α :=
  match Toml.lookup key entries with
  | some item => read item
  | none => some standard

def ofEntries? (entries : Toml.Entries) : Option Config := do
  return {
    program := ← fieldOr entries "racket_path" stringItem? standard.program
    extension :=
      ← fieldOr entries "source_extension" stringItem? standard.extension
    syntaxErrorCode :=
      ← fieldOr entries "syntax_error_exit_code" codeItem?
        standard.syntaxErrorCode
    checkArguments :=
      ← fieldOr entries "check_args" stringsItem? standard.checkArguments
    runArguments :=
      ← fieldOr entries "run_args" stringsItem? standard.runArguments
    scratchDirectory :=
      ← fieldOr entries "scratch_dir" (fun item => (stringItem? item).map some)
        standard.scratchDirectory }

def ofText? (text : String) : Option Config :=
  match Toml.read text.toList with
  | some entries => ofEntries? entries
  | none => none

/-- The text of a configuration, with every field that is set. -/
def toText (config : Config) : String :=
  String.ofList
    (Toml.writeLine "racket_path" (Toml.writeString config.program.toList) ++
      Toml.writeLine "source_extension"
        (Toml.writeString config.extension.toList) ++
      Toml.writeLine "syntax_error_exit_code"
        (signedNumeral config.syntaxErrorCode).toList ++
      Toml.writeLine "check_args" (Toml.writeStrings config.checkArguments) ++
      Toml.writeLine "run_args" (Toml.writeStrings config.runArguments) ++
      match config.scratchDirectory with
      | some directory =>
          Toml.writeLine "scratch_dir" (Toml.writeString directory.toList)
      | none => [])

/-- Load a configuration file, given what reading it yields. -/
def load (path : String) (content : Except OsError String) :
    Except Failure Config :=
  match content with
  | .error cause => .error (.configUnreadable path cause)
  | .ok text =>
      match ofText? text with
      | some config => .ok config
      | none => .error (.configMalformed path)

/-- The configuration of a file that may be missing or unusable, and the
failure if there was one. -/
def loadOrStandard (file : Option (String × Except OsError String)) :
    Config × Option Failure :=
  match file with
  | some (path, content) =>
      match load path content with
      | .ok config => (config, none)
      | .error failure => (standard, some failure)
  | none => (standard, none)

end ToolBridge.Config
