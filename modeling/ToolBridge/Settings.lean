import ToolBridge.Config
import ToolBridge.Json.Decode
import ToolBridge.Text.Trim

/-!
# Settings of the editor

The editor sends settings at the start and with every change.  Each of them
may be missing, and what is missing leaves the configuration as it is.
-/

namespace ToolBridge

open ToolBridge.Json
open ToolBridge.Text

/-- The settings that an editor sent. -/
structure Settings where
  program : Option String := none
  extension : Option String := none
  syntaxErrorCode : Option Int := none
  checkArguments : Option (List String) := none
  runArguments : Option (List String) := none
  scratchDirectory : Option String := none
  deriving DecidableEq, Repr

namespace Settings

/-- The name under which the editor may wrap the settings. -/
def sectionName : String := "forgeLanguageServer"

/-- The names of the settings in their order. -/
def fieldNames : List String :=
  ["racketPath", "sourceExtension", "syntaxErrorExitCode", "checkArgs",
   "runArgs", "scratchDir"]

def isEmpty (settings : Settings) : Bool :=
  settings == {}

/-- Each setting as a value, with null for what is not set. -/
def toFields (settings : Settings) : List Json :=
  let texts := fun (texts : List String) => Json.array (texts.map Json.string)
  [.ofOption .string settings.program,
   .ofOption .string settings.extension,
   .ofOption .int settings.syntaxErrorCode,
   .ofOption texts settings.checkArguments,
   .ofOption texts settings.runArguments,
   .ofOption .string settings.scratchDirectory]

def toJson (settings : Settings) : Json :=
  .object (fieldNames.zip settings.toFields)

def ofSection? (value : Json) : Option Settings :=
  match record? fieldNames 0 value with
  | some [program, extension, code, checkArguments, runArguments,
      directory] => do
      return {
        program := ← optional string? program
        extension := ← optional string? extension
        syntaxErrorCode := ← optional int32? code
        checkArguments := ← optional (listOf? string?) checkArguments
        runArguments := ← optional (listOf? string?) runArguments
        scratchDirectory := ← optional string? directory }
  | _ => none

/-- The section of a message, which may be wrapped under its name. -/
def unwrap (value : Json) : Json :=
  (value.field? sectionName).getD value

/-- The settings that a message holds.  Null is a message without settings,
and a message of another shape holds none at all. -/
def ofJson? (value : Json) : Option Settings :=
  let content := unwrap value
  if content.isNull then some {} else ofSection? content

/-- A program that can be called: more than blanks. -/
def acceptedProgram (text : String) : Option String :=
  if isBlankText text.toList then none else some text

/-- An extension without leading dots, unless nothing is left. -/
def acceptedExtension (text : String) : Option String :=
  let trimmed := text.toList.dropWhile (· == '.')
  if trimmed.isEmpty then none else some (String.ofList trimmed)

/-- The configuration with these settings in place of its own. -/
def apply (settings : Settings) (config : Config) : Config :=
  { program := (settings.program.bind acceptedProgram).getD config.program
    extension :=
      (settings.extension.bind acceptedExtension).getD config.extension
    syntaxErrorCode := settings.syntaxErrorCode.getD config.syntaxErrorCode
    checkArguments := settings.checkArguments.getD config.checkArguments
    runArguments := settings.runArguments.getD config.runArguments
    scratchDirectory := settings.scratchDirectory <|> config.scratchDirectory }

end Settings

end ToolBridge
