import ToolBridge.Dict
import ToolBridge.Text.Literal

/-!
# Command-line arguments

A command line is a list of words.  Options may stand in front of the name of
a command and behind it, a value may be attached to its option or follow it,
short options may be drawn together, and two hyphens end the options.

Words are read from left to right, and the first thing that is wrong decides.
A value that follows its option is looked at only when the next option or
operand comes up, or at the end.
-/

namespace ToolBridge.CommandLine

open ToolBridge.Text

/-- How results are printed. -/
inductive Format where
  | text
  | json
  deriving DecidableEq, Repr

/-- What can be given on the command line. -/
inductive Parameter where
  | config
  | racket
  | verbose
  | help
  | version
  | format
  | active
  | file
  deriving DecidableEq, Repr

/-- What a parameter takes. -/
inductive ValueKind where
  /-- Nothing: it is there or not. -/
  | none
  /-- Any text. -/
  | text
  /-- A text that is not empty. -/
  | path
  /-- The name of a format. -/
  | format
  deriving DecidableEq, Repr

namespace Parameter

def long? : Parameter → Option String
  | config => some "config"
  | racket => some "racket"
  | verbose => some "verbose"
  | help => some "help"
  | version => some "version"
  | format => some "format"
  | active => some "active"
  | file => none

def short? : Parameter → Option Char
  | config => some 'c'
  | verbose => some 'v'
  | help => some 'h'
  | version => some 'V'
  | _ => none

def kind : Parameter → ValueKind
  | config => .path
  | racket => .text
  | verbose => .none
  | help => .none
  | version => .none
  | format => .format
  | active => .path
  | file => .path

end Parameter

def Format.ofName? (name : String) : Option Format :=
  if name = "text" then some .text
  else if name = "json" then some .json
  else none

namespace ValueKind

def accepts : ValueKind → String → Bool
  | .none, _ => false
  | .text, _ => true
  | .path, value => !value.isEmpty
  | .format, value => (Format.ofName? value).isSome

end ValueKind

/-- Why nothing is to be done. -/
inductive Halt where
  | help
  | version
  /-- The command line makes no sense. -/
  | misuse
  deriving DecidableEq, Repr

/-- What may be given at one place of the command line: options, perhaps one
operand, and perhaps the names of commands. -/
structure Level where
  options : List Parameter
  operand : Option Parameter
  commands : List String
  deriving Repr

/-- A parameter that was mentioned and not yet looked at: with its value, or
waiting for it. -/
inductive Pending where
  | nothing
  | value (parameter : Parameter) (text : String)
  | awaiting (parameter : Parameter)
  deriving DecidableEq, Repr

/-- What was read so far at one place. -/
structure Reading where
  given : Dict Parameter String := {}
  pending : Pending := .nothing
  deriving Repr

namespace Reading

/-- Take note of a parameter, which may be given only once. -/
def give (reading : Reading) (parameter : Parameter) (text : String) :
    Except Halt Reading :=
  if reading.given.contains parameter then .error .misuse
  else .ok ⟨reading.given.insert parameter text, .nothing⟩

/-- Look at the parameter that is pending. -/
def resolve (reading : Reading) : Except Halt Reading :=
  match reading.pending with
  | .nothing => .ok reading
  | .awaiting _ => .error .misuse
  | .value parameter text =>
      if parameter.kind.accepts text then reading.give parameter text
      else .error .misuse

/-- An option without a value. -/
def raise (reading : Reading) (parameter : Parameter) : Except Halt Reading := do
  let reading ← reading.resolve
  match parameter with
  | .help => throw .help
  | .version => throw .version
  | _ => reading.give parameter ""

/-- An option with a value attached to it. -/
def attach (reading : Reading) (parameter : Parameter) (text : String) :
    Except Halt Reading := do
  let reading ← reading.resolve
  if parameter.kind.accepts text then reading.give parameter text
  else throw .misuse

/-- An option whose value follows. -/
def await (reading : Reading) (parameter : Parameter) : Except Halt Reading := do
  let reading ← reading.resolve
  return { reading with pending := .awaiting parameter }

def operand (reading : Reading) (level : Level) (text : String) :
    Except Halt Reading := do
  match level.operand with
  | none => throw .misuse
  | some parameter =>
      let reading ← reading.resolve
      if reading.given.contains parameter then throw .misuse
      else return { reading with pending := .value parameter text }

/-- A long option, after its two hyphens. -/
def long (reading : Reading) (level : Level) (text : List Char) :
    Except Halt Reading :=
  let name := String.ofList (text.takeWhile (· != '='))
  match level.options.find? fun option => option.long? == some name with
  | none => .error .misuse
  | some parameter =>
      match text.dropWhile (· != '='), parameter.kind with
      | [], .none => reading.raise parameter
      | [], _ => reading.await parameter
      | _ :: _, .none => .error .misuse
      | _ :: value, _ => reading.attach parameter (String.ofList value)

/-- Short options that are drawn together.  The first one that takes a value
takes the rest. -/
def short (reading : Reading) (level : Level) :
    List Char → Except Halt Reading
  | [] => .ok reading
  | letter :: rest =>
      match level.options.find? fun option => option.short? == some letter with
      | none => .error .misuse
      | some parameter =>
          match parameter.kind, rest with
          | .none, rest =>
              match reading.raise parameter with
              | .ok reading => short reading level rest
              | .error halt => .error halt
          | _, [] => reading.await parameter
          | _, '=' :: value => reading.attach parameter (String.ofList value)
          | _, value => reading.attach parameter (String.ofList value)

/-- Is the last option waiting for its value? -/
def awaits? (reading : Reading) : Option Parameter :=
  match reading.pending with
  | .awaiting parameter => some parameter
  | _ => none

/-- A word that is not the name of a command. -/
def word (reading : Reading) (level : Level) (text : String) :
    Except Halt Reading :=
  match text.toList with
  | '-' :: '-' :: name => reading.long level name
  | '-' :: letter :: letters => reading.short level (letter :: letters)
  | _ =>
      match reading.awaits? with
      | some parameter =>
          .ok { reading with pending := .value parameter text }
      | none => reading.operand level text

def operands (reading : Reading) (level : Level) :
    List String → Except Halt Reading
  | [] => .ok reading
  | text :: rest =>
      match reading.operand level text with
      | .ok reading => operands reading level rest
      | .error halt => .error halt

/-- Read the words of one place, up to the name of a command.  The answer has
that name and the words behind it. -/
def words (reading : Reading) (level : Level) :
    List String → Except Halt (Reading × Option (String × List String))
  | [] => .ok (reading, none)
  | text :: rest =>
      if reading.awaits?.isNone && level.commands.contains text then
        .ok (reading, some (text, rest))
      else if text = "--" then
        match reading.operands level rest with
        | .ok reading => .ok (reading, none)
        | .error halt => .error halt
      else
        match reading.word level text with
        | .ok reading => words reading level rest
        | .error halt => .error halt

end Reading

/-- The options that may stand in front of a command and behind it. -/
def globalOptions : List Parameter := [.config, .racket, .verbose, .help]

def commandNames : List String := ["check", "run", "links", "config", "help"]

/-- What may stand in front of a command. -/
def topLevel : Level := ⟨globalOptions ++ [.version], none, commandNames⟩

/-- What may stand behind a command. -/
def commandLevel? (name : String) : Option Level :=
  if name = "check" then some ⟨globalOptions ++ [.format], some .file, []⟩
  else if name = "run" then some ⟨globalOptions, some .file, []⟩
  else if name = "links" then
    some ⟨globalOptions ++ [.active, .format], none, []⟩
  else if name = "config" then some ⟨globalOptions, none, []⟩
  else none

/-- What is to be done. -/
inductive Action where
  | check (file : String) (format : Format)
  | run (file : String)
  | links (active : String) (format : Format)
  | config
  deriving DecidableEq, Repr

/-- A command line that makes sense. -/
structure Invocation where
  config : Option String
  racket : Option String
  action : Action
  deriving DecidableEq, Repr

def formatOf (given : Dict Parameter String) : Format :=
  ((given.get? .format).bind Format.ofName?).getD .text

/-- The action of a command with its parameters, unless one is missing. -/
def actionOf? (name : String) (given : Dict Parameter String) : Option Action :=
  if name = "check" then
    (given.get? .file).map fun file => .check file (formatOf given)
  else if name = "run" then (given.get? .file).map .run
  else if name = "links" then
    (given.get? .active).map fun active => .links active (formatOf given)
  else some .config

/-- The words behind the command that shows how commands are used: nothing,
or one command. -/
def readHelp (words : List String) : Halt :=
  match words with
  | [] => .help
  | [name] => if commandNames.contains name then .help else .misuse
  | _ => .misuse

def readCommand (name : String) (words : List String) :
    Except Halt (Dict Parameter String × Action) := do
  match commandLevel? name with
  | none => throw (readHelp words)
  | some level =>
      let (reading, _) ← Reading.words {} level words
      let reading ← reading.resolve
      match actionOf? name reading.given with
      | some action => return (reading.given, action)
      | none => throw .misuse

/-- Read a command line.  What is given behind the command wins over what is
given in front of it. -/
def readArguments (words : List String) : Except Halt Invocation := do
  let (top, command) ← Reading.words {} topLevel words
  match command with
  | none => throw .misuse
  | some (name, rest) =>
      let (given, action) ← readCommand name rest
      let top ← top.resolve
      return {
        config := given.get? .config <|> top.given.get? .config
        racket := given.get? .racket <|> top.given.get? .racket
        action }

end ToolBridge.CommandLine
