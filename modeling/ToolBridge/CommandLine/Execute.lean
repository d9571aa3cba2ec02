import ToolBridge.Bridge.Events
import ToolBridge.CommandLine.Arguments
import ToolBridge.CommandLine.Report
import ToolBridge.CommandLine.Terminal
import ToolBridge.ConfigFile
import ToolBridge.Wire.Link

/-!
# The commands

What each command does, given the files, the standard input and a toolchain.
The exit code is zero when nothing was found, one when the toolchain
complained, and two when the command could not be done.
-/

namespace ToolBridge.CommandLine

open ToolBridge.Text

/-- What a toolchain does when a command is launched, for the files at that
moment. -/
abbrev Toolchain (σ : Type) :=
  σ → Command → Except OsError (List ProcessEvent)

/-- The surroundings of a command. -/
structure Setting (σ : Type) where
  storage : σ
  /-- The system's directory for temporary files. -/
  temporary : String
  toolchain : Toolchain σ
  /-- The bytes on standard input. -/
  stdin : List UInt8 := []
  colors : Bool := false
  /-- Is the user going to interrupt a run that does not end? -/
  interrupted : Bool := false

/-- How a command ended. -/
structure Result (σ : Type) where
  storage : σ
  code : Nat
  transcript : Transcript

/-- The exit code of a command that could not be done. -/
def failureCode : Nat := 2

def interruptCode : Nat := 130

/-- Why a command could not be done. -/
inductive Trouble where
  | failure (reason : Failure)
  /-- A source file could not be read. -/
  | unreadable (path : String) (cause : OsError)
  /-- Standard input is not text. -/
  | stdin (cause : OsError)
  deriving DecidableEq, Repr

namespace Trouble

/-- What went wrong, followed by its cause. -/
def text : Trouble → String
  | .failure reason =>
      match reason.cause? with
      | some cause => reason.message ++ ": " ++ cause
      | none => reason.message
  | .unreadable path cause =>
      "failed to read " ++ path ++ ": " ++ cause.message
  | .stdin cause => "failed to read stdin: " ++ cause.message

end Trouble

variable {σ : Type} [Storage σ]

namespace Setting

def conclude (setting : Setting σ) (code : Nat) (transcript : Transcript) :
    Result σ :=
  ⟨setting.storage, code, transcript⟩

/-- The end of a command that could not be done. -/
def giveUp (setting : Setting σ) (transcript : Transcript)
    (trouble : Trouble) : Result σ :=
  setting.conclude failureCode
    (transcript.complain
      (paint setting.colors .boldRed "error:" ++ " " ++ trouble.text))

/-- The toolchain's answer to the launch of a command. -/
def launcher (setting : Setting σ) : Launcher σ :=
  fun storage command =>
    (setting.toolchain storage command).map fun _ => ()

/-- What the toolchain does for a command. -/
def events (setting : Setting σ) (storage : σ) (command : Command) :
    List ProcessEvent :=
  (setting.toolchain storage command).toOption.getD []

end Setting

def readSource (setting : Setting σ) (config : Config) (file : String) :
    Except Trouble Document :=
  if config.isSourcePath file then
    match Storage.read setting.storage file with
    | .ok text => .ok ⟨file, 0, text⟩
    | .error cause => .error (.unreadable file cause)
  else .error (.failure (.notSource file config.extension))

def openBridge (setting : Setting σ) (config : Config) : Bridge σ :=
  { storage := setting.storage
    scratch :=
      ⟨config.effectiveScratchDirectory setting.temporary, config.extension⟩ }

/-- Let a process that was just started do what it does. -/
def playProcess (setting : Setting σ) (bridge : Bridge σ)
    (effects : List Effect) : Bridge σ × List Effect :=
  let started := effects.findSome? fun effect =>
    match effect with
    | .launched process => some process
    | _ => none
  match started with
  | some process =>
      bridge.receiveAll process.generation
        (setting.events bridge.storage process.command)
  | none => (bridge, [])

/-- Check a document: what was found, and the files afterwards.  The scratch
file is removed whatever happened, if it can be. -/
def checkDocument (setting : Setting σ) (config : Config)
    (document : Document) : σ × Except Failure (List Diagnostic) :=
  let (bridge, request, _) := (openBridge setting config).ask ⟨document, 0⟩
  let (bridge, answer, effects) :=
    bridge.launch setting.launcher request config
  let (bridge, _) := playProcess setting bridge effects
  let diagnostics := bridge.publisher.held document.id
  let (bridge, _, _) := bridge.close document.id
  (bridge.storage, answer.map fun _ => diagnostics)

def printReport (colors : Bool) (format : Format) (file : String)
    (diagnostics : List Diagnostic) (transcript : Transcript) : Transcript :=
  let reports := diagnostics.map (Report.ofDiagnostic file)
  match format with
  | .json => transcript.printLine (Report.allJson reports)
  | .text =>
      if reports.isEmpty then
        transcript.printLine (paint colors .boldGreen "ok:" ++ " " ++ file)
      else
        reports.foldl
          (fun transcript report => transcript.printLine (report.text colors))
          transcript

def check (setting : Setting σ) (config : Config) (file : String)
    (format : Format) (transcript : Transcript) : Result σ :=
  match readSource setting config file with
  | .error trouble => setting.giveUp transcript trouble
  | .ok document =>
      match checkDocument setting config document with
      | (storage, .error failure) =>
          { setting with storage }.giveUp transcript (.failure failure)
      | (storage, .ok diagnostics) =>
          { setting with storage }.conclude (if diagnostics.isEmpty then 0 else 1)
            (printReport setting.colors format file diagnostics transcript)

/-- The outcome of a run that ended by itself. -/
def runOutcome? (effects : List Effect) : Option RunOutcome :=
  effects.findSome? fun effect =>
    match effect with
    | .ended _ outcome => outcome
    | _ => none

def run (setting : Setting σ) (config : Config) (file : String)
    (transcript : Transcript) : Result σ :=
  match readSource setting config file with
  | .error trouble => setting.giveUp transcript trouble
  | .ok document =>
      let (bridge, answer, effects) :=
        (openBridge setting config).start setting.launcher document file
          config
      let transcript := printEffects setting.colors transcript effects
      match answer with
      | .error failure => setting.giveUp transcript (.failure failure)
      | .ok _ =>
          let (bridge, effects) := playProcess setting bridge effects
          let transcript := printEffects setting.colors transcript effects
          match runOutcome? effects with
          | some outcome =>
              setting.conclude (if outcome.isSuccess then 0 else 1) transcript
          | none =>
              if setting.interrupted then
                let (_, _, effects) := bridge.stop
                setting.conclude interruptCode
                  (printEffects setting.colors transcript effects)
              else setting.conclude 1 transcript

def links (setting : Setting σ) (config : Config) (active : String)
    (format : Format) (transcript : Transcript) : Result σ :=
  match utf8Decode? setting.stdin with
  | none => setting.giveUp transcript (.stdin .notUtf8)
  | some text =>
      let text := String.ofList text
      let printed :=
        match format with
        | .text =>
            (Link.resolveNumbered config.extension text active).foldl
              (fun transcript entry =>
                transcript.printLine
                  (linkText setting.colors entry.1 entry.2))
              transcript
        | .json =>
            let links := Link.resolveAll config.extension text active
            transcript.printLine (Json.array (links.map Link.toJson)).pretty
      setting.conclude 0 printed

/-- The file that holds the configuration when none is named. -/
def configFile : String := ".frg.toml"

/-- A configuration with the toolchain that was named on the command line. -/
def override (racket : Option String) (config : Config) : Config :=
  { config with program := racket.getD config.program }

/-- The configuration of an invocation, and what was said about it.  A file
that was named has to be usable; one that was merely found is passed over
with a warning. -/
def loadConfig (setting : Setting σ) (isFile : String → Bool)
    (invocation : Invocation) : Except Failure (Config × Transcript) :=
  match invocation.config with
  | some path =>
      (Config.load path (Storage.read setting.storage path)).map fun config =>
        (override invocation.racket config, {})
  | none =>
      let found :=
        if isFile configFile then
          some (configFile, Storage.read setting.storage configFile)
        else none
      let (config, failure) := Config.loadOrStandard found
      let transcript :=
        match failure with
        | some failure =>
            Transcript.complain {}
              (paint setting.colors .boldYellow "warning:" ++ " " ++
                failure.message)
        | none => {}
      .ok (override invocation.racket config, transcript)

def perform (setting : Setting σ) (isFile : String → Bool)
    (invocation : Invocation) : Result σ :=
  match loadConfig setting isFile invocation with
  | .error failure => setting.giveUp {} (.failure failure)
  | .ok (config, transcript) =>
      match invocation.action with
      | .check file format => check setting config file format transcript
      | .run file => run setting config file transcript
      | .links active format => links setting config active format transcript
      | .config =>
          setting.conclude 0
            { transcript with stdout := transcript.stdout ++ config.toText }

/-- How the commands are used. -/
def usage : String :=
  "Diagnostics and runs for Forge models\n\n" ++
    "Usage: frg [OPTIONS] <COMMAND>\n\n" ++
    "Commands:\n" ++
    "  check <FILE> [--format <text|json>]\n" ++
    "  run <FILE>\n" ++
    "  links --active <ACTIVE> [--format <text|json>]\n" ++
    "  config\n" ++
    "  help [COMMAND]\n\n" ++
    "Options:\n" ++
    "  -c, --config <CONFIG>  Config file (default: ./.frg.toml when present)\n" ++
    "      --racket <RACKET>  Toolchain executable\n" ++
    "  -v, --verbose          Verbose logging on stderr\n" ++
    "  -h, --help             Print help\n" ++
    "  -V, --version          Print version\n"

def versionText : String := "frg 0.3.0\n"

/-- Do what a command line asks for. -/
def execute (setting : Setting σ) (isFile : String → Bool)
    (words : List String) : Result σ :=
  match readArguments words with
  | .ok invocation => perform setting isFile invocation
  | .error .help => setting.conclude 0 { stdout := usage }
  | .error .version => setting.conclude 0 { stdout := versionText }
  | .error .misuse => setting.conclude failureCode { stderr := usage }

end ToolBridge.CommandLine
