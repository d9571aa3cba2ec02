import ToolBridge.Server.Basic

/-!
# Documents and settings

The editor opens, changes and closes documents, and changes the settings.
-/

namespace ToolBridge.Server

variable {σ : Type} [Storage σ]

/-- Keep a snapshot of a document in place of the last one, and ask for its
check under the settings of the moment. -/
def store (server : Server σ) (document : Document) :
    Server σ × List Reaction :=
  let stamp := server.stamps + 1
  let server :=
    { server with
      stamps := stamp
      documents := server.documents.insert document.id ⟨document, stamp⟩ }
  let (server, request, reactions) := server.ask ⟨document, stamp⟩
  (server.enqueue (.check request server.config), reactions)

/-- A document is closed.  A scratch file that cannot be removed is left where
it is. -/
def closeDocument (server : Server σ) (id : String) :
    Server σ × List Reaction :=
  let server := { server with documents := server.documents.erase id }
  let (bridge, _, effects) := server.bridge.close id
  server.absorb bridge effects

/-- New settings are in force from now on. -/
def applySettings (server : Server σ) (settings : Settings) : Server σ :=
  let config := settings.apply server.config
  { server with
    config
    settings := server.settings + 1
    bridge :=
      server.bridge.retarget
        (config.effectiveScratchDirectory server.machine.temporary)
        config.extension }

/-- The start of the warning about settings that cannot be read. -/
def ignoredSettings : String := "Ignoring invalid settings: "

/-- The warning about a message without settings that can be read. -/
def settingsWarning (machine : Machine) (value : Json) : Reaction :=
  .send (.log .warning
    (ignoredSettings ++ machine.complaint (Settings.unwrap value)))

/-- The settings in a message.  What cannot be read is ignored with a
warning. -/
def readSettings (machine : Machine) (value : Json) :
    Option Settings × List Reaction :=
  match Settings.ofJson? value with
  | some settings => (some settings, [])
  | none => (none, [settingsWarning machine value])

def changeSettings (server : Server σ) (value : Json) :
    Server σ × List Reaction :=
  match readSettings server.machine value with
  | (some settings, reactions) =>
      if settings.isEmpty then (server, reactions)
      else ((server.applySettings settings).enqueue .revalidate, reactions)
  | (none, reactions) => (server, reactions)

end ToolBridge.Server
