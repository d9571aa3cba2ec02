import ToolBridge.Bridge.Basic
import ToolBridge.Bridge.Checking
import ToolBridge.Bridge.Events
import ToolBridge.Bridge.Running
import ToolBridge.Check
import ToolBridge.Command
import ToolBridge.CommandLine.Arguments
import ToolBridge.CommandLine.Execute
import ToolBridge.CommandLine.Paint
import ToolBridge.CommandLine.Report
import ToolBridge.CommandLine.Terminal
import ToolBridge.Config
import ToolBridge.ConfigFile
import ToolBridge.Console
import ToolBridge.Diagnostic
import ToolBridge.Dict
import ToolBridge.Digest.Sha256
import ToolBridge.Document
import ToolBridge.Domain.Composition
import ToolBridge.Domain.Direction
import ToolBridge.Domain.Joining
import ToolBridge.Domain.Label
import ToolBridge.Domain.Mapping
import ToolBridge.Domain.Punycode
import ToolBridge.Failure
import ToolBridge.FileTree
import ToolBridge.Json.Basic
import ToolBridge.Json.Decode
import ToolBridge.Json.Printer
import ToolBridge.Json.Reader
import ToolBridge.Json.Shape
import ToolBridge.Link
import ToolBridge.Location.Basic
import ToolBridge.Location.Chain
import ToolBridge.Location.Keys
import ToolBridge.Location.SourcePath
import ToolBridge.Location.Terse
import ToolBridge.Main
import ToolBridge.Number.Double
import ToolBridge.Number.Shortest
import ToolBridge.Path
import ToolBridge.Process.OutputStream
import ToolBridge.ProcessTable
import ToolBridge.Proofs.Bridge.ActiveRun
import ToolBridge.Proofs.Bridge.Chapters
import ToolBridge.Proofs.Bridge.CheckerCalls
import ToolBridge.Proofs.Bridge.Concordance
import ToolBridge.Proofs.Bridge.DocumentView
import ToolBridge.Proofs.Bridge.Failures
import ToolBridge.Proofs.Bridge.History
import ToolBridge.Proofs.Bridge.Independence
import ToolBridge.Proofs.Bridge.Narration
import ToolBridge.Proofs.Bridge.Operations
import ToolBridge.Proofs.Bridge.Records
import ToolBridge.Proofs.Bridge.Reporting
import ToolBridge.Proofs.Bridge.ScratchFiles
import ToolBridge.Proofs.Bridge.Separation
import ToolBridge.Proofs.Bridge.Staleness
import ToolBridge.Proofs.Bridge.Steps
import ToolBridge.Proofs.Bridge.Supersession
import ToolBridge.Proofs.Bridge.Survival
import ToolBridge.Proofs.Command.Templates
import ToolBridge.Proofs.CommandLine.Config
import ToolBridge.Proofs.Console.Notices
import ToolBridge.Proofs.Document.EmptySpans
import ToolBridge.Proofs.Document.OrderedPositions
import ToolBridge.Proofs.Document.Places
import ToolBridge.Proofs.Document.Positions
import ToolBridge.Proofs.Link.Anchors
import ToolBridge.Proofs.Link.Listing
import ToolBridge.Proofs.Link.Targets
import ToolBridge.Proofs.Location.Excerpts
import ToolBridge.Proofs.Location.Leading
import ToolBridge.Proofs.Location.Mentions
import ToolBridge.Proofs.Location.Preference
import ToolBridge.Proofs.Location.ReadBack
import ToolBridge.Proofs.Location.SourceNames
import ToolBridge.Proofs.Location.SourcePath
import ToolBridge.Proofs.Location.Spans
import ToolBridge.Proofs.Process.ErrorText
import ToolBridge.Proofs.Processes.Deeds
import ToolBridge.Proofs.Processes.History
import ToolBridge.Proofs.Processes.Isolation
import ToolBridge.Proofs.Publisher.Refinement
import ToolBridge.Proofs.Scratch.Names
import ToolBridge.Proofs.Scratch.Places
import ToolBridge.Proofs.Sequencer.Currency
import ToolBridge.Proofs.Server.Calls
import ToolBridge.Proofs.Server.Coherence
import ToolBridge.Proofs.Server.Dispatching
import ToolBridge.Proofs.Server.Frames
import ToolBridge.Proofs.Server.Freshness
import ToolBridge.Proofs.Server.Launching
import ToolBridge.Proofs.Server.SettingsHistory
import ToolBridge.Proofs.Server.Shutdown
import ToolBridge.Proofs.Server.Tidiness
import ToolBridge.Proofs.Storage.FileTree
import ToolBridge.Proofs.Storage.Files
import ToolBridge.Proofs.Text.Lines
import ToolBridge.Proofs.Text.Literal
import ToolBridge.Proofs.Text.Number
import ToolBridge.Proofs.Text.Utf8
import ToolBridge.Proofs.Timeline
import ToolBridge.Proofs.Toml.Document
import ToolBridge.Proofs.Toml.Strings
import ToolBridge.Proofs.Toml.Values
import ToolBridge.Proofs.Wire.ReadBack
import ToolBridge.Publisher
import ToolBridge.Scenario.Bridge
import ToolBridge.Scenario.CommandLine
import ToolBridge.Scenario.Processes
import ToolBridge.Scenario.Script
import ToolBridge.Scenario.Server
import ToolBridge.Scenario.Workplace
import ToolBridge.Scratch
import ToolBridge.Sequencer
import ToolBridge.Server.Basic
import ToolBridge.Server.Commands
import ToolBridge.Server.Dispatch
import ToolBridge.Server.Documents
import ToolBridge.Server.Message
import ToolBridge.Server.Rpc
import ToolBridge.Server.Shapes.Basic
import ToolBridge.Server.Shapes.Capabilities
import ToolBridge.Server.Shapes.Requests
import ToolBridge.Server.Tasks
import ToolBridge.Settings
import ToolBridge.Storage
import ToolBridge.Text.CharClass
import ToolBridge.Text.Hex
import ToolBridge.Text.Lines
import ToolBridge.Text.Literal
import ToolBridge.Text.Number
import ToolBridge.Text.RangeTable
import ToolBridge.Text.Trim
import ToolBridge.Text.Units
import ToolBridge.Text.Utf8
import ToolBridge.Toml.Basic
import ToolBridge.Toml.Printer
import ToolBridge.Toml.Quoted
import ToolBridge.Toml.Reader
import ToolBridge.Toml.Scalar
import ToolBridge.Uri.Basic
import ToolBridge.Uri.Host
import ToolBridge.Uri.Percent
import ToolBridge.Wire.Diagnostic
import ToolBridge.Wire.Link
