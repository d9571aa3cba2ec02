import ToolBridge.Proofs.CommandLine.Check
import ToolBridge.Proofs.Toml.Document

/-!
# The printed configuration can be loaded

The command that prints the configuration in force prints a configuration file.
Kept in a file and loaded again, it is the same configuration, whatever its
strings are.
-/

namespace ToolBridge

open ToolBridge.Text

namespace Config

variable {config : Config}

/-- The exit code has a place in 32 bits with its sign. -/
structure Sized (config : Config) : Prop where
  lower : -(Nat.pow 2 31 : Int) ≤ config.syntaxErrorCode
  upper : config.syntaxErrorCode < Nat.pow 2 31

/-- The table that a configuration is. -/
def entries (config : Config) : Toml.Entries :=
  [("racket_path", .string config.program),
   ("source_extension", .string config.extension),
   ("syntax_error_exit_code", .integer config.syntaxErrorCode),
   ("check_args", .array (config.checkArguments.map .string)),
   ("run_args", .array (config.runArguments.map .string))] ++
    (config.scratchDirectory.map fun directory =>
      ("scratch_dir", Toml.Item.string directory)).toList

theorem written_toText (sized : config.Sized) :
    Toml.Written config.toText.toList config.entries := by
  have code : Toml.ReadsAs Toml.depthLimit
      (signedNumeral config.syntaxErrorCode).toList
      (.integer config.syntaxErrorCode) := by
    obtain ⟨lower, upper⟩ := sized
    apply Toml.readsAs_integer
    · have wider : -(Nat.pow 2 63 : Int) ≤ -(Nat.pow 2 31 : Int) := by decide
      omega
    · have wider : (Nat.pow 2 31 : Int) ≤ Nat.pow 2 63 := by decide
      omega
  have string (text : String) := Toml.readsAs_string Toml.depthLimit text
  have strings (texts : List String) :
      Toml.ReadsAs Toml.depthLimit (Toml.writeStrings texts)
        (.array (texts.map .string)) :=
    Toml.readsAs_strings _ texts
  rw [toText, String.toList_ofList]
  simp only [List.append_assoc]
  apply Toml.Written.line ⟨by decide, by decide⟩ (string config.program)
  apply Toml.Written.line ⟨by decide, by decide⟩ (string config.extension)
  apply Toml.Written.line ⟨by decide, by decide⟩ code
  apply Toml.Written.line ⟨by decide, by decide⟩ (strings config.checkArguments)
  apply Toml.Written.line ⟨by decide, by decide⟩ (strings config.runArguments)
  cases config.scratchDirectory with
  | none => exact .nil
  | some directory =>
      have bare : Toml.Bare "scratch_dir" := ⟨by decide, by decide⟩
      have line := Toml.Written.line bare (string directory) .nil
      rwa [List.append_nil] at line

theorem stringsItem?_array (texts : List String) :
    stringsItem? (.array (texts.map .string)) = some texts := by
  have read : stringItem? ∘ Toml.Item.string = fun text => pure (id text) := rfl
  rw [stringsItem?, List.mapM_map, read, List.mapM_pure, List.map_id]
  rfl

theorem nodup_entries (config : Config) : (config.entries.map Prod.fst).Nodup := by
  unfold entries
  cases config.scratchDirectory with
  | none => simp
  | some directory => simp

theorem ofEntries?_entries (sized : config.Sized) :
    ofEntries? config.entries = some config := by
  have code : codeItem? (.integer config.syntaxErrorCode) =
      some config.syntaxErrorCode :=
    if_pos ⟨sized.lower, sized.upper⟩
  obtain ⟨program, extension, syntaxErrorCode, checkArguments, runArguments,
    scratchDirectory⟩ := config
  cases scratchDirectory with
  | none =>
      simp [ofEntries?, entries, fieldOr, Toml.lookup, stringItem?, code,
        stringsItem?_array, standard]
  | some directory =>
      simp [ofEntries?, entries, fieldOr, Toml.lookup, stringItem?, code,
        stringsItem?_array]

theorem ofText?_toText (sized : config.Sized) :
    ofText? config.toText = some config := by
  rw [ofText?, Toml.read_written (written_toText sized) (nodup_entries config)]
  exact ofEntries?_entries sized

theorem load_kept (sized : config.Sized) {tree : FileTree} {path : String}
    (wrote : (Storage.write tree path config.toText).2 = .ok ()) :
    load path (Storage.read (Storage.write tree path config.toText).1 path) =
      .ok config := by
  rw [FileTree.faithful.written wrote, load, ofText?_toText sized]

end Config

namespace CommandLine

theorem perform_config {σ : Type} [Storage σ] {setting : Setting σ}
    {isFile : String → Bool} {invocation : Invocation} {config : Config}
    {warned : Transcript} (asked : invocation.action = .config)
    (loaded : loadConfig setting isFile invocation = .ok (config, warned)) :
    (perform setting isFile invocation).code = 0 ∧
      (perform setting isFile invocation).transcript.stdout = config.toText := by
  have unprinted := stdout_of_loadConfig loaded
  simp [perform, loaded, asked, Setting.conclude, unprinted]

/-- A configuration that survives being printed, kept in a file and loaded. -/
structure ConfigRoundTrips (config : Config) : Prop where
  /-- The command prints the configuration in force. -/
  printed : ∀ {setting : Setting FileTree} {isFile : String → Bool}
      {invocation : Invocation} {warned : Transcript},
    invocation.action = .config →
      loadConfig setting isFile invocation = .ok (config, warned) →
        (perform setting isFile invocation).code = 0 ∧
          (perform setting isFile invocation).transcript.stdout = config.toText
  /-- Kept in a file, what is printed is the configuration. -/
  kept : ∀ {tree : FileTree} {path : String},
    (Storage.write tree path config.toText).2 = .ok () →
      Config.load path (Storage.read (Storage.write tree path config.toText).1 path) =
        .ok config
  /-- With the file in force, the same is printed once more. -/
  again : ∀ {setting : Setting FileTree} {isFile : String → Bool} {path : String},
    (Storage.write setting.storage path config.toText).2 = .ok () →
      let later :=
        { setting with storage := (Storage.write setting.storage path config.toText).1 }
      (perform later isFile ⟨some path, none, .config⟩).transcript.stdout =
        config.toText

/-- Every configuration can be printed, kept in a file and loaded, whatever its
strings hold. -/
theorem configRoundTrips_of_sized (config : Config) (sized : config.Sized) :
    ConfigRoundTrips config := by
  constructor
  · intro setting isFile invocation warned asked loaded
    exact perform_config asked loaded
  · intro tree path wrote
    exact Config.load_kept sized wrote
  · intro setting isFile path wrote later
    have loaded : loadConfig later isFile ⟨some path, none, .config⟩ =
        .ok (config, {}) := by
      simp only [loadConfig, later, Config.load_kept sized wrote]
      rfl
    exact (perform_config rfl loaded).2

/-- Strings that end in quotes, start with a line break, and hold what can stand in
no string. -/
def crowdedConfig : Config where
  program := "\n'''\"\"\"\""
  extension := ""
  syntaxErrorCode := -Nat.pow 2 31
  checkArguments := ["a\\'\"\"", "\r\n\t\x00\x7f", "''"]
  runArguments := []
  scratchDirectory := some "C:\\tmp"

theorem configRoundTrips_crowdedConfig :
    crowdedConfig.Sized ∧
      Config.load "c.toml"
          (Storage.read (Storage.write (⟨Dict.empty, []⟩ : FileTree) "c.toml"
            crowdedConfig.toText).1 "c.toml") =
        .ok crowdedConfig := by
  have sized : crowdedConfig.Sized := ⟨by decide, by decide⟩
  refine ⟨sized, (configRoundTrips_of_sized crowdedConfig sized).kept ?_⟩
  exact eq_ok_of_toOption (by decide +kernel)

end CommandLine

end ToolBridge
