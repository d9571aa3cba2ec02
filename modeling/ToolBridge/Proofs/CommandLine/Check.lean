import ToolBridge.CommandLine.Execute
import ToolBridge.Proofs.Bridge.Endings
import ToolBridge.Proofs.Storage.Files

/-!
# Checking a file from the command line

The exit code of a check says whether the tool could be asked at all and
whether it complained, and what is printed is what it complained about.  The
scratch file is gone afterwards, however far the check came.
-/

namespace ToolBridge

open ToolBridge.Text

namespace Bridge

theorem held_published {id : String} {diagnostics : List Diagnostic}
    {publisher : Publisher}
    (bare : publisher.sets id = {}) :
    (publisher.replace .check id diagnostics).1.held id = diagnostics := by
  rw [Publisher.held_eq_append, Publisher.sets_replace, if_pos rfl, bare]
  exact List.append_nil diagnostics

end Bridge

namespace CommandLine

section Storages

variable {σ : Type} [Storage σ]

def scratchPath (setting : Setting σ) (config : Config) (file : String) :
    String :=
  Scratch.pathFor
    ⟨config.effectiveScratchDirectory setting.temporary, config.extension⟩ file

/-- The files, and the answer, after a text was put into the scratch file. -/
def filed (setting : Setting σ) (config : Config) (document : Document) :
    σ × Except OsError Unit :=
  Storage.write setting.storage (scratchPath setting config document.id) document.text

/-- What the tool does when it is asked to check the scratch file. -/
def toolAnswer (setting : Setting σ) (config : Config) (document : Document) :
    Except OsError (List ProcessEvent) :=
  setting.toolchain (filed setting config document).1
    (config.checkCommand (scratchPath setting config document.id))

variable {setting : Setting σ} {config : Config} {document : Document}

/-- The bridge of a command after it was asked for a check. -/
def askedBridge (setting : Setting σ) (config : Config) (document : Document) :
    Bridge σ :=
  ((openBridge setting config).ask ⟨document, 0⟩).1

def askedRequest (document : Document) : CheckRequest :=
  ⟨⟨document, 0⟩, 1⟩

omit [Storage σ] in
theorem isCurrent_asked :
    (askedBridge setting config document).isCurrent (askedRequest document) = true :=
  Bridge.isCurrent_iff.mpr (Dict.get?_insert_self _ _ _)

/-- A check is a launch, what the process does, and a close. -/
theorem checkDocument_of_launch {bridge : Bridge σ}
    {answer : Except Failure Launch} {effects : List Effect}
    (launched : (askedBridge setting config document).launch setting.launcher
      (askedRequest document) config = (bridge, answer, effects)) :
    checkDocument setting config document =
      (((playProcess setting bridge effects).1.close document.id).1.storage,
        answer.map fun _ =>
          (playProcess setting bridge effects).1.publisher.held document.id) := by
  have asked : (openBridge setting config).ask ⟨document, 0⟩ =
      (askedBridge setting config document, askedRequest document,
        [.deliver ⟨document.id, []⟩]) := rfl
  unfold checkDocument
  rw [asked]
  dsimp only
  rw [launched]

/-- The close at the end removes the scratch file, whatever the process did. -/
theorem storage_close_playProcess {bridge : Bridge σ} (effects : List Effect)
    (target : bridge.scratch =
      ⟨config.effectiveScratchDirectory setting.temporary, config.extension⟩) :
    ((playProcess setting bridge effects).1.close document.id).1.storage =
      (Storage.remove bridge.storage (scratchPath setting config document.id)).1 := by
  have same : (playProcess setting bridge effects).1.storage = bridge.storage ∧
      (playProcess setting bridge effects).1.scratch = bridge.scratch := by
    unfold playProcess
    dsimp only
    split
    · exact ⟨Bridge.storage_receiveAll bridge _ _,
        Bridge.scratch_receiveAll bridge _ _⟩
    · exact ⟨rfl, rfl⟩
  change (Storage.remove (playProcess setting bridge effects).1.storage
    ((playProcess setting bridge effects).1.scratch.pathFor document.id)).1 = _
  rw [same.1, same.2, target]
  rfl

theorem filed_eq {answer : Except OsError Unit}
    (answered : (filed setting config document).2 = answer) :
    Storage.write (askedBridge setting config document).storage
        ((askedBridge setting config document).scratch.pathFor
          (askedRequest document).id)
        (askedRequest document).document.text =
      ((filed setting config document).1, answer) := by
  rw [← answered]
  rfl

theorem checkDocument_of_unwritten {cause : OsError}
    (refused : (filed setting config document).2 = .error cause) :
    checkDocument setting config document =
      ((Storage.remove (filed setting config document).1
        (scratchPath setting config document.id)).1,
        .error (.scratch (scratchPath setting config document.id) cause)) := by
  have launched : (askedBridge setting config document).launch setting.launcher
      (askedRequest document) config = _ :=
    Bridge.launch_of_unwritten isCurrent_asked (filed_eq refused) config
  rw [checkDocument_of_launch launched, storage_close_playProcess [] rfl]
  rfl

theorem checkDocument_of_refused {cause : OsError}
    (wrote : (filed setting config document).2 = .ok ())
    (refused : toolAnswer setting config document = .error cause) :
    checkDocument setting config document =
      ((Storage.remove (filed setting config document).1
        (scratchPath setting config document.id)).1,
        .error (.launch (config.checkCommand
          (scratchPath setting config document.id)).display cause)) := by
  have unstarted : setting.launcher (filed setting config document).1
      (config.checkCommand (scratchPath setting config document.id)) = .error cause :=
    congrArg (Except.map fun _ => ()) refused
  have launched := Bridge.launch_of_refused isCurrent_asked (filed_eq wrote)
    unstarted
  rw [checkDocument_of_launch launched, storage_close_playProcess _ rfl]
  rfl

/-- The bridge of a command whose tool was started. -/
def launchedBridge (setting : Setting σ) (config : Config)
    (document : Document) : Bridge σ :=
  { askedBridge setting config document with
    storage := (filed setting config document).1
    processes := .enter .empty (.document document.id)
      (.check (askedRequest document) config "") }

def launchedProcess (setting : Setting σ) (config : Config)
    (document : Document) : Started :=
  ⟨.document document.id, 1,
    config.checkCommand (scratchPath setting config document.id)⟩

theorem launch_asked {events : List ProcessEvent}
    (wrote : (filed setting config document).2 = .ok ())
    (accepted : toolAnswer setting config document = .ok events) :
    (askedBridge setting config document).launch setting.launcher
        (askedRequest document) config =
      (launchedBridge setting config document, .ok (.started 1),
        [.launched (launchedProcess setting config document)]) := by
  have started : setting.launcher (filed setting config document).1
      (config.checkCommand (scratchPath setting config document.id)) = .ok () :=
    congrArg (Except.map fun _ => ()) accepted
  exact Bridge.launch_of_accepted isCurrent_asked (filed_eq wrote) started

theorem playProcess_launched {events : List ProcessEvent}
    (accepted : toolAnswer setting config document = .ok events) :
    playProcess setting (launchedBridge setting config document)
        [.launched (launchedProcess setting config document)] =
      (launchedBridge setting config document).receiveAll 1 events := by
  have said : setting.events (launchedBridge setting config document).storage
      (launchedProcess setting config document).command = events := by
    change (toolAnswer setting config document).toOption.getD [] = events
    rw [accepted]
    rfl
  rw [← said]
  rfl

theorem held_of_ends {events : List ProcessEvent} {lines : List String}
    {code : Option Int} (ends : Ends events lines code) :
    ((launchedBridge setting config document).receiveAll 1 events).1.publisher.held
        document.id =
      Bridge.diagnosticsOf (askedRequest document)
        (Bridge.findingOf config (OutputStream.captured lines) code) := by
  have entered : (launchedBridge setting config document).processes.process? 1 =
      some (.document document.id, .check (askedRequest document) config "") :=
    ProcessTable.process?_enter.mpr (Or.inl ⟨rfl, rfl, rfl⟩)
  have current : (launchedBridge setting config document).isCurrent
      (askedRequest document) = true :=
    @isCurrent_asked σ setting config document
  obtain ⟨processes, _, played⟩ := Bridge.receiveAll_of_ends
    (ProcessTable.observer?_eq_some_iff.mpr ⟨_, entered⟩) current ends
  rw [played]
  apply Bridge.held_published
  exact (Publisher.sets_clear _ _ _).trans (if_pos rfl)

theorem checkDocument_of_accepted {events : List ProcessEvent}
    (wrote : (filed setting config document).2 = .ok ())
    (accepted : toolAnswer setting config document = .ok events) :
    checkDocument setting config document =
      ((Storage.remove (filed setting config document).1
        (scratchPath setting config document.id)).1,
        .ok (((launchedBridge setting config document).receiveAll 1
          events).1.publisher.held document.id)) := by
  rw [checkDocument_of_launch (launch_asked wrote accepted),
    storage_close_playProcess _ rfl, playProcess_launched accepted]
  rfl

/-! ## What a check can come to -/

/-- The file is a source file and can be read as a text. -/
structure Sourced (setting : Setting σ) (config : Config) (file text : String) :
    Prop where
  source : config.isSourcePath file = true
  read : Storage.read setting.storage file = .ok text

/-- The reasons why a file is not checked. -/
inductive Hindered (setting : Setting σ) (config : Config) (file : String) :
    Prop where
  | notSource (other : config.isSourcePath file = false)
  | unreadable {cause : OsError} (source : config.isSourcePath file = true)
      (refused : Storage.read setting.storage file = .error cause)
  | unwritable {text : String} {cause : OsError}
      (sourced : Sourced setting config file text)
      (refused : (filed setting config ⟨file, 0, text⟩).2 = .error cause)
  | unlaunchable {text : String} {cause : OsError}
      (sourced : Sourced setting config file text)
      (wrote : (filed setting config ⟨file, 0, text⟩).2 = .ok ())
      (refused : toolAnswer setting config ⟨file, 0, text⟩ = .error cause)

/-- The tool was started on the text of the file, wrote lines on standard error
and ended with a code. -/
structure Heard (setting : Setting σ) (config : Config) (file text : String)
    (lines : List String) (code : Option Int) : Prop where
  sourced : Sourced setting config file text
  wrote : (filed setting config ⟨file, 0, text⟩).2 = .ok ()
  ended : ∃ events, toolAnswer setting config ⟨file, 0, text⟩ = .ok events ∧
    Ends events lines code

theorem Sourced.unique {file text other : String}
    (sourced : Sourced setting config file text)
    (again : Sourced setting config file other) : text = other := by
  cases sourced.read.symm.trans again.read
  rfl

theorem Hindered.not_accepted {file text : String} {events : List ProcessEvent}
    (hindered : Hindered setting config file)
    (sourced : Sourced setting config file text)
    (wrote : (filed setting config ⟨file, 0, text⟩).2 = .ok ())
    (accepted : toolAnswer setting config ⟨file, 0, text⟩ = .ok events) :
    False := by
  cases hindered with
  | notSource other => cases other.symm.trans sourced.source
  | unreadable source refused => cases refused.symm.trans sourced.read
  | unwritable again refused =>
      cases again.unique sourced
      cases refused.symm.trans wrote
  | unlaunchable again _ refused =>
      cases again.unique sourced
      cases refused.symm.trans accepted

theorem Hindered.not_heard {file text : String} {lines : List String}
    {code : Option Int} (hindered : Hindered setting config file)
    (heard : Heard setting config file text lines code) : False := by
  obtain ⟨sourced, wrote, events, accepted, _⟩ := heard
  exact hindered.not_accepted sourced wrote accepted

/-- The files after a text was put into the scratch file and that was removed. -/
def tidied (setting : Setting σ) (config : Config) (document : Document) : σ :=
  (Storage.remove (filed setting config document).1
    (scratchPath setting config document.id)).1

/-- What a check can come to. -/
inductive Checks (setting : Setting σ) (config : Config) (file : String)
    (format : Format) (transcript : Transcript) : Result σ → Prop where
  | unread (hindered : Hindered setting config file) (trouble : Trouble)
      (missing : ∀ text, ¬ Sourced setting config file text) :
      Checks setting config file format transcript
        (setting.giveUp transcript trouble)
  | failed (hindered : Hindered setting config file) (trouble : Trouble)
      {text : String} (sourced : Sourced setting config file text) :
      Checks setting config file format transcript
        (Setting.giveUp
          { setting with storage := tidied setting config ⟨file, 0, text⟩ }
          transcript trouble)
  | reported {text : String} {events : List ProcessEvent}
      {diagnostics : List Diagnostic}
      (sourced : Sourced setting config file text)
      (wrote : (filed setting config ⟨file, 0, text⟩).2 = .ok ())
      (accepted : toolAnswer setting config ⟨file, 0, text⟩ = .ok events)
      (found : ∀ {lines code}, Ends events lines code →
        diagnostics = Bridge.diagnosticsOf (askedRequest ⟨file, 0, text⟩)
          (Bridge.findingOf config (OutputStream.captured lines) code)) :
      Checks setting config file format transcript
        (Setting.conclude
          { setting with storage := tidied setting config ⟨file, 0, text⟩ }
          (if diagnostics.isEmpty then 0 else 1)
          (printReport setting.colors format file diagnostics transcript))

theorem checks (setting : Setting σ) (config : Config) (file : String)
    (format : Format) (transcript : Transcript) :
    Checks setting config file format transcript
      (check setting config file format transcript) := by
  unfold check readSource
  cases source : config.isSourcePath file with
  | false =>
      apply Checks.unread (.notSource source)
      intro text sourced
      cases source.symm.trans sourced.source
  | true =>
      cases read : Storage.read setting.storage file with
      | error cause =>
          apply Checks.unread (.unreadable source read)
          intro text sourced
          cases read.symm.trans sourced.read
      | ok text =>
          have sourced : Sourced setting config file text := ⟨source, read⟩
          simp only [if_true]
          cases wrote : (filed setting config ⟨file, 0, text⟩).2 with
          | error cause =>
              rw [checkDocument_of_unwritten wrote]
              exact .failed (.unwritable sourced wrote) _ sourced
          | ok _ =>
              cases answer : toolAnswer setting config ⟨file, 0, text⟩ with
              | error cause =>
                  rw [checkDocument_of_refused wrote answer]
                  exact .failed (.unlaunchable sourced wrote answer) _ sourced
              | ok events =>
                  rw [checkDocument_of_accepted wrote answer]
                  exact .reported sourced wrote answer held_of_ends

end Storages

/-! ## What is printed -/

/-- The output for a file without complaints. -/
def okOutput (colors : Bool) (file : String) : Format → String
  | .text => paint colors .boldGreen "ok:" ++ " " ++ file ++ "\n"
  | .json => "[]\n"

/-- The output for one complaint. -/
def reportOutput (colors : Bool) (report : Report) : Format → String
  | .text => report.text colors ++ "\n"
  | .json => Report.allJson [report] ++ "\n"

/-- The code that a configuration has for syntax errors.  Zero is none. -/
def IsSyntaxCode (config : Config) (code : Option Int) : Prop :=
  code ≠ some 0 ∧ code = some config.syntaxErrorCode

/-- A report tells what the tool wrote about a document, how grave it is and
which pass found it. -/
structure Complaint (config : Config) (document : Document) (stderr : String)
    (code : Option Int) (report : Report) : Prop where
  resolved : ∃ severity source, report = Report.ofDiagnostic document.id
    (Diagnostic.resolve document (locate config.extension stderr)
      (String.ofList (trimLineBreaks stderr.toList)) severity source .check)
  syntaxError : (report.severity = .error ∧ report.source = "frg-syntax") ↔
    IsSyntaxCode config code
  otherwise : (report.severity = .warning ∧ report.source = "frg-check") ↔
    ¬ IsSyntaxCode config code

theorem printReport_nil (colors : Bool) (format : Format) (file : String)
    {transcript : Transcript} (silent : transcript.stdout = "") :
    (printReport colors format file [] transcript).stdout =
      okOutput colors file format := by
  cases format with
  | text => simp [printReport, Transcript.printLine, silent, okOutput]
  | json =>
      have empty : Report.allJson [] = "[]" := by decide
      simp [printReport, Transcript.printLine, silent, okOutput, empty]

theorem printReport_singleton (colors : Bool) (format : Format) (file : String)
    (diagnostic : Diagnostic) {transcript : Transcript}
    (silent : transcript.stdout = "") :
    (printReport colors format file [diagnostic] transcript).stdout =
      reportOutput colors (Report.ofDiagnostic file diagnostic) format := by
  cases format with
  | text => simp [printReport, Transcript.printLine, silent, reportOutput]
  | json => simp [printReport, Transcript.printLine, silent, reportOutput]

section Findings

variable {config : Config} {document : Document} {stderr : String}

theorem diagnosticsOf_blank (blank : isBlankText stderr.toList = true)
    (request : CheckRequest) (code : Option Int) :
    Bridge.diagnosticsOf request (Bridge.findingOf config stderr code) = [] := by
  unfold Bridge.findingOf Finding.ofStderr?
  rw [if_pos blank]
  rfl

theorem weigh_classify (config : Config) (code : Option Int) :
    (IsSyntaxCode config code ∧
        Finding.weigh (config.classify code) = (.error, .syntaxChecker)) ∨
      (¬ IsSyntaxCode config code ∧
        Finding.weigh (config.classify code) = (.warning, .checker)) := by
  unfold Config.classify IsSyntaxCode
  cases code with
  | none => exact Or.inr ⟨by simp, rfl⟩
  | some code =>
      by_cases zero : code = 0
      · exact Or.inr ⟨by simp [zero], by simp [zero, Finding.weigh]⟩
      · by_cases sentinel : code = config.syntaxErrorCode
        · exact Or.inl ⟨⟨by simp [zero], by rw [sentinel]⟩,
            by simp [← sentinel, zero, Finding.weigh]⟩
        · exact Or.inr ⟨by simp [sentinel], by simp [zero, sentinel, Finding.weigh]⟩

theorem diagnosticsOf_telling (telling : isBlankText stderr.toList = false)
    (document : Document) (code : Option Int) :
    ∃ diagnostic,
      Bridge.diagnosticsOf (askedRequest document)
        (Bridge.findingOf config stderr code) = [diagnostic] ∧
      Complaint config document stderr code
        (Report.ofDiagnostic document.id diagnostic) := by
  have found : Bridge.diagnosticsOf (askedRequest document)
      (Bridge.findingOf config stderr code) =
        [Diagnostic.resolve document (locate config.extension stderr)
          (String.ofList (trimLineBreaks stderr.toList))
          (Finding.weigh (config.classify code)).1
          (Finding.weigh (config.classify code)).2 .check] := by
    unfold Bridge.findingOf Finding.ofStderr?
    rw [if_neg (Bool.eq_false_iff.mp telling)]
    rfl
  rcases weigh_classify config code with ⟨isSyntax, weighed⟩ | ⟨other, weighed⟩
  · rw [weighed] at found
    refine ⟨_, found, ⟨.error, .syntaxChecker, rfl⟩, ?_, ?_⟩
    · simp [Report.ofDiagnostic, Diagnostic.resolve, Pass.label, isSyntax]
    · simp [Report.ofDiagnostic, Diagnostic.resolve, isSyntax]
  · rw [weighed] at found
    refine ⟨_, found, ⟨.warning, .checker, rfl⟩, ?_, ?_⟩
    · simp [Report.ofDiagnostic, Diagnostic.resolve, other]
    · simp [Report.ofDiagnostic, Diagnostic.resolve, Pass.label, other]

end Findings

/-! ## The command -/

theorem stdout_of_loadConfig {σ : Type} [Storage σ] {setting : Setting σ}
    {isFile : String → Bool} {invocation : Invocation} {config : Config}
    {warned : Transcript}
    (loaded : loadConfig setting isFile invocation = .ok (config, warned)) :
    warned.stdout = "" := by
  unfold loadConfig at loaded
  split at loaded
  · rename_i path named
    cases read : Config.load path (Storage.read setting.storage path) with
    | error failure =>
        rw [read] at loaded
        cases loaded
    | ok config =>
        rw [read] at loaded
        cases loaded
        rfl
  · dsimp only at loaded
    cases loaded
    split
    · rfl
    · rfl

/-- Exit code, output and files of a check say what became of it. -/
structure FaithfulCheck (setting : Setting FileTree) (config : Config) (file : String)
    (format : Format) (result : Result FileTree) : Prop where
  /-- The code is two exactly if the tool could not be asked. -/
  refused : result.code = 2 ↔ Hindered setting config file
  silent : Hindered setting config file → result.transcript.stdout = ""
  /-- A tool that always ends and could be asked was heard. -/
  answered : (∀ {storage command events},
      setting.toolchain storage command = .ok events →
        ∃ lines code, Ends events lines code) →
    ¬ Hindered setting config file →
      ∃ text lines code, Heard setting config file text lines code
  clean : ∀ {text lines code}, Heard setting config file text lines code →
    (isBlankText (OutputStream.captured lines).toList = true ↔
      result.code = 0 ∧
        result.transcript.stdout = okOutput setting.colors file format)
  complained : ∀ {text lines code}, Heard setting config file text lines code →
    (isBlankText (OutputStream.captured lines).toList = false ↔
      result.code = 1 ∧ ∃ report,
        Complaint config ⟨file, 0, text⟩ (OutputStream.captured lines) code
          report ∧
        result.transcript.stdout = reportOutput setting.colors report format)
  /-- A file that was read leaves no scratch file behind. -/
  tidy : ∀ {text}, Sourced setting config file text →
    result.storage.isFile (scratchPath setting config file).toList = false

theorem isFile_tidied (setting : Setting FileTree) (config : Config)
    (document : Document) :
    (tidied setting config document).isFile
      (scratchPath setting config document.id).toList = false :=
  FileTree.isFile_remove _ _

theorem faithfulCheck_hindered {setting : Setting FileTree} {config : Config}
    {file : String} {format : Format} {result : Result FileTree}
    (hindered : Hindered setting config file) (failed : result.code = failureCode)
    (silent : result.transcript.stdout = "")
    (tidy : ∀ {text}, Sourced setting config file text →
      result.storage = tidied setting config ⟨file, 0, text⟩) :
    FaithfulCheck setting config file format result where
  refused := ⟨fun _ => hindered, fun _ => failed⟩
  silent _ := silent
  answered _ unhindered := absurd hindered unhindered
  clean heard := (hindered.not_heard heard).elim
  complained heard := (hindered.not_heard heard).elim
  tidy sourced := by
    rw [tidy sourced]
    exact isFile_tidied setting config ⟨file, 0, _⟩

section Reported

variable {setting : Setting FileTree} {config : Config} {file text : String}
  {events : List ProcessEvent} {diagnostics : List Diagnostic}

/-- What a tool that was heard wrote is blank and nothing was found, or it is
not and there is one complaint. -/
theorem found_of_heard (sourced : Sourced setting config file text)
    (accepted : toolAnswer setting config ⟨file, 0, text⟩ = .ok events)
    (found : ∀ {lines code}, Ends events lines code →
      diagnostics = Bridge.diagnosticsOf (askedRequest ⟨file, 0, text⟩)
        (Bridge.findingOf config (OutputStream.captured lines) code))
    {other : String} {lines : List String} {code : Option Int}
    (heard : Heard setting config file other lines code) :
    (isBlankText (OutputStream.captured lines).toList = true ∧
        diagnostics = []) ∨
      (isBlankText (OutputStream.captured lines).toList = false ∧
        ∃ diagnostic, diagnostics = [diagnostic] ∧
          Complaint config ⟨file, 0, other⟩ (OutputStream.captured lines) code
            (Report.ofDiagnostic file diagnostic)) := by
  cases heard.sourced.unique sourced
  obtain ⟨said, answered, ends⟩ := heard.ended
  cases accepted.symm.trans answered
  rw [found ends]
  cases blank : isBlankText (OutputStream.captured lines).toList with
  | true => exact Or.inl ⟨rfl, diagnosticsOf_blank blank _ code⟩
  | false =>
      exact Or.inr ⟨rfl, diagnosticsOf_telling blank ⟨file, 0, text⟩ code⟩

theorem faithfulCheck_reported {format : Format} {transcript : Transcript}
    (unprinted : transcript.stdout = "")
    (sourced : Sourced setting config file text)
    (wrote : (filed setting config ⟨file, 0, text⟩).2 = .ok ())
    (accepted : toolAnswer setting config ⟨file, 0, text⟩ = .ok events)
    (found : ∀ {lines code}, Ends events lines code →
      diagnostics = Bridge.diagnosticsOf (askedRequest ⟨file, 0, text⟩)
        (Bridge.findingOf config (OutputStream.captured lines) code)) :
    FaithfulCheck setting config file format
      (Setting.conclude
        { setting with storage := tidied setting config ⟨file, 0, text⟩ }
        (if diagnostics.isEmpty then 0 else 1)
        (printReport setting.colors format file diagnostics transcript)) := by
  have unhindered : ¬ Hindered setting config file := fun hindered =>
    hindered.not_accepted sourced wrote accepted
  refine
    { refused := ?_
      silent := fun hindered => absurd hindered unhindered
      answered := ?_
      clean := ?_
      complained := ?_
      tidy := ?_ }
  · refine ⟨?_, fun hindered => absurd hindered unhindered⟩
    intro failed
    change (if diagnostics.isEmpty then 0 else 1) = 2 at failed
    split at failed <;> cases failed
  · intro terminating _
    obtain ⟨lines, code, ends⟩ := terminating accepted
    exact ⟨text, lines, code, sourced, wrote, events, accepted, ends⟩
  · intro other lines code heard
    rcases found_of_heard sourced accepted found heard with
      ⟨blank, rfl⟩ | ⟨telling, diagnostic, rfl, _⟩
    · exact ⟨fun _ => ⟨rfl, printReport_nil _ format file unprinted⟩,
        fun _ => blank⟩
    · constructor
      · intro blank
        cases blank.symm.trans telling
      · rintro ⟨code, _⟩
        cases code
  · intro other lines code heard
    rcases found_of_heard sourced accepted found heard with
      ⟨blank, rfl⟩ | ⟨telling, diagnostic, rfl, complaint⟩
    · constructor
      · intro telling
        cases telling.symm.trans blank
      · rintro ⟨code, _⟩
        cases code
    · exact ⟨fun _ => ⟨rfl, _, complaint,
        printReport_singleton _ format file diagnostic unprinted⟩,
        fun _ => telling⟩
  · intro _ _
    dsimp only [Setting.conclude]
    exact isFile_tidied setting config ⟨file, 0, text⟩

end Reported

/-- Whatever the files, the configuration and the tool are: a check reports
what the tool wrote, and nothing of it is left. -/
theorem faithfulCheck_perform {setting : Setting FileTree} {isFile : String → Bool}
    {invocation : Invocation} {file : String} {format : Format} {config : Config}
    {warned : Transcript} (asked : invocation.action = .check file format)
    (loaded : loadConfig setting isFile invocation = .ok (config, warned)) :
    FaithfulCheck setting config file format (perform setting isFile invocation) := by
  have unprinted := stdout_of_loadConfig loaded
  have checks := checks setting config file format warned
  have performed : perform setting isFile invocation =
      check setting config file format warned := by
    simp only [perform, loaded, asked]
  rw [performed]
  generalize check setting config file format warned = result at checks
  cases checks with
  | unread hindered trouble missing =>
      apply faithfulCheck_hindered hindered rfl unprinted
      intro text sourced
      exact absurd sourced (missing text)
  | failed hindered trouble sourced =>
      apply faithfulCheck_hindered hindered rfl unprinted
      intro text again
      rw [sourced.unique again]
      rfl
  | reported sourced wrote accepted found =>
      exact faithfulCheck_reported unprinted sourced wrote accepted found

/-- A tree with one source file, and a tool that complains about it. -/
def complainingTool : Setting FileTree where
  storage := FileTree.put ⟨Dict.empty, []⟩ ["a.frg".toList]
    (.file (utf8Encode "x".toList))
  temporary := "tmp"
  toolchain := fun _ _ =>
    .ok [.stdout "checking", .stderr "a.frg:1:1: unbound", .exit (some 2)]

theorem eq_ok_of_toOption {ε α : Type} {answer : Except ε α} {value : α}
    (some : answer.toOption = some value) : answer = .ok value := by
  cases answer with
  | error => cases some
  | ok => cases some; rfl

/-- The complaint is reported, and the scratch file is gone. -/
theorem faithfulCheck_complainingTool :
    let result := perform complainingTool (fun _ => false)
      ⟨none, none, .check "a.frg" .text⟩
    loadConfig complainingTool (fun _ => false) ⟨none, none, .check "a.frg" .text⟩ =
        .ok ({}, {}) ∧
      result.code = 1 ∧
      (∃ report, report.severity = .error ∧ result.transcript.stdout =
        reportOutput false report .text) ∧
      result.storage.isFile
        (scratchPath complainingTool {} "a.frg").toList = false := by
  intro result
  have loaded : loadConfig complainingTool (fun _ => false)
      ⟨none, none, .check "a.frg" .text⟩ = .ok ({}, {}) := rfl
  have faithful : FaithfulCheck complainingTool {} "a.frg" .text result :=
    faithfulCheck_perform rfl loaded
  have heard : Heard complainingTool {} "a.frg" "x" ["a.frg:1:1: unbound"]
      (some 2) :=
    { sourced := ⟨by decide, eq_ok_of_toOption (by decide +kernel)⟩
      wrote := eq_ok_of_toOption (by decide +kernel)
      ended := ⟨_, rfl, .stdout _ (.stderr _ (.exit _ _))⟩ }
  obtain ⟨code, report, complaint, printed⟩ :=
    (faithful.complained heard).mp (by decide)
  have grave := complaint.syntaxError.mpr ⟨by decide, rfl⟩
  exact ⟨loaded, code, ⟨report, grave.1, printed⟩, faithful.tidy heard.sourced⟩

end CommandLine

end ToolBridge
