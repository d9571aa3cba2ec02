import ToolBridge.Proofs.Bridge.Narration
import ToolBridge.Proofs.Bridge.Staleness
import ToolBridge.Proofs.Bridge.Survival
import ToolBridge.Proofs.Process.ErrorText

/-!
# Reporting

What a tool writes on standard error comes to the user when it exits, whatever
its exit code.  Between the bytes and the diagnostic stand the reader of the
lines, the observer that puts them together again, and the test for white space.
Here the whole way is followed: an error text is reported if there is anything
but white space in what can be read of it, and only then.  A stream that is UTF-8
can be read to its end.  Of another one nothing is reported if its first line
that is not blank is not UTF-8.
-/

namespace ToolBridge.Bridge

open ToolBridge.Text
open ToolBridge.OutputStream (Illegible errorText legible)

variable {σ : Type} {past later : List Entry} {generation number : Nat}
  {document : Document} {extension stderr : String} {config : Config}
  {request : CheckRequest} {bytes : List UInt8}

/-! ## What was heard of a process -/

/-- The line of error text that the process of a generation wrote. -/
def Entry.complaint? (generation : Nat) : Entry → Option String
  | .received other (.stderr line) =>
      if other = generation then some line else none
  | _ => none

/-- The lines that the process of a generation wrote on standard error. -/
def heard (generation : Nat) (entries : List Entry) : List String :=
  entries.filterMap (Entry.complaint? generation)

theorem Entry.extend_eq (generation : Nat) (text : String) (entry : Entry) :
    entry.extend generation text =
      ((entry.complaint? generation).map (addLine text)).getD text := by
  cases entry with
  | received other event =>
      cases event with
      | stderr line =>
          by_cases own : other = generation
          · simp [extend, complaint?, own]
          · simp [extend, complaint?, own]
      | _ => rfl
  | _ => rfl

theorem written_eq_captured (generation : Nat) (entries : List Entry) :
    written generation entries =
      OutputStream.captured (heard generation entries) := by
  induction entries using List.reverseRecOn with
  | nil => rfl
  | append_singleton entries entry ih =>
      rw [written_append_singleton, heard, List.filterMap_append, ih,
        Entry.extend_eq]
      cases said : entry.complaint? generation with
      | none => simp [said, heard]
      | some line => simp [said, heard, OutputStream.captured, addLine]

/-- A run was started, and nothing ended it since. -/
def Underway (past : List Entry) (number : Nat) (document : Document)
    (extension : String) (generation : Nat) (later : List Entry) : Prop :=
  (∃ earlier, past =
    earlier ++ .started number document extension (.ok generation) :: later) ∧
  ∀ entry ∈ later, ¬ entry.Ends generation .interactive

theorem foldl_notice_run (later : List Entry) :
    later.foldl (Entry.notice generation)
        (.run number document extension stderr) =
      .run number document extension
        (later.foldl (Entry.extend generation) stderr) := by
  induction later generalizing stderr with
  | nil => rfl
  | cons entry later ih =>
      rw [List.foldl_cons, List.foldl_cons, Entry.notice_run, ih]

theorem Underway.lives
    (underway : Underway past number document extension generation later) :
    Lives past generation .interactive
      (.run number document extension (written generation later)) := by
  obtain ⟨⟨earlier, rfl⟩, lasts⟩ := underway
  exact ⟨earlier, _, later, _, rfl, rfl, lasts, (foldl_notice_run later).symm⟩

/-! ## What an error text comes to -/

theorem findingOf_of_blank (blank : isBlankText (legible bytes) = true)
    (config : Config) (code : Option Int) :
    findingOf config (OutputStream.captured (OutputStream.lines bytes)) code =
      none := by
  unfold findingOf Finding.ofStderr?
  rw [OutputStream.isBlankText_captured, if_pos blank]

theorem findingOf_of_telling (telling : isBlankText (legible bytes) = false)
    (config : Config) (code : Option Int) :
    ∃ finding,
      findingOf config (OutputStream.captured (OutputStream.lines bytes)) code =
        some finding ∧
      finding.exitClass = config.classify code ∧
      finding.message = errorText bytes := by
  unfold findingOf Finding.ofStderr?
  rw [OutputStream.isBlankText_captured, if_neg (Bool.eq_false_iff.mp telling)]
  exact ⟨_, rfl, rfl, OutputStream.trimLineBreaks_captured bytes⟩

/-- What is told at the end of a run, by what can be read of its error
stream. -/
theorem parting_captured (document : Document) (extension : String)
    (bytes : List UInt8) :
    parting document extension
        (OutputStream.captured (OutputStream.lines bytes)) =
      if isBlankText (legible bytes) then
        [.deliver ⟨document.id, []⟩, .navigate document.id none,
          .line Console.finished]
      else
        let diagnostic :=
          Diagnostic.resolve document
            (locateSourcePath extension (errorText bytes)) (errorText bytes)
            .error .runner .run
        [.line (errorText bytes), .deliver ⟨document.id, [diagnostic]⟩,
          .navigate document.id (some diagnostic.range.start),
          .line Console.exited] := by
  unfold parting
  rw [OutputStream.isBlankText_captured, OutputStream.trimLineBreaks_captured]

/-! ## Every history -/

variable [Storage σ]

/-- What becomes of an error stream when the process that wrote it exits. -/
structure FailureReported (history : History σ) (bytes : List UInt8) : Prop where
  /-- The check of a current request fails with the error text, and the
  document shows it, if there is anything but white space in what can be
  read. -/
  failed : isBlankText (legible bytes) = false →
    ∀ {request config generation later} code,
      Pending history.bridge history.past request config generation later →
      heard generation later = OutputStream.lines bytes →
      let ended := history.advance (.receive generation (.exit code))
      ∃ finding : Finding,
        finding.exitClass = config.classify code ∧
        finding.message = errorText bytes ∧
        ended.effects = history.effects ++
          [.deliver ⟨request.id, ended.bridge.publisher.held request.id⟩,
            .checked generation (.failed finding)] ∧
        (ended.bridge.publisher.sets request.id).check =
          [finding.diagnostic request.document]
  /-- Otherwise the check is clean, whatever the exit code. -/
  clean : isBlankText (legible bytes) = true →
    ∀ {request config generation later} code,
      Pending history.bridge history.past request config generation later →
      heard generation later = OutputStream.lines bytes →
      let ended := history.advance (.receive generation (.exit code))
      ended.effects = history.effects ++
          [.deliver ⟨request.id, ended.bridge.publisher.held request.id⟩,
            .checked generation .clean] ∧
        (ended.bridge.publisher.sets request.id).check = []
  /-- A run ends with the error text on the same condition. -/
  run : ∀ {number document extension generation later} code,
    Underway history.past number document extension generation later →
    heard generation later = OutputStream.lines bytes →
    history.calls (.receive generation (.exit code)) =
      if isBlankText (legible bytes) then
        [.deliver ⟨document.id, []⟩, .navigate document.id none,
          .line Console.finished]
      else
        let diagnostic :=
          Diagnostic.resolve document
            (locateSourcePath extension (errorText bytes)) (errorText bytes)
            .error .runner .run
        [.line (errorText bytes), .deliver ⟨document.id, [diagnostic]⟩,
          .navigate document.id (some diagnostic.range.start),
          .line Console.exited]
  /-- What can be read is the stream up to the first line that is not UTF-8. -/
  cut : ∃ rest, bytes = utf8Encode (legible bytes) ++ rest ∧ Illegible rest
  whole : ∀ {text}, utf8Decode? bytes = some text → legible bytes = text

/-- An error text with a letter of another encoding, `raise: caf` and the byte
`0xE9`. -/
def latinError : List UInt8 :=
  [0x72, 0x61, 0x69, 0x73, 0x65, 0x3A, 0x20, 0x63, 0x61, 0x66, 0xE9, 0x0A]

/-- The text after a line that can be read. -/
def halfLatin : List UInt8 := [0x72, 0x61, 0x69, 0x73, 0x65, 0x0A] ++ latinError

/-- A check whose tool has written both lines. -/
def halfRead : History Unit :=
  @History.after Unit forgetful () ⟨"", ""⟩
    [.ask ⟨⟨"a.frg", 1, "x"⟩, 0⟩, .launch (fun _ _ => .ok ()) 1 {},
      .receive 1 (.stderr "raise")]

/-- A tool writes the text and exits with an error, once as a check and once as
a run. -/
def latinTool : History Unit :=
  let say generation := (OutputStream.lines latinError).map fun line =>
    .receive generation (.stderr line)
  @History.after Unit forgetful () ⟨"", ""⟩
    ([.ask ⟨⟨"a.frg", 1, "x"⟩, 0⟩, .launch (fun _ _ => .ok ()) 1 {}] ++ say 1 ++
      [.receive 1 (.exit (some 1)),
        .start (fun _ _ => .ok ()) ⟨"a.frg", 1, "x"⟩ "a.frg" {}] ++ say 2 ++
      [.receive 2 (.exit (some 1))])

end ToolBridge.Bridge
