import ToolBridge.Proofs.Bridge.Endings
import ToolBridge.Proofs.Bridge.Reporting
import ToolBridge.Proofs.Location.Spans

/-!
# A check and a run read one error text

A check looks for a location of any grammar in the text as it was captured; a
run trims the text first and looks for a source path.  Whatever the tool wrote,
they say the same about it: they are silent together, they show the same message,
and the location of the run is that of the check if it is a source path.
-/

namespace ToolBridge.Bridge

open ToolBridge.Text
open ToolBridge.OutputStream (captured errorText legible)

variable {σ τ : Type} {bridge : Bridge σ} {generation number : Nat}
  {observer : Observer} {request : CheckRequest} {config : Config}
  {document : Document} {extension stderr : String} {events : List ProcessEvent}
  {lines : List String} {code : Option Int} {bytes : List UInt8}

/-! ## What the two make of one stream -/

/-- A finding of a check and a diagnostic of a run that tell of one stream. -/
structure Agrees (config : Config) (document : Document) (bytes : List UInt8)
    (finding : Finding) (diagnostic : Diagnostic) : Prop where
  message : diagnostic.message = finding.message
  /-- The message is the whole stream, with plain line breaks and none at the
  end. -/
  whole : ∀ {text}, utf8Decode? bytes = some text →
    finding.message = String.ofList (trimLineBreaks (plainBreaks text))
  /-- A location stands in the captured text and in the message alike. -/
  untrimmed : locate config.extension (captured (OutputStream.lines bytes)) =
    finding.location
  trimmed : locate config.extension finding.message = finding.location
  inside : ∀ {location}, finding.location = some location →
    ∃ part, location.span.Covers finding.message.toList part
  /-- The run finds what the check finds, if that is a source path. -/
  located : ∀ {location},
    locateSourcePath config.extension diagnostic.message = some location ↔
      finding.location = some location ∧ location.grammar = .sourcePath
  resolved : diagnostic = Diagnostic.resolve document
    (locateSourcePath config.extension diagnostic.message) diagnostic.message
    .error .runner .run

/-- What a check and a run come to whose processes wrote one stream. -/
structure CheckAndRunAgree (config : Config) (document : Document) (bytes : List UInt8)
    (finding : Option Finding) (diagnostic : Option Diagnostic) : Prop where
  silent : finding = none ↔ diagnostic = none
  blank : finding = none ↔ isBlankText (legible bytes) = true
  telling : ∀ {found shown}, finding = some found → diagnostic = some shown →
    Agrees config document bytes found shown

theorem runFinding_of_blank (blank : isBlankText (legible bytes) = true)
    (document : Document) (extension : String) :
    runFinding document extension (captured (OutputStream.lines bytes)) = none := by
  rw [runFinding, OutputStream.isBlankText_captured, if_pos blank]

theorem runFinding_of_telling (telling : isBlankText (legible bytes) = false)
    (document : Document) (extension : String) :
    runFinding document extension (captured (OutputStream.lines bytes)) =
      some (Diagnostic.resolve document
        (locateSourcePath extension (errorText bytes)) (errorText bytes)
        .error .runner .run) := by
  rw [runFinding, OutputStream.isBlankText_captured,
    if_neg (Bool.eq_false_iff.mp telling), OutputStream.trimLineBreaks_captured]
  rfl

/-- The location of a finding is found in its message as well. -/
theorem location_of_findingOf {finding : Finding}
    (found : findingOf config stderr code = some finding) :
    finding.location = locate config.extension stderr ∧
      finding.message = String.ofList (trimLineBreaks stderr.toList) := by
  unfold findingOf Finding.ofStderr? at found
  split at found
  · cases found
  · cases found
    exact ⟨rfl, rfl⟩

theorem agrees_of_telling {finding : Finding}
    (found : findingOf config (captured (OutputStream.lines bytes)) code =
      some finding) (document : Document) :
    Agrees config document bytes finding
      (Diagnostic.resolve document
        (locateSourcePath config.extension (errorText bytes)) (errorText bytes)
        .error .runner .run) := by
  obtain ⟨location, message⟩ := location_of_findingOf found
  have trimmed : locate config.extension finding.message = finding.location := by
    rw [message, location, locate_trimLineBreaks]
  rw [OutputStream.trimLineBreaks_captured] at message
  refine
    { message := message.symm
      whole := ?_
      untrimmed := location.symm
      trimmed := trimmed
      inside := ?_
      located := ?_
      resolved := rfl }
  · intro text decoded
    rw [message, errorText, OutputStream.legible_of_decoded decoded]
  · intro location located
    exact covers_of_locate (trimmed.trans located)
  · intro location
    change locateSourcePath config.extension (errorText bytes) = some location ↔ _
    rw [← trimmed, message]
    exact locateSourcePath_eq_some_iff

theorem concordant (config : Config) (document : Document) (bytes : List UInt8)
    (code : Option Int) :
    CheckAndRunAgree config document bytes
      (findingOf config (captured (OutputStream.lines bytes)) code)
      (runFinding document config.extension
        (captured (OutputStream.lines bytes))) := by
  cases blank : isBlankText (legible bytes) with
  | true =>
      rw [findingOf_of_blank blank, runFinding_of_blank blank]
      exact
        { silent := by simp
          blank := by simp [blank]
          telling := by simp }
  | false =>
      obtain ⟨finding, found, _, _⟩ := findingOf_of_telling blank config code
      have agrees := agrees_of_telling found document
      rw [found, runFinding_of_telling blank]
      refine
        { silent := by simp
          blank := by simp [blank]
          telling := ?_ }
      intro other shown same also
      cases same
      cases also
      exact agrees

/-- Whatever bytes a tool writes on standard error, a check and a run of it that
end agree on what they are told. -/
theorem checkAndRunAgree_of_ends {checking : Bridge σ} {running : Bridge τ}
    {other : Nat} {more : List ProcessEvent} {status : Option Int}
    (checked : checking.processes.observer? generation =
      some (.check request config ""))
    (current : checking.isCurrent request = true)
    (ran : running.processes.observer? other =
      some (.run number document config.extension ""))
    (ends : Ends events (OutputStream.lines bytes) code)
    (halts : Ends more (OutputStream.lines bytes) status) :
    ∃ finding diagnostic front back,
      (checking.receiveAll generation events).2 =
        front ++ [.checked generation (.ofFinding? finding)] ∧
      (running.receiveAll other more).2 =
        back ++ [.ended other (some ⟨status, diagnostic⟩)] ∧
      CheckAndRunAgree config document bytes finding diagnostic := by
  obtain ⟨_, front, checkPlayed⟩ := receiveAll_of_ends checked current ends
  obtain ⟨back, runPlayed⟩ := ended_of_ends ran halts
  exact ⟨_, _, front, back, congrArg Prod.snd checkPlayed, runPlayed,
    concordant config document bytes code⟩

/-- An error text with a word, a location and line breaks of several kinds:
`é a.frg:3:1:`. -/
def brokenError : List UInt8 :=
  [0xC3, 0xA9, 0x20, 0x61, 0x2E, 0x66, 0x72, 0x67, 0x3A, 0x33, 0x3A, 0x31, 0x3A,
    0x0D, 0x0A, 0x0D, 0x0A, 0x0A]

/-- A file that is checked and run at the same time. -/
def doubleUse : Bridge Unit :=
  (@History.after Unit forgetful () ⟨"", ""⟩
    [.ask ⟨⟨"a.frg", 1, "x"⟩, 0⟩, .launch (fun _ _ => .ok ()) 1 {},
      .start (fun _ _ => .ok ()) ⟨"a.frg", 1, "x"⟩ "a.frg" {}]).bridge

theorem checkAndRunAgree_doubleUse :
    OutputStream.lines brokenError = ["é a.frg:3:1:", "", ""] ∧
      ∃ finding diagnostic front back,
        (doubleUse.receiveAll 1 [.stderr "é a.frg:3:1:", .stderr "", .stderr "",
            .exit (some 1)]).2 =
          front ++ [.checked 1 (.ofFinding? finding)] ∧
        (doubleUse.receiveAll 2 [.stderr "é a.frg:3:1:", .stdout "", .stderr "",
            .stderr "", .exit none]).2 =
          back ++ [.ended 2 (some ⟨none, diagnostic⟩)] ∧
        CheckAndRunAgree {} ⟨"a.frg", 1, "x"⟩ brokenError finding diagnostic := by
  have written : OutputStream.lines brokenError = ["é a.frg:3:1:", "", ""] := by
    decide
  have checked : doubleUse.processes.observer? 1 =
      some (.check ⟨⟨⟨"a.frg", 1, "x"⟩, 0⟩, 1⟩ {} "") := by decide
  have ran : doubleUse.processes.observer? 2 =
      some (.run 1 ⟨"a.frg", 1, "x"⟩ "frg" "") := by decide
  have ends : Ends [.stderr "é a.frg:3:1:", .stderr "", .stderr "",
      .exit (some 1)] (OutputStream.lines brokenError) (some 1) := by
    rw [written]
    exact .stderr _ (.stderr _ (.stderr _ (.exit _ _)))
  have halts : Ends [.stderr "é a.frg:3:1:", .stdout "", .stderr "", .stderr "",
      .exit none] (OutputStream.lines brokenError) none := by
    rw [written]
    exact .stderr _ (.stdout _ (.stderr _ (.stderr _ (.exit _ _))))
  exact ⟨written, checkAndRunAgree_of_ends checked (by decide) ran ends halts⟩

end ToolBridge.Bridge
