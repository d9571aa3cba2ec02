import ToolBridge.Proofs.Bridge.Supersession
import ToolBridge.Proofs.Bridge.Survival
import ToolBridge.Proofs.Document.Places

/-!
# Stale diagnostics

An edit empties the diagnostics of its document.  What a check finds is shown
only if no edit came since, so it concerns the newest text.  What a run finds
is shown whenever the run ends by itself, and it concerns the text that the run
was started with.  So a run that outlives an edit puts diagnostics of the old
text on the document, and they stay there until the next edit or the end of
the next run.

The journal tells exactly which run the diagnostics of a document come from.
-/

namespace ToolBridge.Bridge

variable {σ : Type} {bridge next : Bridge σ} {past later : List Entry}
  {entry : Entry} {seen effects : List Effect} {generation : Nat} {slot : Slot}
  {observer : Observer} {document : Document} {extension stderr : String}

/-! ## Live processes -/

/-- By the journal, a process was started in a slot and nothing ended it since,
and this is what is known of it. -/
def Lives (past : List Entry) (generation : Nat) (slot : Slot)
    (observer : Observer) : Prop :=
  ∃ earlier entry later first,
    past = earlier ++ entry :: later ∧
    entry.born? = some (generation, slot, first) ∧
    (∀ other ∈ later, ¬ other.Ends generation slot) ∧
    observer = later.foldl (Entry.notice generation) first

theorem not_lives_nil : ¬ Lives [] generation slot observer := by
  rintro ⟨earlier, entry, later, first, empty, _⟩
  simp at empty

theorem lives_append_singleton_iff :
    Lives (past ++ [entry]) generation slot observer ↔
      (¬ entry.Ends generation slot ∧
        ∃ before, Lives past generation slot before ∧
          observer = entry.notice generation before) ∨
      entry.born? = some (generation, slot, observer) := by
  constructor
  · rintro ⟨earlier, birth, later, first, equal, born, lasting, rfl⟩
    rcases of_append_singleton_eq_append_cons equal with
      ⟨since, rfl, rfl⟩ | ⟨rfl, rfl, rfl⟩
    · refine Or.inl ⟨lasting entry (by simp), _, ?_, List.foldl_append⟩
      refine ⟨earlier, birth, since, first, rfl, born, ?_, rfl⟩
      intro other member
      exact lasting other (List.mem_append_left _ member)
    · exact Or.inr born
  · rintro (⟨lasts, _, ⟨earlier, birth, later, first, rfl, born, lasting, rfl⟩,
      rfl⟩ | born)
    · refine ⟨earlier, birth, later ++ [entry], first, by simp, born, ?_, by simp⟩
      intro other member
      rcases List.mem_append.mp member with inside | last
      · exact lasting other inside
      · rw [List.mem_singleton.mp last]
        exact lasts
    · exact ⟨past, entry, [], observer, rfl, born, by simp, rfl⟩

/-- The live processes are those of the journal. -/
def Manned (bridge : Bridge σ) (past : List Entry) : Prop :=
  ∀ generation slot observer,
    bridge.processes.process? generation = some (slot, observer) ↔
      Lives past generation slot observer

theorem Manned.step (manned : Manned bridge past)
    (step : Steps past bridge entry effects next) :
    Manned next (past ++ [entry]) := by
  intro generation slot observer
  rw [step.process?_iff, lives_append_singleton_iff]
  simp only [manned generation slot]

theorem Manned.initially (storage : σ) (scratch : Scratch) :
    Manned { storage, scratch } [] := by
  intro generation slot observer
  constructor
  · intro live
    cases live
  · intro lives
    exact absurd lives not_lives_nil

theorem manned_after [Storage σ] (storage : σ) (scratch : Scratch)
    (actions : List (Action σ)) :
    Manned (History.after storage scratch actions).bridge
      (History.after storage scratch actions).past :=
  History.induction_on (fun bridge past _ => Manned bridge past) storage scratch
    (.initially storage scratch) (fun step manned => manned.step step) actions

/-! ## Runs that ended -/

/-- A run of a document was live with an error text and exited by itself, and
`later` happened since. -/
def RunEnded (past : List Entry) (document : Document)
    (extension stderr : String) (later : List Entry) : Prop :=
  ∃ before generation slot number code,
    past = before ++ .received generation (.exit code) :: later ∧
    Lives before generation slot (.run number document extension stderr)

namespace RunEnded

theorem append_singleton (ended : RunEnded past document extension stderr later)
    (entry : Entry) :
    RunEnded (past ++ [entry]) document extension stderr (later ++ [entry]) := by
  obtain ⟨before, generation, slot, number, code, rfl, lives⟩ := ended
  exact ⟨before, generation, slot, number, code, by simp, lives⟩

theorem last {number : Nat}
    (lives : Lives past generation slot (.run number document extension stderr))
    (code : Option Int) :
    RunEnded (past ++ [.received generation (.exit code)]) document extension
      stderr [] :=
  ⟨past, generation, slot, number, code, rfl, lives⟩

theorem of_append_singleton
    (ended : RunEnded (past ++ [entry]) document extension stderr later) :
    (∃ since, later = since ++ [entry] ∧
        RunEnded past document extension stderr since) ∨
      (later = [] ∧ ∃ generation slot number code,
        entry = .received generation (.exit code) ∧
        Lives past generation slot (.run number document extension stderr)) := by
  obtain ⟨before, generation, slot, number, code, equal, lives⟩ := ended
  rcases of_append_singleton_eq_append_cons equal with
    ⟨since, rfl, rfl⟩ | ⟨rfl, same, rfl⟩
  · exact Or.inl ⟨since, rfl, before, generation, slot, number, code, rfl, lives⟩
  · exact Or.inr ⟨rfl, generation, slot, number, code, same, lives⟩

end RunEnded

/-- A run of a document ended by itself, and since then the document was
neither edited nor closed and no other run of it ended by itself. -/
structure LatestRun (past : List Entry) (document : Document)
    (extension stderr : String) (later : List Entry) : Prop where
  ended : RunEnded past document extension stderr later
  unedited : ∀ entry ∈ later, ¬ entry.Renews document.id
  last : ∀ {other form text since}, RunEnded past other form text since →
    other.id = document.id → later.length ≤ since.length

namespace LatestRun

theorem append_singleton
    (latest : LatestRun past document extension stderr later)
    (kept : ¬ entry.Renews document.id)
    (alone : ∀ {other form text},
      RunEnded (past ++ [entry]) other form text [] → other.id ≠ document.id) :
    LatestRun (past ++ [entry]) document extension stderr (later ++ [entry]) where
  ended := latest.ended.append_singleton entry
  unedited := by
    intro other member
    rcases List.mem_append.mp member with inside | last
    · exact latest.unedited other inside
    · rw [List.mem_singleton.mp last]
      exact kept
  last := by
    intro other form text since ended same
    rcases ended.of_append_singleton with ⟨before, rfl, earlier⟩ | ⟨rfl, _⟩
    · have bound := latest.last earlier same
      simpa using bound
    · exact absurd same (alone ended)

theorem of_append_singleton
    (latest : LatestRun (past ++ [entry]) document extension stderr later) :
    (∃ since, LatestRun past document extension stderr since ∧
        ¬ entry.Renews document.id ∧
        ∀ {other form text}, RunEnded (past ++ [entry]) other form text [] →
          other.id ≠ document.id) ∨
      ∃ generation slot number code,
        entry = .received generation (.exit code) ∧
        Lives past generation slot (.run number document extension stderr) := by
  rcases latest.ended.of_append_singleton with ⟨since, rfl, ended⟩ | ⟨rfl, live⟩
  · refine Or.inl ⟨since, ⟨ended, ?_, ?_⟩, latest.unedited entry (by simp), ?_⟩
    · intro other member
      exact latest.unedited other (List.mem_append_left _ member)
    · intro other form text before earlier same
      have bound := latest.last (earlier.append_singleton entry) same
      simpa using bound
    · intro other form text now same
      have bound := latest.last now same
      simp at bound
  · exact Or.inr live

theorem now (ended : RunEnded past document extension stderr []) :
    LatestRun past document extension stderr [] where
  ended := ended
  unedited := by simp
  last := fun _ _ => Nat.zero_le _

end LatestRun

/-! ## What the runs put on the publisher -/

/-- The set of a document on the channel of the runs is what its latest run
found, and it is empty if there was none since the last edit. -/
structure Exhibits (bridge : Bridge σ) (past : List Entry) : Prop where
  shown : ∀ {document extension stderr later},
    LatestRun past document extension stderr later →
      (bridge.publisher.sets document.id).run =
        (runFinding document extension stderr).toList
  source : ∀ id, (bridge.publisher.sets id).run = [] ∨
    ∃ document extension stderr later,
      LatestRun past document extension stderr later ∧ document.id = id

theorem Exhibits.step (exhibits : Exhibits bridge past)
    (manned : Manned bridge past)
    (step : Steps past bridge entry effects next) :
    Exhibits next (past ++ [entry]) := by
  -- An entry empties the set of a document, or is the end of a run of it, or
  -- does neither and leaves the set as it was.
  constructor
  · intro document extension stderr later latest
    rcases step.run_sets document.id with ⟨renewed, _⟩ |
      ⟨generation, slot, number, other, form, text, code, rfl, live, same, shown⟩ |
      ⟨_, kept, others⟩
    · rcases latest.of_append_singleton with ⟨_, _, kept, _⟩ | ⟨_, _, _, _, rfl, _⟩
      · exact absurd renewed kept
      · exact renewed.elim
    · have ended := RunEnded.last ((manned _ _ _).mp live) code
      rcases latest.of_append_singleton with
        ⟨_, _, _, alone⟩ | ⟨_, _, _, _, exit, lives⟩
      · exact absurd same (alone ended)
      · cases exit
        rw [(manned _ _ _).mpr lives] at live
        cases live
        exact shown
    · rcases latest.of_append_singleton with
        ⟨since, before, _, _⟩ | ⟨_, _, _, _, exit, lives⟩
      · rw [kept]
        exact exhibits.shown before
      · exact absurd rfl (others _ _ _ _ _ _ _ exit ((manned _ _ _).mpr lives))
  · intro id
    rcases step.run_sets id with ⟨_, empty⟩ |
      ⟨generation, slot, number, other, form, text, code, rfl, live, same, _⟩ |
      ⟨unedited, kept, others⟩
    · exact Or.inl empty
    · have ended := RunEnded.last ((manned _ _ _).mp live) code
      exact Or.inr ⟨other, form, text, [], .now ended, same⟩
    · rw [kept]
      rcases exhibits.source id with empty | ⟨document, form, text, later, latest, rfl⟩
      · exact Or.inl empty
      · refine Or.inr ⟨document, form, text, _,
          latest.append_singleton unedited ?_, rfl⟩
        intro other form text ended
        rcases ended.of_append_singleton with ⟨since, wrong, _⟩ |
          ⟨_, generation, slot, number, code, exit, lives⟩
        · simp at wrong
        · exact others _ _ _ _ _ _ _ exit ((manned _ _ _).mpr lives)

theorem exhibits_after [Storage σ] (storage : σ) (scratch : Scratch)
    (actions : List (Action σ)) :
    Exhibits (History.after storage scratch actions).bridge
      (History.after storage scratch actions).past := by
  have both := History.induction_on
    (fun bridge past _ => Manned bridge past ∧ Exhibits bridge past)
    storage scratch ?_ ?_ actions
  · exact both.2
  · refine ⟨.initially storage scratch, ?_, fun _ => Or.inl rfl⟩
    rintro document extension stderr later ⟨⟨_, _, _, _, _, empty, _⟩, _, _⟩
    simp at empty
  · rintro bridge next past entry seen effects step ⟨manned, exhibits⟩
    exact ⟨manned.step step, exhibits.step manned step⟩

/-! ## What the diagnostics concern -/

theorem concerns_of_runFinding {diagnostic : Diagnostic}
    (found : runFinding document extension stderr = some diagnostic) :
    diagnostic.Concerns document := by
  unfold runFinding at found
  split at found
  · cases found
  · cases found
    unfold runDiagnostic
    dsimp only
    apply Diagnostic.concerns_resolve

theorem concerns_of_shows {id : String} {request : CheckRequest}
    {diagnostics : List Diagnostic} (shows : Shows past id diagnostics)
    (newest : newest? id past = some request) {diagnostic : Diagnostic}
    (member : diagnostic ∈ diagnostics) :
    diagnostic.Concerns request.document := by
  rcases shows with rfl | ⟨other, _, _, _, _, finding, current, _, _, rfl⟩
  · cases member
  · rw [newest] at current
    cases current
    rw [List.mem_singleton.mp member]
    exact Diagnostic.concerns_resolve _ _ _ _ _ _

theorem Exhibits.mem_run_iff (exhibits : Exhibits bridge past) {id : String}
    {diagnostic : Diagnostic} :
    diagnostic ∈ (bridge.publisher.sets id).run ↔
      ∃ document extension stderr later,
        LatestRun past document extension stderr later ∧ document.id = id ∧
        runFinding document extension stderr = some diagnostic := by
  constructor
  · intro member
    rcases exhibits.source id with empty |
      ⟨document, extension, stderr, later, latest, rfl⟩
    · rw [empty] at member
      cases member
    · rw [exhibits.shown latest] at member
      exact ⟨document, extension, stderr, later, latest, rfl,
        Option.mem_toList.mp member⟩
  · rintro ⟨document, extension, stderr, later, latest, rfl, found⟩
    rw [exhibits.shown latest]
    exact Option.mem_toList.mpr found

/-- What is held for a document concerns a text of it if what the checks and
the latest run found does. -/
theorem Exhibits.concerns_held_iff (exhibits : Exhibits bridge past)
    (displayed : Displayed bridge past) {id : String} {request : CheckRequest}
    (newest : newest? id past = some request) :
    (∀ diagnostic ∈ bridge.publisher.held id,
        diagnostic.Concerns request.document) ↔
      ∀ {document extension stderr later diagnostic},
        LatestRun past document extension stderr later → document.id = id →
        runFinding document extension stderr = some diagnostic →
        diagnostic.Concerns request.document := by
  rw [Publisher.held_eq_append]
  constructor
  · intro held document extension stderr later diagnostic latest same found
    apply held
    apply List.mem_append_right
    exact exhibits.mem_run_iff.mpr
      ⟨document, extension, stderr, later, latest, same, found⟩
  · intro run diagnostic member
    rcases List.mem_append.mp member with checked | ran
    · exact concerns_of_shows (displayed id) newest checked
    · obtain ⟨document, extension, stderr, later, latest, same, found⟩ :=
        exhibits.mem_run_iff.mp ran
      exact run latest same found

/-- What the diagnostics that are held for the open documents go back to. -/
structure DiagnosticsTraced (bridge : Bridge σ) (past : List Entry) : Prop where
  /-- What the checks found concerns the newest text. -/
  checks : ∀ {id request diagnostic}, newest? id past = some request →
    diagnostic ∈ (bridge.publisher.sets id).check →
      diagnostic.Concerns request.document
  /-- What the runs found is what the latest run found that ended by itself
  since the last edit. -/
  runs : ∀ {id diagnostic}, diagnostic ∈ (bridge.publisher.sets id).run ↔
    ∃ document extension stderr later,
      LatestRun past document extension stderr later ∧ document.id = id ∧
      runFinding document extension stderr = some diagnostic
  /-- That concerns the text which the run was started with. -/
  origin : ∀ {document extension stderr diagnostic},
    runFinding document extension stderr = some diagnostic →
      diagnostic.Concerns document
  /-- So everything concerns the newest text exactly if what the latest run
  found does. -/
  fresh_iff : ∀ {id request}, newest? id past = some request →
    ((∀ diagnostic ∈ bridge.publisher.held id,
        diagnostic.Concerns request.document) ↔
      ∀ {document extension stderr later diagnostic},
        LatestRun past document extension stderr later → document.id = id →
        runFinding document extension stderr = some diagnostic →
        diagnostic.Concerns request.document)
  /-- In particular if that run was started with the newest text. -/
  fresh : ∀ {id request}, newest? id past = some request →
    (∀ {document extension stderr later},
      LatestRun past document extension stderr later → document.id = id →
      document.text = request.document.text) →
    ∀ diagnostic ∈ bridge.publisher.held id,
      diagnostic.Concerns request.document

/-- Whatever is done with a bridge in whatever order, the diagnostics that a
check put on a document concern its newest text; those that a run put there
concern the text which the run was started with, and they are there exactly as
long as no edit and no end of another run of the document came after the run
ended by itself. -/
theorem diagnosticsTraced_after [Storage σ] (storage : σ) (scratch : Scratch)
    (actions : List (Action σ)) :
    DiagnosticsTraced (History.after storage scratch actions).bridge
      (History.after storage scratch actions).past := by
  have displayed := displayed_after storage scratch actions
  have exhibits := exhibits_after storage scratch actions
  exact
    { checks := fun newest member => concerns_of_shows (displayed _) newest member
      runs := exhibits.mem_run_iff
      origin := concerns_of_runFinding
      fresh_iff := exhibits.concerns_held_iff displayed
      fresh := fun newest started => by
        apply (exhibits.concerns_held_iff displayed newest).mpr
        intro document extension stderr later diagnostic latest same found
        exact (concerns_of_runFinding found).of_text_eq (started latest same) }

/-- A run is started with a text, the text is emptied, and then the run ends
with an error in its second line. -/
def lateEnding : History Unit :=
  @History.after Unit forgetful () ⟨"", ""⟩
    [.ask ⟨⟨"a.frg", 1, "sig A {}\nsig B {}\n"⟩, 0⟩,
      .start (fun _ _ => .ok ()) ⟨"a.frg", 1, "sig A {}\nsig B {}\n"⟩ "a.frg" {},
      .ask ⟨⟨"a.frg", 2, ""⟩, 1⟩, .receive 1 (.stderr "a.frg:2:5: unbound"),
      .receive 1 (.exit (some 1))]

/-- The error is then shown at the thirteenth character of an empty text. -/
theorem stale_lateEnding :
    newest? "a.frg" lateEnding.past = some ⟨⟨⟨"a.frg", 2, ""⟩, 1⟩, 2⟩ ∧
      ∃ diagnostic ∈ lateEnding.bridge.publisher.held "a.frg",
        diagnostic.offsets = ⟨13, 17⟩ ∧
        ¬ diagnostic.Concerns ⟨"a.frg", 2, ""⟩ := by
  refine ⟨rfl, ?_⟩
  have shown : (lateEnding.bridge.publisher.held "a.frg").map Diagnostic.offsets =
      [⟨13, 17⟩] := by
    decide +kernel
  have member : ⟨13, 17⟩ ∈
      (lateEnding.bridge.publisher.held "a.frg").map Diagnostic.offsets := by
    simp [shown]
  obtain ⟨diagnostic, held, place⟩ := List.mem_map.mp member
  refine ⟨diagnostic, held, place, ?_⟩
  intro concerns
  have inside := concerns.inside.2
  rw [place] at inside
  simp at inside

end ToolBridge.Bridge
