import Mathlib.Data.List.Induction
import ToolBridge.Bridge.Events
import ToolBridge.Process.OutputStream

/-!
# Chapters of a log

What the user is told of the runs, as it follows from what happened to them.
Every run that is started has a chapter of its own.  It opens with the path of
the file, goes on with what the run prints while it is live, and closes with how
the run came to its end.

A chapter is read off the turns that things took, without any state of the
bridge: a run is live as long as none of the turns since its start ended it.
-/

namespace ToolBridge.Bridge

open ToolBridge.Text

/-- A turn that things take for the runs. -/
inductive Turn where
  /-- A file is run.  There is no generation if the system refused the
  command. -/
  | begun (document : Document) (path extension : String)
      (generation : Option Nat)
  | stopped
  | heard (generation : Nat) (event : ProcessEvent)
  /-- All processes are killed. -/
  | killed

namespace Turn

/-- Does the turn end the run of a generation? -/
def ends (generation : Nat) : Turn → Bool
  | heard other (.exit _) => decide (other = generation)
  | stopped => true
  | killed => true
  | _ => false

/-- The line that the process of a generation prints. -/
def printed? (generation : Nat) : Turn → Option String
  | heard other (.stdout line) => if other = generation then some line else none
  | _ => none

/-- The line of error text that the process of a generation writes. -/
def complaint? (generation : Nat) : Turn → Option String
  | heard other (.stderr line) => if other = generation then some line else none
  | _ => none

end Turn

/-- A live run, as far as the log depends on it. -/
structure LiveRun where
  generation : Nat
  document : Document
  extension : String
  stderr : String
  deriving DecidableEq, Repr

/-! ## How a run ends -/

/-- The end of a run that stopped by itself: a clean end empties the channel of
the runs, and an error text takes the place of what was there. -/
def parting (document : Document) (extension stderr : String) : List Effect :=
  if isBlankText stderr.toList then
    [.deliver ⟨document.id, []⟩, .navigate document.id none,
      .line Console.finished]
  else
    let message := String.ofList (trimLineBreaks stderr.toList)
    let diagnostic :=
      Diagnostic.resolve document (locateSourcePath extension message) message
        .error .runner .run
    [.line message, .deliver ⟨document.id, [diagnostic]⟩,
      .navigate document.id (some diagnostic.range.start),
      .line Console.exited]

/-- The end of a run that the user stopped. -/
def dismissed (document : Document) : List Effect :=
  [.line Console.terminating, .navigate document.id none]

/-- What the user is told when a turn ends a run. -/
def Turn.farewell (run : LiveRun) : Turn → List Effect
  | heard _ _ => parting run.document run.extension run.stderr
  | stopped => dismissed run.document
  | _ => []

def opening (interrupts : Bool) (path : String) : List Effect :=
  (if interrupts then [.line Console.terminating] else []) ++
    [.console .clear, .console .reveal, .line (Console.running path)]

/-! ## Chapters -/

/-- A run with the turns that things took until the next run was started. -/
structure Chapter where
  document : Document
  path : String
  extension : String
  generation : Option Nat
  /-- Was the run before still live? -/
  interrupts : Bool
  since : List Turn

namespace Chapter

/-- What happened while the process of a generation was live. -/
def lifetime (generation : Nat) (since : List Turn) : List Turn :=
  since.takeWhile fun turn => !turn.ends generation

def ending? (generation : Nat) (since : List Turn) : Option Turn :=
  since.find? (Turn.ends generation)

/-- What the process of a generation wrote as error text while it was live. -/
def complaints (generation : Nat) (since : List Turn) : String :=
  OutputStream.captured
    ((lifetime generation since).filterMap (Turn.complaint? generation))

/-- The lines that the process of a generation printed while it was live, as
the user sees them. -/
def relayed (generation : Nat) (since : List Turn) : List Effect :=
  ((lifetime generation since).filterMap (Turn.printed? generation)).map
    fun line => .line (Console.relayed line)

/-- The run of a generation as it was in its lifetime. -/
def run (chapter : Chapter) (generation : Nat) : LiveRun :=
  ⟨generation, chapter.document, chapter.extension,
    complaints generation chapter.since⟩

def closing (chapter : Chapter) (generation : Nat) : List Effect :=
  match ending? generation chapter.since with
  | some turn => turn.farewell (chapter.run generation)
  | none => []

/-- Everything that the user is told of the run. -/
def calls (chapter : Chapter) : List Effect :=
  opening chapter.interrupts chapter.path ++
    match chapter.generation with
    | some generation =>
        relayed generation chapter.since ++ chapter.closing generation
    | none => []

def live? (chapter : Chapter) : Option LiveRun :=
  match chapter.generation with
  | some generation =>
      if (ending? generation chapter.since).isNone then
        some (chapter.run generation)
      else none
  | none => none

/-- Things took one more turn. -/
def add (chapter : Chapter) (turn : Turn) : Chapter :=
  { chapter with since := chapter.since ++ [turn] }

end Chapter

/-- The run of the last chapter, if it is live. -/
def lastLive? (chapters : List Chapter) : Option LiveRun :=
  chapters.getLast?.bind Chapter.live?

/-- The chapters after one more turn. -/
def continued (chapters : List Chapter) : Turn → List Chapter
  | .begun document path extension generation =>
      chapters ++
        [⟨document, path, extension, generation,
          (lastLive? chapters).isSome, []⟩]
  | turn =>
      chapters.dropLast ++
        (chapters.getLast?.map fun chapter => chapter.add turn).toList

/-- The chapters of all the turns that things took. -/
def chapters (turns : List Turn) : List Chapter :=
  turns.foldl continued []

theorem chapters_append_singleton (turns : List Turn) (turn : Turn) :
    chapters (turns ++ [turn]) = continued (chapters turns) turn :=
  List.foldl_append

/-! ## What one more turn adds -/

/-- What a turn adds to the log, and which run is live after it, given the one
that was live before. -/
inductive Tells : Option LiveRun → Turn → List Effect → Option LiveRun → Prop where
  | begun (live : Option LiveRun) (document : Document)
      (path extension : String) (generation : Option Nat) :
      Tells live (.begun document path extension generation)
        (opening live.isSome path)
        (generation.map fun generation => ⟨generation, document, extension, ""⟩)
  /-- There is nothing to stop, or nobody listens. -/
  | idle {turn : Turn} (later : ∀ document path extension generation,
      turn ≠ .begun document path extension generation) :
      Tells none turn [] none
  | stopped (run : LiveRun) :
      Tells (some run) .stopped (dismissed run.document) none
  | killed (run : LiveRun) : Tells (some run) .killed [] none
  /-- The process of another generation did something. -/
  | other (run : LiveRun) {generation : Nat} (event : ProcessEvent)
      (unlike : generation ≠ run.generation) :
      Tells (some run) (.heard generation event) [] (some run)
  | stdout (run : LiveRun) (line : String) :
      Tells (some run) (.heard run.generation (.stdout line))
        [.line (Console.relayed line)] (some run)
  | stderr (run : LiveRun) (line : String) :
      Tells (some run) (.heard run.generation (.stderr line)) []
        (some { run with stderr := addLine run.stderr line })
  | exit (run : LiveRun) (code : Option Int) :
      Tells (some run) (.heard run.generation (.exit code))
        (parting run.document run.extension run.stderr) none

namespace Chapter

variable {chapter : Chapter} {generation : Nat} {since : List Turn}
  {turn : Turn} {was live : Option LiveRun} {told : List Effect}

theorem ending?_append_singleton (generation : Nat) (since : List Turn)
    (turn : Turn) :
    ending? generation (since ++ [turn]) =
      (ending? generation since).or
        (if turn.ends generation then some turn else none) := by
  rw [ending?, List.find?_append]
  cases ends : turn.ends generation with
  | false => simp [ending?, ends]
  | true => simp [ending?, ends]

/-- A turn falls into the lifetime of a run if it is not its end, and the end
was not before it. -/
theorem lifetime_append_singleton (generation : Nat) (since : List Turn)
    (turn : Turn) :
    lifetime generation (since ++ [turn]) =
      lifetime generation since ++
        if (ending? generation (since ++ [turn])).isNone then [turn] else [] := by
  induction since with
  | nil =>
      cases ends : turn.ends generation with
      | false => simp [lifetime, ending?, ends]
      | true => simp [lifetime, ending?, ends]
  | cons head tail ih =>
      cases ends : head.ends generation with
      | false => simpa [lifetime, ending?, ends] using ih
      | true => simp [lifetime, ending?, ends]

theorem relayed_append_singleton (generation : Nat) (since : List Turn)
    (turn : Turn) :
    relayed generation (since ++ [turn]) =
      relayed generation since ++
        if (ending? generation (since ++ [turn])).isNone then
          ((turn.printed? generation).map fun line =>
            Effect.line (Console.relayed line)).toList
        else [] := by
  unfold relayed
  rw [lifetime_append_singleton, List.filterMap_append, List.map_append]
  congr 1
  split
  · cases said : turn.printed? generation with
    | none => simp [said]
    | some line => simp [said]
  · rfl

theorem complaints_append_singleton (generation : Nat) (since : List Turn)
    (turn : Turn) :
    complaints generation (since ++ [turn]) =
      if (ending? generation (since ++ [turn])).isNone then
        match turn.complaint? generation with
        | some line => addLine (complaints generation since) line
        | none => complaints generation since
      else complaints generation since := by
  unfold complaints
  rw [lifetime_append_singleton, List.filterMap_append]
  split
  · cases said : turn.complaint? generation with
    | none => simp [said]
    | some line => simp [said, OutputStream.captured, addLine]
  · simp

theorem live?_eq_some_iff {run : LiveRun} :
    chapter.live? = some run ↔
      ∃ generation, chapter.generation = some generation ∧
        ending? generation chapter.since = none ∧
        run = chapter.run generation := by
  unfold live?
  cases chapter.generation with
  | none => simp
  | some generation =>
      cases ended : ending? generation chapter.since with
      | some last => simp [ended]
      | none => simp [ended, eq_comm]

/-- Nothing more is told of a run that is not live. -/
theorem add_of_ended (ended : chapter.live? = none) (turn : Turn) :
    (chapter.add turn).calls = chapter.calls ∧
      (chapter.add turn).live? = none := by
  cases known : chapter.generation with
  | none => simp [calls, live?, add, known]
  | some generation =>
      cases found : ending? generation chapter.since with
      | none => simp [live?, known, found] at ended
      | some last =>
          have still :
              ending? generation (chapter.since ++ [turn]) = some last := by
            rw [ending?_append_singleton, found, Option.some_or]
          constructor
          · simp [calls, add, known, closing, relayed_append_singleton, run,
              complaints_append_singleton, still, found]
          · simp [live?, add, known, still]

/-- What a turn adds to the chapter of a live run that it does not end. -/
theorem add_of_lasts {run : LiveRun} (lives : chapter.live? = some run)
    (lasts : turn.ends run.generation = false) :
    (chapter.add turn).calls =
        chapter.calls ++
          ((turn.printed? run.generation).map fun line =>
            Effect.line (Console.relayed line)).toList ∧
      (chapter.add turn).live? =
        some { run with
          stderr :=
            match turn.complaint? run.generation with
            | some line => addLine run.stderr line
            | none => run.stderr } := by
  obtain ⟨generation, known, lasting, rfl⟩ := live?_eq_some_iff.mp lives
  have next : ending? generation (chapter.since ++ [turn]) = none := by
    rw [ending?_append_singleton, lasting, Option.none_or]
    exact if_neg (Bool.eq_false_iff.mp lasts)
  constructor
  · simp [calls, add, known, closing, relayed_append_singleton, next, lasting,
      Chapter.run]
  · simp [live?, add, known, complaints_append_singleton, next, Chapter.run]

theorem add_of_ends {run : LiveRun} (lives : chapter.live? = some run)
    (ends : turn.ends run.generation = true) :
    (chapter.add turn).calls = chapter.calls ++ turn.farewell run ∧
      (chapter.add turn).live? = none := by
  obtain ⟨generation, known, lasting, rfl⟩ := live?_eq_some_iff.mp lives
  have next : ending? generation (chapter.since ++ [turn]) = some turn := by
    rw [ending?_append_singleton, lasting, Option.none_or]
    exact if_pos ends
  constructor
  · simp [calls, add, known, closing, relayed_append_singleton,
      complaints_append_singleton, next, lasting, Chapter.run]
  · simp [live?, add, known, next]

theorem add_of_tells (tells : Tells was turn told live)
    (lives : chapter.live? = was)
    (later : ∀ document path extension generation,
      turn ≠ .begun document path extension generation) :
    (chapter.add turn).calls = chapter.calls ++ told ∧
      (chapter.add turn).live? = live := by
  cases tells with
  | begun => exact absurd rfl (later _ _ _ _)
  | idle =>
      obtain ⟨same, ended⟩ := add_of_ended lives turn
      exact ⟨by rw [same, List.append_nil], ended⟩
  | stopped => exact add_of_ends lives rfl
  | killed => exact add_of_ends lives rfl
  | exit => exact add_of_ends lives (by simp [Turn.ends])
  | @other run generation event unlike =>
      have lasts : (Turn.heard generation event).ends run.generation = false := by
        cases event <;> simp [Turn.ends, unlike]
      obtain ⟨said, after⟩ := add_of_lasts lives lasts
      rw [said, after]
      cases event <;> simp [Turn.printed?, Turn.complaint?, unlike]
  | stdout run line =>
      have lasts : (Turn.heard run.generation (.stdout line)).ends
          run.generation = false := rfl
      obtain ⟨said, after⟩ := add_of_lasts lives lasts
      rw [said, after]
      simp [Turn.printed?, Turn.complaint?]
  | stderr run line =>
      have lasts : (Turn.heard run.generation (.stderr line)).ends
          run.generation = false := rfl
      obtain ⟨said, after⟩ := add_of_lasts lives lasts
      rw [said, after]
      simp [Turn.printed?, Turn.complaint?]

end Chapter

/-! ## All chapters -/

variable {all : List Chapter} {turn : Turn} {was live : Option LiveRun}
  {told : List Effect}

theorem continued_of_later
    (later : ∀ document path extension generation,
      turn ≠ .begun document path extension generation) :
    continued all turn =
      all.dropLast ++
        (all.getLast?.map fun chapter => chapter.add turn).toList := by
  cases turn with
  | begun => exact absurd rfl (later _ _ _ _)
  | _ => rfl

/-- The log of the chapters grows by what a turn tells. -/
theorem Tells.continued (tells : Tells was turn told live)
    (lives : lastLive? all = was) :
    (continued all turn).flatMap Chapter.calls =
        all.flatMap Chapter.calls ++ told ∧
      lastLive? (continued all turn) = live := by
  by_cases later : ∀ document path extension generation,
      turn ≠ .begun document path extension generation
  · rw [continued_of_later later]
    rcases List.eq_nil_or_concat all with rfl | ⟨init, last, rfl⟩
    · -- No run was started yet, so there is nothing that a turn could concern.
      cases lives
      cases tells with
      | begun => exact absurd rfl (later _ _ _ _)
      | idle => exact ⟨rfl, rfl⟩
    · rw [List.concat_eq_append] at lives ⊢
      have own : last.live? = was := by simpa [lastLive?] using lives
      obtain ⟨said, after⟩ := Chapter.add_of_tells tells own later
      constructor
      · simp [said]
      · simpa [lastLive?] using after
  · push Not at later
    obtain ⟨document, path, extension, generation, rfl⟩ := later
    cases tells with
    | begun =>
        subst lives
        constructor
        · cases generation <;>
            simp [continued, Chapter.calls, Chapter.relayed, Chapter.lifetime,
              Chapter.closing, Chapter.ending?]
        · cases generation <;>
            simp [continued, lastLive?, Chapter.live?, Chapter.run,
              Chapter.complaints, Chapter.lifetime, Chapter.ending?,
              OutputStream.captured]
    | idle later => exact absurd rfl (later _ _ _ _)

/-- The start that a chapter begins with. -/
def Chapter.start (chapter : Chapter) : Turn :=
  .begun chapter.document chapter.path chapter.extension chapter.generation

/-- Is the turn the start of a run? -/
def Turn.isBegun : Turn → Bool
  | begun _ _ _ _ => true
  | _ => false

/-- Every run that was started has one chapter. -/
theorem starts_chapters (turns : List Turn) :
    (chapters turns).map Chapter.start = turns.filter Turn.isBegun := by
  induction turns using List.reverseRecOn with
  | nil => rfl
  | append_singleton turns turn ih =>
      rw [chapters_append_singleton, List.filter_append, ← ih]
      cases turn with
      | begun => simp [continued, Chapter.start, List.filter_cons, Turn.isBegun]
      | _ =>
          simp only [continued, Turn.isBegun, List.filter_cons, List.filter_nil]
          rcases List.eq_nil_or_concat (chapters turns) with
            empty | ⟨init, last, split⟩
          · simp [empty]
          · simp [split, Chapter.add, Chapter.start]

end ToolBridge.Bridge
