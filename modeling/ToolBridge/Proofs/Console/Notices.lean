import ToolBridge.Console
import ToolBridge.Proofs.Text.Literal

/-!
# Notices in relayed lines

Where the runner tells the user to hit enter, a relayed line tells them to hit
Stop.  The two notices begin alike, with a letter that the runner's notice has
nowhere else, and no end of the editor's notice goes on as the runner's begins.
So no text around a notice of the editor can complete it, or a part of it, to a
notice of the runner, and all other text of a line is kept.
-/

namespace ToolBridge.Console

open ToolBridge.Text

theorem headed_runnerNotice : Headed runnerNotice :=
  ⟨_, _, rfl, by decide⟩

/-- A capital `S` begins the runner's notice, and the editor's notice has two: from
the first on the notices differ at `Stop`, from the second on at its third letter. -/
theorem supplants_editorNotice : Supplants editorNotice runnerNotice where
  headed := headed_runnerNotice
  alike := by decide
  apart := by decide

theorem toList_relayed (line : String) :
    (relayed line).toList = replaceAll runnerNotice editorNotice line.toList :=
  String.toList_ofList

theorem not_infix_relayed (line : String) :
    ¬ runnerNotice <:+: (relayed line).toList := by
  rw [toList_relayed]
  exact supplants_editorNotice.not_infix_replaceAll line.toList

theorem relayed_of_free {line : String} (free : ¬ runnerNotice <:+: line.toList) :
    relayed line = line := by
  rw [relayed, replaceAll_of_free free, String.ofList_toList]

theorem relayed_append {before : String} (only : OnlyAtEnd runnerNotice before.toList)
    (rest : String) :
    relayed (before ++ (String.ofList runnerNotice ++ rest)) =
      before ++ (String.ofList editorNotice ++ relayed rest) := by
  have free := only.free headed_runnerNotice.ne_nil
  rw [← String.toList_inj]
  simp only [toList_relayed, String.toList_append, String.toList_ofList]
  exact headed_runnerNotice.replaceAll_part free rest.toList

theorem exists_onlyAtEnd {line : String} (found : runnerNotice <:+: line.toList) :
    ∃ before rest : String, line = before ++ (String.ofList runnerNotice ++ rest) ∧
      OnlyAtEnd runnerNotice before.toList := by
  obtain ⟨part, rest, split, free⟩ :=
    exists_free_append found headed_runnerNotice.ne_nil
  refine ⟨String.ofList part, String.ofList rest, ?_, ?_⟩
  · rw [← String.toList_inj, split]
    simp only [String.toList_append, String.toList_ofList]
  · rw [String.toList_ofList]
    exact headed_runnerNotice.onlyAtEnd_of_free free

/-- What becomes of the runner's notices in a line. -/
structure SentinelReplaced (line : String) : Prop where
  /-- None is left, and none arises where the editor's notice meets other text. -/
  absent : ¬ runnerNotice <:+: (relayed line).toList
  settled : relayed (relayed line) = relayed line
  kept : ¬ runnerNotice <:+: line.toList → relayed line = line
  first : ∀ before rest : String,
    line = before ++ (String.ofList runnerNotice ++ rest) →
      OnlyAtEnd runnerNotice before.toList →
        relayed line = before ++ (String.ofList editorNotice ++ relayed rest)
  /-- A line with a notice has a first one. -/
  reached : runnerNotice <:+: line.toList →
    ∃ before rest : String, line = before ++ (String.ofList runnerNotice ++ rest) ∧
      OnlyAtEnd runnerNotice before.toList

/-- In every line all notices of the runner are reworded, once and for good, and
nothing but them. -/
theorem sentinelReplaced_line (line : String) : SentinelReplaced line where
  absent := not_infix_relayed line
  settled := relayed_of_free (not_infix_relayed line)
  kept := relayed_of_free
  first before rest split only := by
    rw [split]
    exact relayed_append only rest
  reached := exists_onlyAtEnd

/-- The start of a notice stands in front of a whole one, and its end behind. -/
example :
    relayed ("Sterling running. Hit Sterling running. Hit enter to stop service." ++
      "enter to stop service.") =
    "Sterling running. Hit Sterling running. Hit Stop to stop service." ++
      "enter to stop service." := by
  decide

end ToolBridge.Console
