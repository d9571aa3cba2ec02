import ToolBridge.Proofs.Document.Positions
import ToolBridge.Proofs.Link.Anchors

/-!
# Where a link leads

One printed place becomes an editor position in two ways.  The target of a link
is the line and the column, both counted from zero, without a look at the text.
The start of a diagnostic is looked up in the text, and counts UTF-16 units.  So
the two are on one line, and they are one position exactly if every character in
front of it takes one unit.  This is so even where the units in front are too many
for the 32 bits of a position, since the characters in front are not.
-/

namespace ToolBridge.Link

open ToolBridge.Text

variable {extension output path : String} {location : Location} {link : Link}

/-- The place of a location as the target of a link. -/
def target (location : Location) : Position :=
  ⟨location.line - 1, location.column - 1⟩

theorem exists_resolve (located : locateSourcePath extension output = some location)
    (named : location.file = some (String.ofList (fileName path.toList))) :
    ∃ link, resolve extension output path = some link ∧
      link.position? = some (target location) :=
  ⟨_, resolve_eq_some_iff.mpr ⟨location, located, named, rfl⟩, rfl⟩

/-! ## Units in 32 bits -/

theorem utf16Length_le (text : List Char) : utf16Length text ≤ 2 * text.length := by
  induction text with
  | nil => exact Nat.le_refl _
  | cons c text ih =>
      have size : utf16Size c ≤ 2 := by
        unfold utf16Size
        split
        · exact Nat.le_succ _
        · exact Nat.le_refl _
      rw [utf16Length, List.length_cons]
      omega

section

variable {text : List Char} (few : text.length < numberBound)
include few

theorem mod_eq_length_iff :
    utf16Length text % numberBound = text.length ↔
      ∀ c ∈ text, utf16Size c = 1 := by
  have least := length_le_utf16Length text
  have most := utf16Length_le text
  rw [← utf16Length_eq_length_iff]
  rcases Nat.lt_or_ge (utf16Length text) numberBound with short | long
  · rw [Nat.mod_eq_of_lt short]
  · rw [Nat.mod_eq_sub_mod long, Nat.mod_eq_of_lt (by omega)]
    omega

theorem length_lt_mod_iff (apart : utf16Length text % numberBound ≠ text.length) :
    text.length < utf16Length text % numberBound ↔
      utf16Length text < numberBound := by
  have least := length_le_utf16Length text
  have most := utf16Length_le text
  rcases Nat.lt_or_ge (utf16Length text) numberBound with short | long
  · rw [Nat.mod_eq_of_lt short] at apart ⊢
    omega
  · rw [Nat.mod_eq_sub_mod long, Nat.mod_eq_of_lt (by omega)]
    omega

end

/-! ## Targets and diagnostics -/

/-- A cursor position compared with where diagnostics of a location start, in a
document that has the place. -/
structure TargetMeetsDiagnostic (document : Document) (location : Location)
    (cursor : Position) : Prop where
  known : ∃ before body ending after,
    LineAt document.text.toList (location.line - 1) before body ending after
  compared : ∀ {before body ending after},
    LineAt document.text.toList (location.line - 1) before body ending after →
    1 ≤ location.column → location.column ≤ body.length + 1 →
    ∀ message severity source channel,
      let start := (Diagnostic.resolve document (some location) message severity
        source channel).range.start
      (cursor = start ↔
          ∀ c ∈ body.take (location.column - 1), utf16Size c = 1) ∧
        cursor.line = location.line - 1 ∧ start.line = location.line - 1 ∧
        (cursor ≠ start → (cursor.character < start.character ↔
          utf16Length (body.take (location.column - 1)) < numberBound))

theorem targetMeetsDiagnostic_target {document : Document}
    (first : 1 ≤ location.line)
    (counted : location.line ≤ lineCount document.text.toList)
    (lineFits : location.line < numberBound)
    (columnFits : location.column < numberBound) :
    TargetMeetsDiagnostic document location (target location) where
  known := exists_lineAt (by omega)
  compared {before body ending after} found lowest short message severity source
      channel := by
    have index : location.line - 1 + 1 = location.line := Nat.sub_add_cancel first
    have reached : min (location.column - 1) body.length = location.column - 1 := by
      omega
    have taken : (body.take (location.column - 1)).length = location.column - 1 := by
      rw [List.length_take, reached]
    have few : (body.take (location.column - 1)).length < numberBound := by omega
    have looked := (found.start_eq location.column).2
    rw [index, reached] at looked
    have line : (location.line - 1) % numberBound = location.line - 1 :=
      Nat.mod_eq_of_lt (by omega)
    have start : (Diagnostic.resolve document (some location) message severity source
        channel).range.start =
      ⟨location.line - 1,
        utf16Length (body.take (location.column - 1)) % numberBound⟩ := by
      refine Eq.trans looked ?_
      rw [Position.truncated, line]
    have same := mod_eq_length_iff few
    have behind := length_lt_mod_iff few
    rw [taken] at same behind
    rw [start, ← same]
    simp only [target, ne_eq, Position.mk.injEq, true_and]
    refine ⟨eq_comm, fun apart => behind fun equal => apart equal.symm⟩

end ToolBridge.Link
