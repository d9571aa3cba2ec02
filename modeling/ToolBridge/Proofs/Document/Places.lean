import ToolBridge.Diagnostic

/-!
# Places in a text

Whatever line and column the toolchain names, the span that they stand for lies
inside the text.  So a diagnostic that was resolved against a snapshot points
into the text of that snapshot.
-/

namespace ToolBridge

open ToolBridge.Text

theorem Text.length_dropLastIf_le {α : Type} (test : α → Bool)
    (symbols : List α) : (dropLastIf test symbols).length ≤ symbols.length := by
  unfold dropLastIf
  split
  · split
    · simp
    · exact Nat.le_refl _
  · exact Nat.le_refl _

theorem Text.length_segmentBody_le (segment : List Char) :
    (segmentBody segment).length ≤ segment.length := by
  unfold segmentBody bodyBy
  split
  · split
    · have shorter := length_dropLastIf_le (· == '\r') segment.dropLast
      simp only [List.length_dropLast] at shorter
      omega
    · exact Nat.le_refl _
  · exact Nat.le_refl _

namespace CharSpan

/-- A span of a text with so many characters. -/
def Within (total : Nat) (span : CharSpan) : Prop :=
  span.start ≤ span.stop ∧ span.stop ≤ total

theorem within_widened {total start stop : Nat} (first : start ≤ total)
    (last : stop ≤ total) : (widened total start stop).Within total := by
  unfold widened
  split
  · rename_i ordered
    exact ⟨Nat.le_of_lt ordered, last⟩
  · exact ⟨Nat.le_min.mpr ⟨Nat.le_succ _, first⟩, Nat.min_le_right _ _⟩

theorem within_lastCharacter (total : Nat) :
    (lastCharacter total).Within total :=
  within_widened (Nat.sub_le _ _) (Nat.sub_le _ _)

theorem within_inSegment {total lineStart : Nat} {segment : List Char}
    (fits : lineStart + segment.length ≤ total) (column : Nat) :
    (inSegment total lineStart column segment).Within total := by
  have shorter := length_segmentBody_le segment
  apply within_widened
  · omega
  · omega

theorem within_inSegments {total lineStart : Nat}
    {segments : List (List Char)}
    (fits : lineStart + segments.flatten.length ≤ total) (column skip : Nat) :
    (inSegments total column lineStart skip segments).Within total := by
  induction segments generalizing lineStart skip with
  | nil =>
      rw [inSegments]
      exact within_lastCharacter total
  | cons segment rest ih =>
      rw [List.flatten_cons, List.length_append] at fits
      cases skip with
      | zero =>
          apply within_inSegment
          omega
      | succ skip =>
          apply ih
          omega

theorem within_ofPlace (text : List Char) (line column : Nat) :
    (ofPlace text line column).Within text.length := by
  cases line with
  | zero => exact ⟨Nat.le_refl _, Nat.zero_le _⟩
  | succ line =>
      apply within_inSegments
      refine Nat.le_of_eq ?_
      rw [flatten_segments, Nat.zero_add]

end CharSpan

theorem lt_of_mem_lineStartsAfter {offset start : Nat} {text : List Char}
    (member : start ∈ lineStartsAfter offset text) : offset < start := by
  induction text generalizing offset with
  | nil => cases member
  | cons c cs ih =>
      rw [lineStartsAfter] at member
      split at member
      · rcases List.mem_cons.mp member with rfl | later
        · exact Nat.lt_succ_self _
        · exact Nat.lt_of_succ_lt (ih later)
      · exact Nat.lt_of_succ_lt (ih member)

namespace Position

/-- Both numbers of the position have a place in 32 bits. -/
structure Sized (position : Position) : Prop where
  line : position.line < Nat.pow 2 32
  character : position.character < Nat.pow 2 32

theorem sized_truncated (position : Position) : position.truncated.Sized := by
  have some : 0 < numberBound := by decide
  exact ⟨Nat.mod_lt _ some, Nat.mod_lt _ some⟩

theorem truncated_of_sized {position : Position} (sized : position.Sized) :
    position.truncated = position := by
  have line : position.line % numberBound = position.line :=
    Nat.mod_eq_of_lt sized.line
  have character : position.character % numberBound = position.character :=
    Nat.mod_eq_of_lt sized.character
  rw [truncated, line, character]

end Position

/-- Only the first line starts at the first character. -/
theorem positionAt_zero (text : List Char) :
    positionAt text 0 = Position.origin := by
  have others : (lineStartsAfter 0 text).takeWhile (fun start => start ≤ 0) =
      [] := by
    cases table : lineStartsAfter 0 text with
    | nil => rfl
    | cons start rest =>
        have member : start ∈ lineStartsAfter 0 text := by
          rw [table]
          exact List.mem_cons_self
        have late := lt_of_mem_lineStartsAfter member
        exact List.takeWhile_cons_of_neg (by simpa using Nat.ne_of_gt late)
  have begun : (lineTable text).takeWhile (fun start => start ≤ 0) = [0] := by
    rw [lineTable, List.takeWhile_cons_of_pos (by simp), others]
  rw [positionAt, begun]
  simp [Position.truncated, Position.origin, utf16Length]

namespace Diagnostic

/-- A diagnostic that was resolved against a document and points into its
text. -/
structure Concerns (diagnostic : Diagnostic) (document : Document) : Prop where
  resolved : ∃ location message severity source channel,
    diagnostic = resolve document location message severity source channel
  inside : diagnostic.offsets.Within document.text.length
  range : diagnostic.range = document.extentOf diagnostic.offsets

theorem concerns_resolve (document : Document) (location : Option Location)
    (message : String) (severity : Severity) (source : Pass)
    (channel : Channel) :
    (resolve document location message severity source channel).Concerns
      document where
  resolved := ⟨location, message, severity, source, channel, rfl⟩
  inside := by
    cases location with
    | none => exact ⟨Nat.le_refl _, Nat.zero_le _⟩
    | some location => exact CharSpan.within_ofPlace _ _ _
  range := rfl

/-- Only the text of a document decides what is resolved against it. -/
theorem Concerns.of_text_eq {diagnostic : Diagnostic}
    {document other : Document} (concerns : diagnostic.Concerns document)
    (same : document.text = other.text) : diagnostic.Concerns other := by
  obtain ⟨⟨location, message, severity, source, channel, rfl⟩, _, _⟩ := concerns
  have equal :
      resolve document location message severity source channel =
        resolve other location message severity source channel := by
    simp only [resolve, Document.extentOf, Document.positionAt, Document.spanOf,
      same]
  rw [equal]
  exact concerns_resolve other location message severity source channel

end Diagnostic

end ToolBridge
