import Mathlib.Data.List.Induction
import ToolBridge.Process.OutputStream
import ToolBridge.Proofs.Text.Lines
import ToolBridge.Proofs.Text.Utf8
import ToolBridge.Text.Trim

/-!
# The text of an error stream

An observer receives the lines of a stream one by one and puts them together
again.  What it has in the end is compared here with the text of the stream:
they differ in the line breaks only, as long as the stream is UTF-8.  Of another
stream the text stops in front of the first line that is not.
-/

namespace ToolBridge

namespace OutputStream

open ToolBridge.Text

/-! ## What can be read of a stream -/

/-- The text of pieces in front of the first one that is not UTF-8. -/
def legibleFrom : List (List UInt8) → List Char
  | [] => []
  | piece :: rest =>
      match utf8Decode? piece with
      | some text => text ++ legibleFrom rest
      | none => []

/-- The text of a stream in front of the first line that is not UTF-8. -/
def legible (bytes : List UInt8) : List Char :=
  legibleFrom (rawLines bytes)

theorem legible_of_unbroken {line : List UInt8} (unbroken : Unbroken isFeed line) :
    legible line = (utf8Decode? line).getD [] := by
  cases line with
  | nil => rfl
  | cons byte line =>
      rw [legible, rawLines, segmentsBy_of_unbroken unbroken (by simp)]
      cases decoded : utf8Decode? (byte :: line) with
      | none => simp [legibleFrom, decoded]
      | some text => simp [legibleFrom, decoded]

theorem utf8Decode?_feed (line rest : List UInt8) :
    utf8Decode? (line ++ 0x0A :: rest) =
      (utf8Decode? line).bind fun front =>
        (utf8Decode? rest).map fun rest => front ++ '\n' :: rest :=
  utf8Decode?_append_small (by decide) line rest

theorem legible_append_cons {line : List UInt8} (unbroken : Unbroken isFeed line)
    (rest : List UInt8) :
    legible (line ++ 0x0A :: rest) =
      match utf8Decode? line with
      | some text => text ++ '\n' :: legible rest
      | none => [] := by
  rw [legible, rawLines, segmentsBy_append_cons unbroken (by rfl), legibleFrom,
    utf8Decode?_feed]
  cases utf8Decode? line with
  | none => rfl
  | some text => exact List.append_assoc text ['\n'] _

theorem legible_of_decoded {bytes : List UInt8} {text : List Char}
    (decoded : utf8Decode? bytes = some text) : legible bytes = text := by
  induction bytes using segment_induction isFeed generalizing text with
  | last line unbroken => rw [legible_of_unbroken unbroken, decoded, Option.getD_some]
  | more line mark rest unbroken ends ih =>
      obtain rfl := beq_iff_eq.mp ends
      rw [utf8Decode?_feed] at decoded
      obtain ⟨front, first, decoded⟩ := Option.bind_eq_some_iff.mp decoded
      obtain ⟨tail, later, rfl⟩ := Option.map_eq_some_iff.mp decoded
      rw [legible_append_cons unbroken, first, ih later]

/-- What cannot be read of a stream: nothing, or what starts with a line that is
not UTF-8. -/
def Illegible (rest : List UInt8) : Prop :=
  rest = [] ∨ ∃ line more, rest = line ++ more ∧ Unbroken isFeed line ∧
    utf8Decode? line = none ∧ (more = [] ∨ more.head? = some 0x0A)

/-- The text that can be read is the start of the stream. -/
theorem eq_legible_append (bytes : List UInt8) :
    ∃ rest, bytes = utf8Encode (legible bytes) ++ rest ∧ Illegible rest := by
  induction bytes using segment_induction isFeed with
  | last line unbroken =>
      rw [legible_of_unbroken unbroken]
      cases decoded : utf8Decode? line with
      | none =>
          exact ⟨line, rfl, Or.inr ⟨line, [], by simp, unbroken, decoded,
            Or.inl rfl⟩⟩
      | some text =>
          refine ⟨[], ?_, Or.inl rfl⟩
          rw [List.append_nil]
          exact utf8Decode?_eq_some_iff.mp decoded
  | more line mark rest unbroken ends ih =>
      obtain rfl := beq_iff_eq.mp ends
      rw [legible_append_cons unbroken]
      cases decoded : utf8Decode? line with
      | none =>
          exact ⟨line ++ 0x0A :: rest, rfl, Or.inr ⟨line, 0x0A :: rest, rfl,
            unbroken, decoded, Or.inr rfl⟩⟩
      | some text =>
          obtain ⟨last, split, illegible⟩ := ih
          refine ⟨last, ?_, illegible⟩
          have front := utf8Decode?_eq_some_iff.mp decoded
          have feed : String.utf8EncodeChar '\n' = [0x0A] := by decide
          dsimp only
          rw [utf8Encode, List.flatMap_append, List.flatMap_cons, feed]
          change line ++ 0x0A :: rest =
            utf8Encode text ++ ([0x0A] ++ utf8Encode (legible rest)) ++ last
          rw [← front, List.append_assoc, List.append_assoc, ← split]
          rfl

/-! ## The lines of a stream are those of its text -/

theorem unbroken_of_decoded {line : List UInt8} {text : List Char}
    (decoded : utf8Decode? line = some text) (unbroken : Unbroken isFeed line) :
    Unbroken (· == '\n') text := by
  intro c member
  apply beq_eq_false_iff_ne.mpr
  rintro rfl
  obtain rfl := utf8Decode?_eq_some_iff.mp decoded
  have feed : (0x0A : UInt8) ∈ utf8Encode text :=
    List.mem_flatMap.mpr ⟨'\n', member, by decide⟩
  exact absurd (unbroken _ feed) (by decide)

theorem utf8Decode?_return (front : List UInt8) :
    utf8Decode? (front ++ [0x0D]) = (utf8Decode? front).map (· ++ ['\r']) := by
  rw [utf8Decode?_append_small (by decide)]
  cases utf8Decode? front with
  | none => rfl
  | some text => rfl

/-- A carriage return at the end of a line is one at the end of its text. -/
theorem utf8Decode?_dropLastIf (line : List UInt8) :
    utf8Decode? (dropLastIf isReturn line) =
      (utf8Decode? line).map (dropLastIf (· == '\r')) := by
  rcases List.eq_nil_or_concat line with rfl | ⟨front, last, rfl⟩
  · rfl
  · rw [List.concat_eq_append]
    by_cases carriage : last = 0x0D
    · subst carriage
      rw [utf8Decode?_return, Option.map_map]
      have dropped : dropLastIf isReturn (front ++ [0x0D]) = front := by
        simp [dropLastIf, isReturn]
      have kept : dropLastIf (· == '\r') ∘ (· ++ ['\r']) = id := by
        funext text
        simp [dropLastIf]
      rw [dropped, kept, Option.map_id_fun, id]
    · have kept : dropLastIf isReturn (front ++ [last]) = front ++ [last] := by
        simp [dropLastIf, isReturn, carriage]
      rw [kept]
      cases decoded : utf8Decode? (front ++ [last]) with
      | none => rfl
      | some text =>
          -- The last byte would be that of the carriage return.
          have ends : text.getLast? ≠ some '\r' := by
            intro found
            obtain ⟨init, rfl⟩ := List.getLast?_eq_some_iff.mp found
            have bytes := utf8Decode?_eq_some_iff.mp decoded
            rw [utf8Encode, List.flatMap_append] at bytes
            exact carriage (List.append_singleton_inj.mp bytes).2
          have whole : dropLastIf (· == '\r') text = text := by
            unfold dropLastIf
            split
            · rename_i c found
              rw [if_neg]
              intro same
              exact ends (found.trans (congrArg some (beq_iff_eq.mp same)))
            · rfl
          rw [Option.map_some, whole]

theorem lines_of_unbroken {line : List UInt8} (unbroken : Unbroken isFeed line)
    (telling : line ≠ []) :
    lines line = ((utf8Decode? line).map String.ofList).toList := by
  rw [lines, rawLines, segmentsBy_of_unbroken unbroken telling, List.map_singleton,
    bodyBy_of_unbroken unbroken, decodable]
  cases utf8Decode? line with
  | none => rfl
  | some text => rfl

theorem lines_append_cons {line : List UInt8} (unbroken : Unbroken isFeed line)
    (rest : List UInt8) :
    lines (line ++ 0x0A :: rest) =
      match utf8Decode? line with
      | some text => String.ofList (dropLastIf (· == '\r') text) :: lines rest
      | none => [] := by
  rw [lines, rawLines, segmentsBy_append_cons unbroken (by rfl), List.map_cons,
    bodyBy_terminated (by rfl), decodable, utf8Decode?_dropLastIf]
  cases utf8Decode? line with
  | none => rfl
  | some text => rfl

/-- What is read of a stream are the lines of its text, up to the first one
that is not UTF-8. -/
theorem lines_eq (bytes : List UInt8) :
    lines bytes = (Text.lines (legible bytes)).map String.ofList := by
  induction bytes using segment_induction isFeed with
  | last line unbroken =>
      by_cases telling : line = []
      · subst telling
        rfl
      · rw [lines_of_unbroken unbroken telling, legible_of_unbroken unbroken]
        cases decoded : utf8Decode? line with
        | none => rfl
        | some text =>
            have plain := unbroken_of_decoded decoded unbroken
            have some : text ≠ [] := by
              rintro rfl
              exact telling (utf8Decode?_eq_some_iff.mp decoded)
            rw [Option.getD_some, Text.lines_of_unbroken plain some]
            rfl
  | more line mark rest unbroken ends ih =>
      obtain rfl := beq_iff_eq.mp ends
      rw [lines_append_cons unbroken, legible_append_cons unbroken]
      cases decoded : utf8Decode? line with
      | none => rfl
      | some text =>
          have plain := unbroken_of_decoded decoded unbroken
          dsimp only
          rw [Text.lines_append_cons plain, ih, List.map_cons]

theorem toList_captured (lines : List String) :
    (captured lines).toList = lines.flatMap fun line => line.toList ++ ['\n'] := by
  induction lines using List.reverseRecOn with
  | nil => rfl
  | append_singleton lines line ih =>
      rw [captured, List.foldl_append, List.flatMap_append, ← ih]
      simp [captured]

end OutputStream

namespace Text

/-! ## Line breaks -/

/-- A text in which every line break is a line feed. -/
def plainBreaks : List Char → List Char
  | '\r' :: '\n' :: rest => '\n' :: plainBreaks rest
  | c :: rest => c :: plainBreaks rest
  | [] => []

theorem plainBreaks_of_unbroken {text : List Char}
    (unbroken : Unbroken (· == '\n') text) : plainBreaks text = text := by
  induction text using plainBreaks.induct with
  | case1 rest ih => exact absurd (unbroken '\n' (by simp)) (by decide)
  | case2 c rest _ ih =>
      rw [plainBreaks, ih unbroken.tail]
      assumption
  | case3 => rfl

theorem dropLastIf_cons {α : Type} (test : α → Bool) (c : α) {symbols : List α}
    (telling : symbols ≠ []) :
    dropLastIf test (c :: symbols) = c :: dropLastIf test symbols := by
  cases symbols with
  | nil => exact absurd rfl telling
  | cons d symbols =>
      unfold dropLastIf
      rw [List.getLast?_cons_cons]
      cases (d :: symbols).getLast? with
      | none => rfl
      | some last =>
          cases found : test last with
          | false => simp [found]
          | true => simp [found]

theorem plainBreaks_append_cons {text : List Char}
    (unbroken : Unbroken (· == '\n') text) (rest : List Char) :
    plainBreaks (text ++ '\n' :: rest) =
      dropLastIf (· == '\r') text ++ '\n' :: plainBreaks rest := by
  have feed : plainBreaks ('\n' :: rest) = '\n' :: plainBreaks rest := by
    rw [plainBreaks]
    simp
  induction text with
  | nil => exact feed
  | cons c text ih =>
      cases text with
      | nil =>
          by_cases carriage : c = '\r'
          · subst carriage
            rfl
          · have step : plainBreaks (c :: '\n' :: rest) =
                c :: plainBreaks ('\n' :: rest) := by
              rw [plainBreaks]
              simp [carriage]
            rw [List.singleton_append, step, feed]
            simp [dropLastIf, carriage]
      | cons d text =>
          have other : d ≠ '\n' := by
            rintro rfl
            exact absurd unbroken.tail.head (by decide)
          have step : plainBreaks (c :: d :: (text ++ '\n' :: rest)) =
              c :: plainBreaks (d :: (text ++ '\n' :: rest)) := by
            rw [plainBreaks]
            simp [other]
          rw [List.cons_append, List.cons_append, step, dropLastIf_cons _ _ (by simp)]
          exact congrArg (c :: ·) (ih unbroken.tail)

/-! ## Lines put together again -/

/-- The lines of a text, each with a line feed. -/
def restored (text : List Char) : List Char :=
  (lines text).flatMap (· ++ ['\n'])

theorem restored_of_unbroken {text : List Char}
    (unbroken : Unbroken (· == '\n') text) (telling : text ≠ []) :
    restored text = text ++ ['\n'] := by
  rw [restored, lines_of_unbroken unbroken telling, List.flatMap_singleton]

theorem restored_append_cons {text : List Char}
    (unbroken : Unbroken (· == '\n') text) (rest : List Char) :
    restored (text ++ '\n' :: rest) =
      dropLastIf (· == '\r') text ++ '\n' :: restored rest := by
  rw [restored, lines_append_cons unbroken, List.flatMap_cons, List.append_assoc]
  rfl

theorem isBlankText_dropLastIf (text : List Char) :
    isBlankText (dropLastIf (· == '\r') text) = isBlankText text := by
  rcases List.eq_nil_or_concat text with rfl | ⟨front, last, rfl⟩
  · rfl
  · rw [List.concat_eq_append]
    by_cases carriage : last = '\r'
    · subst carriage
      have blank : isBlank '\r' = true := by decide
      simp [dropLastIf, isBlankText, blank]
    · simp [dropLastIf, carriage]

theorem isBlankText_restored (text : List Char) :
    isBlankText (restored text) = isBlankText text := by
  have blank : isBlank '\n' = true := by decide
  induction text using segment_induction (· == '\n') with
  | last line unbroken =>
      by_cases telling : line = []
      · subst telling
        rfl
      · rw [restored_of_unbroken unbroken telling]
        simp [isBlankText, blank]
  | more line mark rest unbroken ends ih =>
      obtain rfl := beq_iff_eq.mp ends
      have front := isBlankText_dropLastIf line
      rw [restored_append_cons unbroken]
      unfold isBlankText at ih front ⊢
      rw [List.all_append, List.all_append, List.all_cons, List.all_cons, front, ih]

theorem dropEndWhile_append {α : Type} {test : α → Bool} {left right : List α}
    (front : List α)
    (same : dropEndWhile test left = dropEndWhile test right) :
    dropEndWhile test (front ++ left) = dropEndWhile test (front ++ right) := by
  unfold dropEndWhile at same ⊢
  rw [List.reverse_append, List.reverse_append, List.dropWhile_append,
    List.dropWhile_append, List.reverse_inj.mp same]

/-- Lines that are put together again differ from the text in their line breaks
and at the end. -/
theorem trimLineBreaks_restored (text : List Char) :
    trimLineBreaks (restored text) = trimLineBreaks (plainBreaks text) := by
  induction text using segment_induction (· == '\n') with
  | last line unbroken =>
      rw [plainBreaks_of_unbroken unbroken]
      by_cases telling : line = []
      · subst telling
        rfl
      · rw [restored_of_unbroken unbroken telling]
        simp [trimLineBreaks, dropEndWhile, isLineBreak]
  | more line mark rest unbroken ends ih =>
      obtain rfl := beq_iff_eq.mp ends
      rw [restored_append_cons unbroken, plainBreaks_append_cons unbroken,
        List.append_cons, List.append_cons _ _ (plainBreaks rest)]
      exact dropEndWhile_append _ ih

end Text

namespace OutputStream

open ToolBridge.Text

/-- The error text of a stream, as far as it can be read. -/
def errorText (bytes : List UInt8) : String :=
  String.ofList (trimLineBreaks (plainBreaks (legible bytes)))

theorem toList_captured_lines (bytes : List UInt8) :
    (captured (lines bytes)).toList = restored (legible bytes) := by
  rw [toList_captured, lines_eq, List.flatMap_map, restored]
  simp only [String.toList_ofList]

theorem isBlankText_captured (bytes : List UInt8) :
    isBlankText (captured (lines bytes)).toList = isBlankText (legible bytes) := by
  rw [toList_captured_lines, isBlankText_restored]

theorem trimLineBreaks_captured (bytes : List UInt8) :
    String.ofList (trimLineBreaks (captured (lines bytes)).toList) =
      errorText bytes := by
  rw [toList_captured_lines, trimLineBreaks_restored, errorText]

end OutputStream

end ToolBridge
