import ToolBridge.Proofs.Document.Positions
import ToolBridge.Proofs.Link.Anchors

/-!
# The links of a text and the links of its lines

Links are resolved in a whole text at once or line by line.  Lines end at line
feeds and lose one carriage return, while a locator ends at every line feed and
every carriage return; and a locator is found by bytes, while a link is placed by
UTF-16 units.  Still both ways begin with the same link, moved by the units in
front of its line.
-/

namespace ToolBridge

open ToolBridge.Text

/-! ## The lines of a text -/

section Lines

variable {text before body after : List Char} {index : Nat} {ending : LineEnd}

theorem segments_append (lined : Lined before) (rest : List Char) :
    segments (before ++ rest) = segments before ++ segments rest ∧
      (segments before).length = before.count '\n' := by
  induction before using segment_induction (· == '\n') with
  | last line unbroken =>
      rw [lined.eq_nil unbroken]
      exact ⟨rfl, rfl⟩
  | more line mark front unbroken ends ih =>
      obtain rfl := beq_iff_eq.mp ends
      rw [List.append_cons] at lined
      obtain ⟨cut, counted⟩ := ih lined.of_append
      have first (more : List Char) : segments (line ++ '\n' :: more) =
          (line ++ ['\n']) :: segments more :=
        segmentsBy_append_cons unbroken ends more
      constructor
      · rw [List.append_assoc, List.cons_append, first, first, cut, List.cons_append]
      · rw [first, List.length_cons, counted, List.count_append,
          List.count_cons_self, count_eq_zero unbroken, Nat.zero_add]

theorem LineAt.getElem?_lines (found : LineAt text index before body ending after) :
    (lines text)[index]? = some body := by
  obtain ⟨cut, counted⟩ := segments_append found.lined (body ++ ending.text ++ after)
  obtain ⟨others, first⟩ := found.segments_eq
  have here : (segments text)[index]? = some (body ++ ending.text) := by
    rw [found.split, cut, first, ← found.counted, ← counted,
      List.getElem?_append_right (Nat.le_refl _), Nat.sub_self]
    rfl
  rw [lines, List.getElem?_map, here, Option.map_some, found.segmentBody_eq]

theorem getElem?_lines_iff :
    (lines text)[index]? = some body ↔
      ∃ before ending after, LineAt text index before body ending after := by
  constructor
  · intro listed
    have counted : index < lineCount text := by
      rw [lineCount, ← List.length_map segmentBody]
      exact (List.getElem?_eq_some_iff.mp listed).1
    obtain ⟨before, other, ending, after, found⟩ := exists_lineAt counted
    rw [found.getElem?_lines, Option.some.injEq] at listed
    exact ⟨before, ending, after, listed ▸ found⟩
  · rintro ⟨before, ending, after, found⟩
    exact found.getElem?_lines

/-- What one line break at the end does not change, the carriage return of a line
does not. -/
theorem eq_dropLastIf {α : Type} (read : List Char → α)
    (ignored : ∀ text mark, isLineBreak mark = true →
      read (text ++ [mark]) = read text) (line : List Char) :
    read (dropLastIf (· == '\r') line) = read line := by
  unfold dropLastIf
  split
  · rename_i last found
    obtain ⟨before, rfl⟩ := List.getLast?_eq_some_iff.mp found
    split
    · rename_i returned
      obtain rfl := beq_iff_eq.mp returned
      rw [List.dropLast_concat, ignored before '\r' rfl]
    · rfl
  · rfl

end Lines

/-! ## Locations -/

namespace SourcePath

variable {extension : List Char} {mark : Char}

theorem ofPieces_eq_map (offset : Nat) (text : List Char) :
    ofPieces extension offset (pieces text) =
      (locate extension text).map (Location.shift offset) := by
  apply Option.ext
  intro location
  rw [ofPieces_eq_some_iff, Option.map_eq_some_iff]
  simp only [locate_eq_some_iff, @eq_comm _ location]

theorem ofPieces_append_cons (breaks : isLineBreak mark = true) (offset : Nat)
    (left right : List Char) :
    ofPieces extension offset (pieces (left ++ mark :: right)) =
      (ofPieces extension offset (pieces left)).or
        (ofPieces extension (offset + utf8Length left + 1) (pieces right)) := by
  induction left using segment_induction isLineBreak generalizing offset with
  | last line unbroken =>
      rw [pieces, splitBy_append_cons breaks, pieces, splitBy_of_unbroken unbroken,
        List.singleton_append, ofPieces, ofPieces]
      cases ofPiece extension line with
      | none => rfl
      | some location => rfl
  | more line other rest unbroken ends ih =>
      have first (more : List Char) :
          pieces (line ++ other :: more) = line :: pieces more := by
        rw [pieces, splitBy_append_cons ends, splitBy_of_unbroken unbroken]
        rfl
      have measured : offset + utf8Length line + 1 + utf8Length rest =
          offset + utf8Length (line ++ other :: rest) := by
        rw [utf8Length_append, utf8Length, utf8Size_of_isLineBreak ends]
        omega
      rw [List.append_assoc, List.cons_append, first, first, ofPieces, ofPieces]
      cases ofPiece extension line with
      | none => exact (ih _).trans (by rw [measured])
      | some location => rfl

/-- A line break divides a text: what is behind it counts only if nothing is found
in front of it. -/
theorem locate_append_cons (breaks : isLineBreak mark = true)
    (left right : List Char) :
    locate extension (left ++ mark :: right) =
      (locate extension left).or
        ((locate extension right).map (Location.shift (utf8Length left + 1))) := by
  rw [locate, ofPieces_append_cons breaks, Nat.zero_add,
    ofPieces_eq_map (utf8Length left + 1)]
  rfl

theorem covers_of_locate {text : List Char} {location : Location}
    (located : locate extension text = some location) :
    ∃ part, location.span.Covers text part := by
  obtain ⟨_, _, _, _, _, place, yields, rfl, _⟩ := locate_eq_some_iff.mp located
  exact ⟨_, yields.covers place⟩

theorem locate_of_mem_lines {text line : List Char}
    (missing : locate extension text = none) (member : line ∈ lines text) :
    locate extension line = none := by
  induction text using segment_induction (· == '\n') with
  | last text unbroken =>
      by_cases telling : text = []
      · subst telling
        cases member
      · rw [lines_of_unbroken unbroken telling, List.mem_singleton] at member
        rw [member, missing]
  | more text mark rest unbroken ends ih =>
      obtain rfl := beq_iff_eq.mp ends
      rw [locate_append_cons (by rfl), Option.or_eq_none_iff, Option.map_eq_none_iff]
        at missing
      rw [lines_append_cons unbroken, List.mem_cons] at member
      rcases member with rfl | later
      · rw [eq_dropLastIf _ fun text _ => locate_append_break text, missing.1]
      · exact ih missing.2 later

end SourcePath

/-! ## Links -/

namespace Link

open ToolBridge.SourcePath

variable {extension active : String} {location : Location} {link : Link}

/-- The same link in a text with more units in front. -/
def shift (units : Nat) (link : Link) : Link :=
  { link with startIndex := link.startIndex + units }

/-- The link to a location of a text, if that names the active file. -/
def ofLocation? (text : List Char) (active : String) (location : Location) :
    Option Link :=
  if location.file = some (String.ofList (fileName active.toList)) then
    some
      { startIndex := (measure text location.span).1
        length := (measure text location.span).2
        tooltip := active ++ ":" ++ numeral location.line ++ ":" ++
          numeral location.column
        filePath := active
        line := some (location.line - 1)
        column := some (location.column - 1) }
  else none

theorem resolve_eq_bind (extension active : String) (text : List Char) :
    resolve extension (String.ofList text) active =
      (SourcePath.locate extension.toList text).bind (ofLocation? text active) := by
  unfold resolve locateSourcePath
  rw [String.toList_ofList]
  cases SourcePath.locate extension.toList text with
  | none => rfl
  | some location => rfl

section Measure

variable {text part : List Char}

/-- What stands behind a text does not matter to its locations. -/
theorem ofLocation?_append (covers : location.span.Covers text part)
    (more : List Char) :
    ofLocation? (text ++ more) active location = ofLocation? text active location := by
  obtain ⟨before, after, rfl, span⟩ := covers
  unfold ofLocation?
  rw [span, List.append_assoc, List.append_assoc, measure_eq, measure_eq]

/-- What stands in front of a text moves its locations and their links. -/
theorem ofLocation?_shift (covers : location.span.Covers text part)
    (front : List Char) :
    ofLocation? (front ++ text) active (location.shift (utf8Length front)) =
      (ofLocation? text active location).map (shift (utf16Length front)) := by
  obtain ⟨before, after, rfl, span⟩ := covers
  have moved : location.span.shift (utf8Length front) =
      ⟨utf8Length (front ++ before), utf8Length (front ++ before ++ part)⟩ := by
    simp only [span, ByteSpan.shift, utf8Length_append, Nat.add_assoc]
  unfold ofLocation? Location.shift
  dsimp only
  rw [moved, span, ← List.append_assoc, measure_eq, measure_eq, utf16Length_append]
  split
  · simp only [Option.map_some, shift, Nat.add_comm]
  · rfl

end Measure

section Breaks

variable {left : List Char} {mark : Char} (breaks : isLineBreak mark = true)
include breaks

theorem resolve_of_located (right : List Char)
    (located : SourcePath.locate extension.toList left = some location) :
    resolve extension (String.ofList (left ++ mark :: right)) active =
      resolve extension (String.ofList left) active := by
  obtain ⟨part, covers⟩ := SourcePath.covers_of_locate located
  rw [resolve_eq_bind, resolve_eq_bind, locate_append_cons breaks, located,
    Option.some_or, Option.bind_some, Option.bind_some, ofLocation?_append covers]

theorem resolve_of_unlocated (right : List Char)
    (missing : SourcePath.locate extension.toList left = none) :
    resolve extension (String.ofList (left ++ mark :: right)) active =
      (resolve extension (String.ofList right) active).map
        (shift (utf16Length (left ++ [mark]))) := by
  have measured : utf8Length left + 1 = utf8Length (left ++ [mark]) := by
    rw [utf8Length_append, utf8Length, utf8Size_of_isLineBreak breaks]
    rfl
  rw [resolve_eq_bind, resolve_eq_bind, locate_append_cons breaks, missing,
    Option.none_or, measured, List.append_cons left mark right]
  cases located : SourcePath.locate extension.toList right with
  | none => rfl
  | some location =>
      obtain ⟨part, covers⟩ := SourcePath.covers_of_locate located
      exact ofLocation?_shift covers _

theorem resolve_append_break (text : List Char) :
    resolve extension (String.ofList (text ++ [mark])) active =
      resolve extension (String.ofList text) active := by
  cases located : SourcePath.locate extension.toList text with
  | some location => exact resolve_of_located breaks [] located
  | none =>
      rw [resolve_of_unlocated breaks [] located, resolve_eq_bind, resolve_eq_bind,
        located]
      rfl

end Breaks

/-! ## Numbered links -/

theorem map_resolveNumbered (extension text active : String) :
    (resolveNumbered extension text active).map Prod.snd =
      resolveAll extension text active := by
  unfold resolveNumbered resolveAll
  conv => rhs; rw [← List.zipIdx_map_fst 1 (lines text.toList), List.filterMap_map]
  rw [List.map_filterMap]
  congr 1
  funext line
  rw [Option.map_map]
  exact Option.map_id'

theorem pairwise_resolveNumbered (extension text active : String) :
    (resolveNumbered extension text active).Pairwise fun one next =>
      one.1 < next.1 := by
  have numbers : (((lines text.toList).zipIdx 1).map Prod.snd).Pairwise (· < ·) := by
    rw [List.zipIdx_map_snd]
    exact List.pairwise_lt_range' 1
  rw [resolveNumbered, List.pairwise_filterMap]
  refine (List.pairwise_map.mp numbers).imp ?_
  intro one next before first firstLinked second secondLinked
  obtain ⟨_, _, rfl⟩ := Option.map_eq_some_iff.mp firstLinked
  obtain ⟨_, _, rfl⟩ := Option.map_eq_some_iff.mp secondLinked
  exact before

/-- A line of a text has a link. -/
def LinkedLine (extension text active : String) (index : Nat) (link : Link) : Prop :=
  ∃ before body ending after,
    LineAt text.toList index before body ending after ∧
      resolve extension (String.ofList body) active = some link

theorem mem_resolveNumbered_iff {text : String} {number : Nat} :
    (number, link) ∈ resolveNumbered extension text active ↔
      ∃ index, number = index + 1 ∧
        LinkedLine extension text active index link := by
  unfold resolveNumbered
  rw [List.mem_filterMap]
  constructor
  · rintro ⟨⟨body, place⟩, listed, resolved⟩
    obtain ⟨other, linked, same⟩ := Option.map_eq_some_iff.mp resolved
    cases same
    obtain ⟨counted, here⟩ := List.mk_mem_zipIdx_iff_le_and_getElem?_sub.mp listed
    obtain ⟨before, ending, after, found⟩ := getElem?_lines_iff.mp here
    exact ⟨place - 1, (Nat.sub_add_cancel counted).symm, before, body, ending, after,
      found, linked⟩
  · rintro ⟨index, rfl, before, body, ending, after, found, linked⟩
    refine ⟨(body, index + 1), ?_, by rw [linked, Option.map_some]⟩
    exact List.mk_mem_zipIdx_iff_le_and_getElem?_sub.mpr
      ⟨Nat.le_add_left 1 index, found.getElem?_lines⟩

/-! ## The whole text -/

theorem exists_first_linked {text : List Char}
    (resolved : resolve extension (String.ofList text) active = some link) :
    ∃ silent body later before ending after first,
      lines text = silent ++ body :: later ∧
      (∀ line ∈ silent, resolve extension (String.ofList line) active = none) ∧
      LineAt text silent.length before body ending after ∧
      resolve extension (String.ofList body) active = some first ∧
      link = first.shift (utf16Length before) := by
  induction text using segment_induction (· == '\n') generalizing link with
  | last line unbroken =>
      by_cases telling : line = []
      · subst telling
        rw [resolve_eq_bind] at resolved
        cases resolved
      · refine ⟨[], line, [], [], .missing, [], link,
          lines_of_unbroken unbroken telling, by simp, ?_, resolved, rfl⟩
        exact ⟨by simp [LineEnd.text], rfl, by simp [Lined], unbroken, by simp,
          fun _ => ⟨rfl, telling⟩⟩
  | more line mark rest unbroken ends ih =>
      obtain rfl := beq_iff_eq.mp ends
      have cut := lines_append_cons unbroken rest
      have trimmed := eq_dropLastIf
        (fun text => resolve extension (String.ofList text) active)
        (fun text _ breaks => resolve_append_break breaks text) line
      cases located : SourcePath.locate extension.toList line with
      | some location =>
          rw [resolve_of_located rfl rest located] at resolved
          obtain ⟨first, ending, found⟩ := LineAt.first unbroken rest
          have same := found.getElem?_lines
          rw [cut, List.getElem?_cons_zero, Option.some.injEq] at same
          rw [same] at trimmed cut
          exact ⟨[], first, lines rest, [], ending, rest, link, cut, by simp, found,
            trimmed.trans resolved, rfl⟩
      | none =>
          rw [resolve_of_unlocated rfl rest located] at resolved
          obtain ⟨inner, behind, rfl⟩ := Option.map_eq_some_iff.mp resolved
          obtain ⟨silent, other, later, before, ending, after, first, listed,
            unlinked, found, linked, rfl⟩ := ih behind
          refine ⟨dropLastIf (· == '\r') line :: silent, other, later,
            line ++ '\n' :: before, ending, after, first, ?_, ?_,
            found.cons unbroken, linked, ?_⟩
          · rw [cut, listed, List.cons_append]
          · intro earlier member
            rcases List.mem_cons.mp member with rfl | member
            · rw [trimmed, resolve_eq_bind, located]
              rfl
            · exact unlinked earlier member
          · rw [List.append_cons line '\n' before, utf16Length_append (line ++ ['\n'])]
            simp only [shift, Nat.add_assoc, Nat.add_comm (utf16Length before)]

theorem resolveNumbered_of_silent {text : String} {silent later : List (List Char)}
    {body : List Char} {first : Link}
    (listed : lines text.toList = silent ++ body :: later)
    (unlinked : ∀ line ∈ silent, resolve extension (String.ofList line) active = none)
    (linked : resolve extension (String.ofList body) active = some first) :
    ∃ rest, resolveNumbered extension text active =
      (silent.length + 1, first) :: rest := by
  unfold resolveNumbered
  rw [listed, List.zipIdx_append, List.filterMap_append, List.zipIdx_cons,
    List.filterMap_cons, linked, Nat.add_comm 1, List.filterMap_eq_nil_iff.mpr,
    List.nil_append]
  · exact ⟨_, rfl⟩
  · rintro ⟨line, number⟩ member
    rw [unlinked line (List.fst_mem_of_mem_zipIdx member), Option.map_none]

/-- How the links of a text go together with the links of its lines. -/
structure LinksPerLine (extension text active : String) : Prop where
  /-- The links of a text are those of its lines, in their order. -/
  numbered : (resolveNumbered extension text active).map Prod.snd =
    resolveAll extension text active
  ordered : (resolveNumbered extension text active).Pairwise fun one next =>
    one.1 < next.1
  complete : ∀ {number link},
    (number, link) ∈ resolveNumbered extension text active ↔
      ∃ index, number = index + 1 ∧ LinkedLine extension text active index link
  /-- The link of the whole text is that of the first line that has one. -/
  whole : ∀ {link}, resolve extension text active = some link →
    ∃ index before body ending after first rest,
      LineAt text.toList index before body ending after ∧
      resolve extension (String.ofList body) active = some first ∧
      resolveNumbered extension text active = (index + 1, first) :: rest ∧
      resolveAll extension text active = first :: rest.map Prod.snd ∧
      link =
        { first with startIndex := first.startIndex + utf16Length before }
  silent : (∀ front piece back, PieceAt text.toList front piece back →
      ∀ reading location, ¬ Yields extension.toList piece reading location) →
    resolve extension text active = none ∧ resolveAll extension text active = []

/-- For every text, the links that are listed are those of its lines, one after the
other and at most one a line; and the link of the whole text, if there is one, is
the first of them, moved by the units in front of its line. -/
theorem linksPerLine_text (extension text active : String) :
    LinksPerLine extension text active where
  numbered := map_resolveNumbered extension text active
  ordered := pairwise_resolveNumbered extension text active
  complete := mem_resolveNumbered_iff
  whole {link} resolved := by
    rw [← String.ofList_toList (s := text)] at resolved
    obtain ⟨silent, body, later, before, ending, after, first, listed,
      unlinked, found, linked, moved⟩ := exists_first_linked resolved
    obtain ⟨rest, numbered⟩ := resolveNumbered_of_silent listed unlinked linked
    refine ⟨silent.length, before, body, ending, after, first, rest, found, linked,
      numbered, ?_, moved⟩
    rw [← map_resolveNumbered, numbered, List.map_cons]
  silent nothing := by
    have missing : SourcePath.locate extension.toList text.toList = none := by
      cases located : SourcePath.locate extension.toList text.toList with
      | none => rfl
      | some location =>
          obtain ⟨front, piece, back, reading, inner, place, yields, _⟩ :=
            SourcePath.locate_eq_some_iff.mp located
          exact absurd yields (nothing front piece back place reading inner)
    constructor
    · rw [← String.ofList_toList (s := text), resolve_eq_bind, missing]
      rfl
    · apply List.filterMap_eq_nil_iff.mpr
      intro line member
      rw [resolve_eq_bind, locate_of_mem_lines missing member]
      rfl

/-- A carriage return alone ends a piece and not a line, and a number without a
value is passed over. -/
example :
    let text := "𝄞\r\nx.frg:4294967296:1\n𝄞\rhw/x.frg:2:3\r\nx.frg:4:5\n"
    resolve "frg" text "/hw/x.frg" =
        some ⟨28, 10, "/hw/x.frg:2:3", "/hw/x.frg", some 1, some 2⟩ ∧
      resolveNumbered "frg" text "/hw/x.frg" =
        [(3, ⟨5, 10, "/hw/x.frg:2:3", "/hw/x.frg", some 1, some 2⟩),
          (4, ⟨0, 9, "/hw/x.frg:4:5", "/hw/x.frg", some 3, some 4⟩)] := by
  decide

end Link

end ToolBridge
