import ToolBridge.CommandLine.Report
import ToolBridge.Proofs.Location.SourcePath
import ToolBridge.Proofs.Text.Number

/-!
# Printed places can be read back

The tooltip of a link and the text of a report start with a path, a line and a
column.  The locator reads them as they were meant: names with colons and
digits, directories in several lines and messages that quote other places do
not mislead it, as long as the directory itself holds no locator.
-/

namespace ToolBridge.Link

open ToolBridge.Text ToolBridge.SourcePath ToolBridge.CommandLine

variable {extension path : List Char}

/-- The part of a path in front of its last component. -/
def folder (path : List Char) : List Char :=
  dropEndWhile (fun c => !isSeparator c) path

theorem folder_append_fileName (path : List Char) :
    folder path ++ fileName path = path :=
  dropEndWhile_append_afterLast isSeparator path

theorem isFolder_folder (path : List Char) : IsFolder (folder path) := by
  intro mark last
  rcases dropEndWhile_eq_nil_or isSeparator path with
    nothing | ⟨before, separator, separates, whole⟩
  · rw [folder, nothing] at last
    cases last
  · rw [folder, whole, List.getLast?_concat] at last
    cases last
    exact separates

/-- A source path whose last component is one word, with nothing like a locator
in front of it. -/
structure Readable (extension path : List Char) : Prop where
  plain : ∀ c ∈ extension, isNameChar c = true
  source : ∃ name, fileName path = name ++ '.' :: extension
  solid : ∀ c ∈ fileName path, isBlank c = false
  free : Free extension (folder path)

theorem Readable.named (readable : Readable extension path) :
    ∀ c ∈ fileName path, isNameChar c = true := by
  intro c member
  have noSeparator := unbroken_afterLast isSeparator path c member
  simp [isNameChar, noSeparator, readable.solid c member]

theorem isLineBreak_of_isBlank {c : Char} (solid : isBlank c = false) :
    isLineBreak c = false := by
  cases breaks : isLineBreak c with
  | false => rfl
  | true =>
      simp only [isLineBreak, Bool.or_eq_true, beq_iff_eq] at breaks
      rcases breaks with rfl | rfl <;> cases solid

theorem isRun_toDigits (n : Nat) : IsRun (Nat.toDigits 10 n) :=
  ⟨Nat.toDigits_ne_nil, fun _ member => (isDecimal_of_mem_toDigits member).1⟩

/-- A line and a column as they are printed behind a path. -/
def position (line column : Nat) : List Char :=
  ':' :: Nat.toDigits 10 line ++ ':' :: Nat.toDigits 10 column

theorem unbroken_position (line column : Nat) :
    Unbroken isLineBreak (position line column) := by
  intro c member
  simp only [position, List.cons_append, List.mem_cons, List.mem_append] at member
  rcases member with rfl | inLine | rfl | inColumn
  · rfl
  · exact (isDecimal_of_mem_toDigits inLine).2
  · rfl
  · exact (isDecimal_of_mem_toDigits inColumn).2

section Reading

variable {line column : Nat} {rest : List Char}

theorem Readable.unbroken (readable : Readable extension path) (line column : Nat) :
    Unbroken isLineBreak (fileName path ++ position line column) := by
  intro c member
  rcases List.mem_append.mp member with inName | inPosition
  · exact isLineBreak_of_isBlank (readable.solid c inName)
  · exact unbroken_position line column c inPosition

/-- The name is read up to the position, whether the text ends there or goes on
with a colon and a blank. -/
theorem readName_printed (readable : Readable extension path) {name : List Char}
    (spelt : fileName path = name ++ '.' :: extension) (line column : Nat)
    (ends : rest = [] ∨ ∃ more, rest = ':' :: ' ' :: more) :
    ∃ colon, readName extension (fileName path ++ position line column ++ rest) =
      some ⟨[], name, Nat.toDigits 10 line, Nat.toDigits 10 column, colon⟩ := by
  have named := readable.named
  rw [spelt] at named ⊢
  have read {spent : List Char} (used : spent = [] ∨ spent = [':']) :=
    readName_position named (isRun_toDigits line) (isRun_toDigits column) used
  rcases ends with rfl | ⟨more, rfl⟩
  · refine ⟨false, ?_⟩
    have whole := read (Or.inl rfl)
    rw [← List.append_assoc] at whole
    exact whole
  · refine ⟨true, ?_⟩
    have whole := read (Or.inr rfl)
    have wall : IsWall extension ' ' := .of_isNameChar readable.plain (by decide)
    have walled := wall.readName_append
      (name ++ '.' :: extension ++ (position line column ++ [':'])) more
    rw [position, whole] at walled
    simpa [position] using walled

theorem locate_printed (readable : Readable extension path)
    (lineFits : line < numberBound) (columnFits : column < numberBound)
    (ends : rest = [] ∨ ∃ more, rest = ':' :: ' ' :: more) :
    ∃ location,
      SourcePath.locate extension (path ++ position line column ++ rest) =
        some location ∧ Tells line column (fileName path) location := by
  obtain ⟨name, spelt⟩ := readable.source
  have firstLine : beforeFirst isLineBreak
        (fileName path ++ position line column ++ rest) =
      fileName path ++ position line column ++ beforeFirst isLineBreak rest :=
    beforeFirst_append (readable.unbroken line column) rest
  have endsLine : beforeFirst isLineBreak rest = [] ∨
      ∃ more, beforeFirst isLineBreak rest = ':' :: ' ' :: more := by
    rcases ends with rfl | ⟨more, rfl⟩
    · exact Or.inl rfl
    · exact Or.inr ⟨beforeFirst isLineBreak more, rfl⟩
  obtain ⟨colon, read⟩ := readName_printed readable spelt line column endsLine
  rw [← firstLine] at read
  have located := locate_walled readable.plain readable.free
    (isFolder_folder path).walled ?opens read (readNumber?_toDigits lineFits)
    (readNumber?_toDigits columnFits)
  case opens =>
    intro c head
    apply isSeparator_of_isNameChar
    apply readable.named
    rw [firstLine, List.append_assoc, spelt] at head
    rw [spelt]
    exact List.mem_of_head? (by simpa using head)
  rw [← List.append_assoc, ← List.append_assoc, folder_append_fileName] at located
  rw [spelt]
  exact located

end Reading

/-! ## Links -/

theorem fits_of_locate {text : List Char} {location : Location}
    (located : SourcePath.locate extension text = some location) :
    location.line < numberBound ∧ location.column < numberBound := by
  have inPiece {piece : List Char} {location : Location}
      (found : ofPiece extension piece = some location) :
      location.line < numberBound ∧ location.column < numberBound := by
    unfold ofPiece Written.location? at found
    split at found
    · split at found
      · rename_i lineRead columnRead
        cases found
        exact ⟨lt_numberBound_of_readNumber? lineRead,
          lt_numberBound_of_readNumber? columnRead⟩
      · cases found
    · cases found
  unfold SourcePath.locate at located
  generalize 0 = offset, pieces text = remaining at located
  induction remaining generalizing offset with
  | nil => cases located
  | cons piece rest ih =>
      rw [ofPieces] at located
      split at located
      · rename_i found
        cases located
        have fits := inPiece found
        exact fits
      · exact ih _ located

/-- The link leads to a place of the active file. -/
structure LeadsTo (active : String) (line column : Nat) (link : Link) : Prop where
  tooltip : link.tooltip.toList = active.toList ++ position line column
  filePath : link.filePath = active
  line : link.line = some (line - 1)
  column : link.column = some (column - 1)

theorem resolve_of_tells {extension text active : String} {line column : Nat}
    {location : Location}
    (located : SourcePath.locate extension.toList text.toList = some location)
    (tells : Tells line column (fileName active.toList) location) :
    ∃ link, resolve extension text active = some link ∧
      LeadsTo active line column link := by
  obtain ⟨rfl, rfl, named⟩ := tells
  simp only [resolve, locateSourcePath, located, if_pos named]
  exact ⟨_, rfl, by simp [position, numeral], rfl, rfl, rfl⟩

theorem leadsTo_of_resolve {extension text active : String} {link : Link}
    (resolved : resolve extension text active = some link) :
    ∃ line column, line < numberBound ∧ column < numberBound ∧
      LeadsTo active line column link := by
  unfold resolve locateSourcePath at resolved
  split at resolved
  · rename_i location located
    split at resolved
    · cases resolved
      have fits := fits_of_locate located
      exact ⟨location.line, location.column, fits.1, fits.2,
        by simp [position, numeral], rfl, rfl, rfl⟩
    · cases resolved
  · cases resolved

/-! ## Reports -/

theorem toList_text (path : String) {diagnostic : Diagnostic}
    (lineFits : diagnostic.range.start.line + 1 < numberBound)
    (columnFits : diagnostic.range.start.character + 1 < numberBound) :
    ∃ more, ((Report.ofDiagnostic path diagnostic).text false).toList =
      path.toList ++ position (diagnostic.range.start.line + 1)
        (diagnostic.range.start.character + 1) ++ ':' :: ' ' :: more := by
  simp [Report.text, Report.ofDiagnostic, countedFromOne, paint,
    position, numeral, Nat.mod_eq_of_lt lineFits,
    Nat.mod_eq_of_lt columnFits]

/-- What is printed for a place is read back as that place.  The tooltip of any
link to a readable path resolves to a link to the same place, and the report of
any diagnostic is located where it reports, whatever its message says. -/
theorem readBack_of_readable (extension path : String)
    (readable : Readable extension.toList path.toList) :
    (∀ text link, resolve extension text path = some link →
      ∃ again, resolve extension link.tooltip path = some again ∧
        again.tooltip = link.tooltip ∧ again.filePath = link.filePath ∧
        again.line = link.line ∧ again.column = link.column) ∧
    ∀ diagnostic : Diagnostic,
      diagnostic.range.start.line + 1 < numberBound →
      diagnostic.range.start.character + 1 < numberBound →
      ∃ location,
        locateSourcePath extension
            ((Report.ofDiagnostic path diagnostic).text false) = some location ∧
          location.line = diagnostic.range.start.line + 1 ∧
          location.column = diagnostic.range.start.character + 1 ∧
          location.file = some (String.ofList (fileName path.toList)) := by
  constructor
  · intro text link resolved
    obtain ⟨line, column, lineFits, columnFits, leads⟩ := leadsTo_of_resolve resolved
    obtain ⟨location, located, tells⟩ :=
      locate_printed readable lineFits columnFits (Or.inl rfl)
    rw [List.append_nil, ← leads.tooltip] at located
    obtain ⟨again, resolvedAgain, leadsAgain⟩ := resolve_of_tells located tells
    refine ⟨again, resolvedAgain, ?_, ?_, ?_, ?_⟩
    · exact String.toList_inj.mp (leadsAgain.tooltip.trans leads.tooltip.symm)
    · exact leadsAgain.filePath.trans leads.filePath.symm
    · exact leadsAgain.line.trans leads.line.symm
    · exact leadsAgain.column.trans leads.column.symm
  · intro diagnostic lineFits columnFits
    obtain ⟨more, printed⟩ := toList_text path lineFits columnFits
    rw [locateSourcePath, printed]
    exact locate_printed readable lineFits columnFits (Or.inr ⟨more, rfl⟩)

/-- The name of the file holds a place, its directory holds half of one, and
the message quotes two more. -/
theorem readBack_crowdedName :
    let path := "/hw/old.frg:7/a.frg:1:2:b.frg"
    let terminal := "in a.frg:1:2:b.frg:30:4 here"
    let diagnostic : Diagnostic :=
      ⟨⟨⟨29, 3⟩, ⟨29, 4⟩⟩, ⟨200, 201⟩, .error,
        "x.frg:9:9: unbound\nsee y.frg:8:8", .checker, .check⟩
    Readable "frg".toList path.toList ∧
      (∃ link again, resolve "frg" terminal path = some link ∧
        resolve "frg" link.tooltip path = some again ∧
        again.line = link.line ∧ again.column = link.column) ∧
      ∃ location,
        locateSourcePath "frg" ((Report.ofDiagnostic path diagnostic).text false) =
            some location ∧
          location.line = 30 ∧ location.column = 4 ∧
          location.file = some "a.frg:1:2:b.frg" := by
  intro path terminal diagnostic
  have readable : Readable "frg".toList path.toList := by
    have plain : "frg".toList.all isNameChar = true := by decide
    have solid : (fileName path.toList).all (fun c => !isBlank c) = true := by
      decide
    refine ⟨List.all_eq_true.mp plain, ⟨"a.frg:1:2:b".toList, by decide⟩, ?_, ?_⟩
    · intro c member
      simpa using List.all_eq_true.mp solid c member
    · apply find_eq_none_iff.mp
      decide
  have component : String.ofList (fileName path.toList) = "a.frg:1:2:b.frg" := by
    decide
  obtain ⟨links, reports⟩ := readBack_of_readable "frg" path readable
  refine ⟨readable, ?_, ?_⟩
  · obtain ⟨link, resolved⟩ : ∃ link, resolve "frg" terminal path = some link :=
      Option.isSome_iff_exists.mp (by decide)
    obtain ⟨again, resolvedAgain, _, _, line, column⟩ := links _ link resolved
    exact ⟨link, again, resolved, resolvedAgain, line, column⟩
  · rw [← component]
    exact reports diagnostic (by decide) (by decide)

end ToolBridge.Link
