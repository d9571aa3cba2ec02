import ToolBridge.Config
import ToolBridge.Proofs.Location.ReadBack
import ToolBridge.Proofs.Storage.FileTree

/-!
# Names with the source extension

Four readers know the source extension: the test for source paths, the locator,
the links and the names of scratch files.  Of a name that ends in the extension,
the locator and the links read all, while the test for source paths reads only
what is behind the last dot.  So they agree on a name exactly if there is no dot
in the extension.
-/

namespace ToolBridge

open ToolBridge.Text ToolBridge.SourcePath ToolBridge.FileTree

/-! ## Paths -/

namespace Path

variable {path name stem extension : List Char}

theorem fileName?_of_finalName (last : finalName path = some name)
    (below : name ≠ above) (elsewhere : name ≠ here) :
    fileName? path = some name := by
  obtain ⟨before, whole⟩ := List.getLast?_eq_some_iff.mp last
  have telling : (rawComponents path).filter
      (fun component => component != [] && component != here) =
      before.filter (· != here) ++ [name] := by
    simp only [Bool.and_comm]
    rw [← List.filter_filter, whole]
    simp [elsewhere]
  have ends : (components path).getLast? = some name := by
    simp only [components, telling]
    split
    · rw [← List.cons_append, List.getLast?_concat]
    · rw [List.getLast?_concat]
  rw [fileName?, ends]
  simp [below, elsewhere]

/-- Behind a stem, a name has the extension that it was given if that holds no
dot, and otherwise only a part of it. -/
theorem nameExtension?_eq_some_iff (telling : stem ≠ []) :
    nameExtension? (stem ++ '.' :: extension) = some extension ↔
      '.' ∉ extension := by
  constructor
  · intro read
    have suffix : afterLast (· == '.') (stem ++ '.' :: extension) = extension := by
      simp only [nameExtension?] at read
      split at read
      · exact Option.some.inj read
      · cases read
    have unbroken := unbroken_afterLast (· == '.') (stem ++ '.' :: extension)
    rw [suffix] at unbroken
    intro dotted
    cases unbroken '.' dotted
  · intro undotted
    have unbroken : Unbroken (· == '.') extension := by
      intro c member
      apply beq_eq_false_iff_ne.mpr
      rintro rfl
      exact undotted member
    have behind := List.length_pos_iff.mpr telling
    simp only [nameExtension?]
    rw [afterLast_append_cons rfl unbroken, if_pos]
    rw [List.length_append, List.length_cons]
    omega

theorem extension?_eq_some_iff (last : finalName path = some (stem ++ '.' :: extension))
    (telling : stem ≠ []) (given : extension ≠ []) :
    extension? path = some extension ↔ '.' ∉ extension := by
  have long : 2 < (stem ++ '.' :: extension).length := by
    have inStem := List.length_pos_iff.mpr telling
    have inExtension := List.length_pos_iff.mpr given
    rw [List.length_append, List.length_cons]
    omega
  have named : fileName? path = some (stem ++ '.' :: extension) := by
    apply fileName?_of_finalName last
    · intro same
      rw [same] at long
      exact absurd long (by decide)
    · intro same
      rw [same] at long
      exact absurd long (by decide)
  rw [extension?, named]
  exact nameExtension?_eq_some_iff telling

end Path

/-! ## Locators -/

/-- The name of a file with an extension. -/
def dotted (stem extension : String) : String :=
  stem ++ "." ++ extension

theorem toList_dotted (stem extension : String) :
    (dotted stem extension).toList = stem.toList ++ '.' :: extension.toList := by
  simp [dotted]

/-- A stem and an extension that make a source name: neither is empty, and both
are of characters that names hold. -/
structure Nameable (stem extension : String) : Prop where
  telling : stem.toList ≠ []
  given : extension.toList ≠ []
  named : ∀ c ∈ (dotted stem extension).toList, isNameChar c = true

namespace Nameable

variable {stem extension : String}

theorem slashless (nameable : Nameable stem extension) :
    '/' ∉ (dotted stem extension).toList := by
  intro member
  cases nameable.named '/' member

theorem finalName_inside (nameable : Nameable stem extension) (directory : String) :
    finalName (directory ++ "/" ++ dotted stem extension).toList =
      some (dotted stem extension).toList := by
  have telling : (dotted stem extension).toList ≠ [] := by simp [toList_dotted]
  have joined : (directory ++ "/" ++ dotted stem extension).toList =
      Path.join (directory.toList ++ ['/']) (dotted stem extension).toList := by
    simp [Path.join]
  rw [joined]
  apply finalName_join telling nameable.slashless

theorem fileName_inside (nameable : Nameable stem extension) (directory : String) :
    Link.fileName (directory ++ "/" ++ dotted stem extension).toList =
      (dotted stem extension).toList := by
  have split : (directory ++ "/" ++ dotted stem extension).toList =
      directory.toList ++ '/' :: (dotted stem extension).toList := by
    simp
  rw [split]
  apply afterLast_append_cons rfl
  intro c member
  exact isSeparator_of_isNameChar (nameable.named c member)

/-- A name with a line, a column and a colon. -/
def placed (name : List Char) (line column : Nat) : List Char :=
  name ++ Link.position line column ++ [':']

theorem unbroken_placed (nameable : Nameable stem extension) (line column : Nat) :
    Unbroken isLineBreak (placed (dotted stem extension).toList line column) := by
  intro c member
  rcases List.mem_append.mp member with before | colon
  · rcases List.mem_append.mp before with inName | inPosition
    · have named := nameable.named c inName
      simp only [isNameChar, Bool.and_eq_true, Bool.not_eq_true'] at named
      exact Link.isLineBreak_of_isBlank named.2
    · exact Link.unbroken_position line column c inPosition
  · cases List.mem_singleton.mp colon
    rfl

theorem find_placed (nameable : Nameable stem extension) (line column : Nat) :
    find extension.toList (placed (dotted stem extension).toList line column) =
      some (0, ⟨[], stem.toList, Nat.toDigits 10 line, Nat.toDigits 10 column,
        true⟩) := by
  have named := nameable.named
  rw [toList_dotted] at named ⊢
  have read : readName extension.toList
      (placed (stem.toList ++ '.' :: extension.toList) line column) =
      some ⟨[], stem.toList, Nat.toDigits 10 line, Nat.toDigits 10 column, true⟩ := by
    rw [placed, List.append_assoc]
    exact readName_position named (Link.isRun_toDigits line)
      (Link.isRun_toDigits column) (Or.inr rfl)
  obtain ⟨c, cs, opens⟩ := List.exists_cons_of_ne_nil nameable.telling
  rw [opens] at named read ⊢
  have noSeparator := isSeparator_of_isNameChar (named c List.mem_cons_self)
  rw [placed, List.cons_append, List.cons_append, List.cons_append] at read ⊢
  simp only [find, readHere, noSeparator, read]
  rfl

theorem locate_placed (nameable : Nameable stem extension) {line column : Nat}
    (lineFits : line < numberBound) (columnFits : column < numberBound) :
    SourcePath.locate extension.toList
        (placed (dotted stem extension).toList line column) =
      some ⟨line, column, some (dotted stem extension), .sourcePath,
        ⟨0, utf8Length (placed (dotted stem extension).toList line column)⟩⟩ := by
  have whole : pieces (placed (dotted stem extension).toList line column) =
      [placed (dotted stem extension).toList line column] :=
    splitBy_of_unbroken (nameable.unbroken_placed line column)
  have spelt : String.ofList (stem.toList ++ '.' :: extension.toList) =
      dotted stem extension := by
    rw [← toList_dotted, String.ofList_toList]
  rw [SourcePath.locate, whole, ofPieces, ofPiece, survey_eq]
  simp only [nameable.find_placed, Written.location?,
    readNumber?_toDigits lineFits, readNumber?_toDigits columnFits]
  simp [Written.file, Written.text, spelt, placed, toList_dotted,
    Location.shift, ByteSpan.shift, Link.position]

end Nameable

/-! ## The readers of the extension -/

namespace Config

variable {config : Config}

theorem isSourcePath_iff {path : String} {stem : List Char}
    (last : finalName path.toList = some (stem ++ '.' :: config.extension.toList))
    (telling : stem ≠ []) (given : config.extension.toList ≠ []) :
    config.isSourcePath path = true ↔ '.' ∉ config.extension.toList := by
  rw [isSourcePath, beq_iff_eq]
  exact Path.extension?_eq_some_iff last telling given

/-- What the readers of the source extension make of a name with it. -/
structure ExtensionReadings (config : Config) (stem : String) : Prop where
  path : ∀ directory : String,
    config.isSourcePath (directory ++ "/" ++ dotted stem config.extension) = true ↔
      '.' ∉ config.extension.toList
  located : ∀ line column, line < numberBound → column < numberBound →
    let text := dotted stem config.extension ++ ":" ++ numeral line ++ ":" ++
      numeral column ++ ":"
    locate config.extension text =
      some ⟨line, column, some (dotted stem config.extension), .sourcePath,
        ⟨0, utf8Length text.toList⟩⟩
  linked : ∀ (directory : String) (line column : Nat),
    line < numberBound → column < numberBound →
      let active := directory ++ "/" ++ dotted stem config.extension
      ∃ link, Link.resolve config.extension
          (dotted stem config.extension ++ ":" ++ numeral line ++ ":" ++
            numeral column ++ ":") active = some link ∧
        Link.LeadsTo active line column link
  scratch : ∀ directory identity : String,
    config.isSourcePath (Scratch.pathFor ⟨directory, config.extension⟩ identity) =
        true ↔
      '.' ∉ config.extension.toList

/-- The locator and the links read every name with the source extension, in
whatever directory.  The test for source paths accepts it, and accepts scratch
files, exactly if there is no dot inside the extension. -/
theorem extensionReadings_of_nameable (config : Config) (stem : String)
    (nameable : Nameable stem config.extension) : config.ExtensionReadings stem := by
  have written (line column : Nat) :
      (dotted stem config.extension ++ ":" ++ numeral line ++ ":" ++
        numeral column ++ ":").toList =
      Nameable.placed (dotted stem config.extension).toList line column := by
    simp [Nameable.placed, Link.position, numeral]
  constructor
  · intro directory
    have last := nameable.finalName_inside directory
    rw [toList_dotted] at last
    exact isSourcePath_iff last nameable.telling nameable.given
  · intro line column lineFits columnFits text
    have located := nameable.locate_placed lineFits columnFits
    rw [← written] at located
    rw [locate, located]
  · intro directory line column lineFits columnFits active
    have located := nameable.locate_placed lineFits columnFits
    rw [← written] at located
    apply Link.resolve_of_tells located
    refine ⟨rfl, rfl, ?_⟩
    rw [nameable.fileName_inside, String.ofList_toList]
  · intro directory identity
    have slashless : '/' ∉ config.extension.toList := by
      intro member
      apply nameable.slashless
      rw [toList_dotted]
      exact List.mem_append_right _ (List.mem_cons_of_mem _ member)
    have last := finalName_pathFor ⟨directory, config.extension⟩ identity slashless
    exact isSourcePath_iff last (by simp) nameable.given

/-- Neither other dots nor a place inside the name mislead a reader. -/
theorem extensionReadings_crowdedName :
    Nameable "..a.frg:1:2:b" "frg" ∧
      standard.isSourcePath "/hw/..a.frg:1:2:b.frg" = true ∧
      locate "frg" "..a.frg:1:2:b.frg:30:4:" =
        some ⟨30, 4, some "..a.frg:1:2:b.frg", .sourcePath, ⟨0, 23⟩⟩ ∧
      ∀ directory identity : String,
        standard.isSourcePath (Scratch.pathFor ⟨directory, "frg"⟩ identity) = true := by
  have named : (dotted "..a.frg:1:2:b" "frg").toList.all isNameChar = true := by decide
  have nameable : Nameable "..a.frg:1:2:b" "frg" :=
    ⟨by decide, by decide, List.all_eq_true.mp named⟩
  have undotted : '.' ∉ "frg".toList := by decide
  have reads := extensionReadings_of_nameable standard "..a.frg:1:2:b" nameable
  refine ⟨nameable, (reads.path "/hw").mpr undotted,
    reads.located 30 4 (by decide) (by decide), ?_⟩
  intro directory identity
  exact (reads.scratch directory identity).mpr undotted

/-- With a dot inside the extension, a place in a file gives a link into the
file, but the file is no source file. -/
theorem refused_innerDot :
    let config : Config := { extension := "f.g" }
    Nameable "a" config.extension ∧
      (Link.resolve config.extension "a.f.g:1:2:" "dir/a.f.g").isSome = true ∧
      config.isSourcePath "dir/a.f.g" = false := by
  have named : (dotted "a" "f.g").toList.all isNameChar = true := by decide
  exact ⟨⟨by decide, by decide, List.all_eq_true.mp named⟩, by decide, by decide⟩

end Config

end ToolBridge
