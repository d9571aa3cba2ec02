import ToolBridge.Proofs.Location.ReadBack
import ToolBridge.Proofs.Location.Spans

/-!
# Where a link stands

The locator of a link is found by its bytes and shown by its UTF-16 units.  The
units between the ends of the link are those of the locator, whatever characters
and line breaks stand in front of it.

There is a link exactly if the locator that is found names the active file.  No
other locator of the line is asked.
-/

namespace ToolBridge

namespace Text

/-! ## UTF-16 -/

/-- The UTF-16 units of a character: one, or a high and a low surrogate. -/
def utf16EncodeChar (c : Char) : List UInt16 :=
  if c.toNat < 0x10000 then [c.toNat.toUInt16]
  else
    let rest := c.toNat - 0x10000
    [(0xD800 + rest / 0x400).toUInt16, (0xDC00 + rest % 0x400).toUInt16]

def utf16Encode (text : List Char) : List UInt16 :=
  text.flatMap utf16EncodeChar

theorem utf16Encode_append (left right : List Char) :
    utf16Encode (left ++ right) = utf16Encode left ++ utf16Encode right :=
  List.flatMap_append

theorem length_utf16EncodeChar (c : Char) : (utf16EncodeChar c).length = utf16Size c := by
  unfold utf16EncodeChar utf16Size
  split
  · rfl
  · rfl

theorem length_utf16Encode (text : List Char) :
    (utf16Encode text).length = utf16Length text := by
  induction text with
  | nil => rfl
  | cons c text ih =>
      rw [utf16Encode, List.flatMap_cons, List.length_append, length_utf16EncodeChar,
        ← utf16Encode, ih, utf16Length]

example : utf16Encode ['a', '𝄞'] = [0x61, 0xD834, 0xDD1E] := by decide

theorem splitAtByte_append (before after : List Char) :
    splitAtByte (utf8Length before) (before ++ after) = (before, after) := by
  induction before with
  | nil =>
      cases after with
      | nil => rfl
      | cons c after =>
          rw [List.nil_append, utf8Length, splitAtByte, if_pos c.utf8Size_pos]
  | cons c before ih =>
      have reached : ¬ c.utf8Size + utf8Length before < c.utf8Size := by omega
      rw [List.cons_append, utf8Length, splitAtByte, if_neg reached,
        Nat.add_sub_cancel_left, ih]

end Text

namespace Link

open ToolBridge.Text ToolBridge.SourcePath

variable {extension text active : String} {location : Location} {link : Link}

theorem measure_eq {before part after : List Char} :
    measure (before ++ (part ++ after))
        ⟨utf8Length before, utf8Length (before ++ part)⟩ =
      (utf16Length before, utf16Length part) := by
  simp only [measure, splitAtByte_append, utf8Length_append, Nat.add_sub_cancel_left]

/-- Between the ends of a part, measured in units, stand the units of the part. -/
theorem units_of_covers {text part : List Char} {span : ByteSpan}
    (covers : span.Covers text part) :
    (measure text span).1 + (measure text span).2 ≤ (utf16Encode text).length ∧
      ((utf16Encode text).drop (measure text span).1).take (measure text span).2 =
        utf16Encode part := by
  obtain ⟨before, after, rfl, rfl⟩ := covers
  rw [measure_eq]
  simp only [utf16Encode_append, List.length_append, length_utf16Encode]
  constructor
  · omega
  · rw [← length_utf16Encode before, ← length_utf16Encode part, List.drop_left,
      List.take_left]

/-! ## The active file -/

theorem fileName_append {folder name : List Char} (inFolder : IsFolder folder)
    (unbroken : Unbroken isSeparator name) : fileName (folder ++ name) = name := by
  cases last : folder.getLast? with
  | none =>
      rw [List.getLast?_eq_none_iff.mp last, List.nil_append]
      exact afterLast_of_unbroken unbroken
  | some mark =>
      obtain ⟨before, rfl⟩ := List.getLast?_eq_some_iff.mp last
      rw [List.append_assoc]
      exact afterLast_append_cons (inFolder mark last) unbroken before

theorem resolve_eq_some_iff :
    resolve extension text active = some link ↔
      ∃ location, locateSourcePath extension text = some location ∧
        location.file = some (String.ofList (fileName active.toList)) ∧
        link =
          { startIndex := (measure text.toList location.span).1
            length := (measure text.toList location.span).2
            tooltip := active ++ ":" ++ numeral location.line ++ ":" ++
              numeral location.column
            filePath := active
            line := some (location.line - 1)
            column := some (location.column - 1) } := by
  unfold resolve
  constructor
  · intro resolved
    split at resolved
    · rename_i location located
      split at resolved
      · rename_i named
        cases resolved
        exact ⟨location, located, named, rfl⟩
      · cases resolved
    · cases resolved
  · rintro ⟨location, located, named, rfl⟩
    rw [located]
    exact if_pos named

/-! ## Links -/

/-- A link stands for a locator that is written in the text: it underlines the
locator and leads to its place in the active file. -/
structure Quotes (extension text active : String) (location : Location)
    (written : Written) (link : Link) : Prop where
  covers : location.span.Covers text.toList (written.text extension.toList)
  wellFormed : written.WellFormed
  file : written.file extension.toList = fileName active.toList
  lineNumber : Denotes written.line location.line
  columnNumber : Denotes written.column location.column
  inside : link.startIndex + link.length ≤ (utf16Encode text.toList).length
  units : ((utf16Encode text.toList).drop link.startIndex).take link.length =
    utf16Encode (written.text extension.toList)
  line : link.line = some (max location.line 1 - 1)
  column : link.column = some (max location.column 1 - 1)
  filePath : link.filePath = active
  tooltip : link.tooltip =
    active ++ ":" ++ numeral location.line ++ ":" ++ numeral location.column

theorem quotes_of_resolve (resolved : resolve extension text active = some link) :
    ∃ location written, locateSourcePath extension text = some location ∧
      Quotes extension text active location written link := by
  obtain ⟨location, located, named, rfl⟩ := resolve_eq_some_iff.mp resolved
  obtain ⟨front, piece, back, reading, inner, place, yields, rfl, _⟩ :=
    SourcePath.locate_eq_some_iff.mp located
  have covers := yields.covers place
  have units := units_of_covers covers
  have file : reading.file extension.toList = fileName active.toList := by
    have same := yields.file.symm.trans named
    rw [Option.some.injEq] at same
    exact String.ofList_injective same
  refine ⟨_, reading.written, located, covers, ?_, file, yields.line, yields.column,
    units.1, units.2, ?_, ?_, rfl, rfl⟩
  · exact ⟨yields.best.reads.separators, yields.best.reads.named,
      yields.best.reads.line, yields.best.reads.column⟩
  · simp only [Option.some.injEq]
    omega
  · simp only [Option.some.injEq]
    omega

/-- When there is a link, and what it stands for. -/
structure LinkAnchored (extension text active : String) : Prop where
  offered : ∀ {folder name : List Char}, active.toList = folder ++ name →
    IsFolder folder → Unbroken isSeparator name →
      ((∃ link, resolve extension text active = some link) ↔
        ∃ location, locateSourcePath extension text = some location ∧
          location.file = some (String.ofList name))
  quoted : ∀ {link}, resolve extension text active = some link →
    ∃ location written, locateSourcePath extension text = some location ∧
      Quotes extension text active location written link
  /-- Behind a locator of another file, none of the same line is looked at. -/
  foreign : ∀ {reading}, Unbroken isLineBreak text.toList →
    Best extension.toList text.toList reading →
    reading.file extension.toList ≠ fileName active.toList →
      resolve extension text active = none

/-- A line has a link exactly if the locator that is found in it names the active
file, and the link underlines that locator and leads to its place. -/
theorem linkAnchored_text (extension text active : String) :
    LinkAnchored extension text active where
  offered {folder name} split inFolder unbroken := by
    have named : fileName active.toList = name := by
      rw [split, fileName_append inFolder unbroken]
    constructor
    · rintro ⟨link, resolved⟩
      obtain ⟨location, located, file, _⟩ := resolve_eq_some_iff.mp resolved
      rw [named] at file
      exact ⟨location, located, file⟩
    · rintro ⟨location, located, file⟩
      rw [← named] at file
      exact ⟨_, resolve_eq_some_iff.mpr ⟨location, located, file, rfl⟩⟩
  quoted := quotes_of_resolve
  foreign {reading} unbroken best other := by
    cases resolved : resolve extension text active with
    | none => rfl
    | some link =>
        obtain ⟨location, located, file, _⟩ := resolve_eq_some_iff.mp resolved
        obtain ⟨found, yields⟩ :=
          (first_line unbroken).mp (SourcePath.locate_eq_some_iff.mp located)
        obtain rfl := best.unique yields.best
        have same := yields.file.symm.trans file
        rw [Option.some.injEq] at same
        exact absurd (String.ofList_injective same) other

/-- The link of a crowded line: units and bytes differ in front of it, and the
number is written with a zero. -/
example : resolve "frg" "𝄞 é\rat hw/model.frg:07:3: model.frg:1:1" "C:\\hw/model.frg" =
    some ⟨10, 16, "C:\\hw/model.frg:7:3", "C:\\hw/model.frg", some 6, some 2⟩ := by
  decide

/-- A locator of another file hides the one that follows, even if its number has no
value. -/
example : resolve "frg" "x.frg:4294967296:1 model.frg:1:1" "/hw/model.frg" = none := by
  decide

end Link

end ToolBridge
