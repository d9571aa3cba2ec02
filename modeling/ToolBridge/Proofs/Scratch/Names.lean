import ToolBridge.Proofs.Text.Lines
import ToolBridge.Scratch

/-!
# The names of scratch files

The name of a scratch file is made from an identity that may be any text.  The
digits of the hash have a fixed length and stand at a fixed distance from the end,
so names are the same only if the digits are, whatever the stems hold.  A name
without slashes is one more component behind those of the directory it is put in.
-/

namespace ToolBridge

open ToolBridge.Text

/-! ## Digits of base sixteen -/

namespace Text

/-- A lower-case digit of base sixteen and its value. -/
def LowerHex (c : Char) (value : Nat) : Prop :=
  "0123456789abcdef".toList[value]? = some c

theorem LowerHex.unique {c : Char} {value other : Nat} (digit : LowerHex c value)
    (again : LowerHex c other) : value = other := by
  obtain ⟨bound, _⟩ := List.getElem?_eq_some_iff.mp digit
  exact (List.getElem?_inj bound (by decide)).mp (digit.trans again.symm)

theorem lowerHex_lowerHexDigit {value : Nat} (small : value < 16) :
    LowerHex (lowerHexDigit value) value := by
  have digits : ∀ value < 16,
      "0123456789abcdef".toList[value]? = some (lowerHexDigit value) := by
    decide
  exact digits value small

/-- Two digits for every byte, the high one first. -/
inductive Spells : List UInt8 → List Char → Prop where
  | nil : Spells [] []
  | cons {byte : UInt8} {bytes : List UInt8} {high low : Char} {digits : List Char}
      (upper : LowerHex high (byte.toNat / 16)) (lower : LowerHex low (byte.toNat % 16))
      (rest : Spells bytes digits) :
      Spells (byte :: bytes) (high :: low :: digits)

namespace Spells

variable {bytes others : List UInt8} {digits : List Char}

theorem length_eq (spells : Spells bytes digits) :
    digits.length = 2 * bytes.length := by
  induction spells with
  | nil => rfl
  | cons upper lower rest ih =>
      rw [List.length_cons, List.length_cons, List.length_cons, ih]
      omega

theorem mem_alphabet (spells : Spells bytes digits) :
    ∀ c ∈ digits, c ∈ "0123456789abcdef".toList := by
  induction spells with
  | nil => simp
  | cons upper lower rest ih =>
      intro c member
      rcases List.mem_cons.mp member with rfl | member
      · exact List.mem_of_getElem? upper
      · rcases List.mem_cons.mp member with rfl | member
        · exact List.mem_of_getElem? lower
        · exact ih c member

theorem unique (spells : Spells bytes digits) (again : Spells others digits) :
    bytes = others := by
  induction spells generalizing others with
  | nil =>
      cases again
      rfl
  | @cons byte _ _ _ _ upper lower rest ih =>
      cases again with
      | @cons other _ _ _ _ otherUpper otherLower otherRest =>
          have high := upper.unique otherUpper
          have low := lower.unique otherLower
          have same : byte = other := UInt8.toNat_inj.mp (by omega)
          rw [same, ih otherRest]

end Spells

end Text

namespace Sha256

theorem length_bigEndian (count n : Nat) : (bigEndian count n).length = count := by
  induction count with
  | zero => rfl
  | succ count ih => rw [bigEndian, List.length_cons, ih]

theorem length_digest (message : List UInt8) : (digest message).length = 32 := by
  simp only [digest, List.flatMap_cons, List.flatMap_nil, List.length_append,
    length_bigEndian, List.length_nil]

end Sha256

namespace Scratch

variable {identity extension name : List Char}

/-! ## The shape of a name -/

/-- The part of the hash that is in a name. -/
def hashBytes (identity : List Char) : List UInt8 :=
  (Sha256.digest (utf8Encode identity)).take 8

theorem length_hashBytes (identity : List Char) : (hashBytes identity).length = 8 := by
  rw [hashBytes, List.length_take, Sha256.length_digest]
  rfl

theorem spells_fingerprint (identity : List Char) :
    Spells (hashBytes identity) (fingerprint identity) := by
  have each (bytes : List UInt8) : Spells bytes (bytes.flatMap hexByte) := by
    induction bytes with
    | nil => exact .nil
    | cons byte bytes ih =>
        have bound := byte.toNat_lt
        exact .cons (lowerHex_lowerHexDigit (by omega))
          (lowerHex_lowerHexDigit (by omega)) ih
  exact each (hashBytes identity)

/-- An ASCII letter or digit, a hyphen or an underscore. -/
def StemChar (c : Char) : Prop :=
  c.isAlphanum = true ∨ c = '-' ∨ c = '_'

instance (c : Char) : Decidable (StemChar c) :=
  inferInstanceAs (Decidable (c.isAlphanum = true ∨ c = '-' ∨ c = '_'))

theorem stemChar_of_isStemChar {c : Char} (kept : isStemChar c = true) : StemChar c := by
  have inRange {low high : Char} (bounds : low.val ≤ c.val ∧ c.val ≤ high.val) :
      (decide (low.val ≤ c.val) && decide (c.val ≤ high.val)) = true := by
    simpa using bounds
  simp only [isStemChar, isAsciiAlphanumeric, Bool.or_eq_true, Bool.and_eq_true,
    decide_eq_true_eq, beq_iff_eq, Char.le_def] at kept
  rcases kept with (((lower | upper) | digit) | hyphen) | underscore
  · have letter : c.isLower = true := inRange lower
    exact Or.inl (Bool.or_eq_true_iff.mpr
      (Or.inl (Bool.or_eq_true_iff.mpr (Or.inr letter))))
  · have letter : c.isUpper = true := decide_eq_true upper
    exact Or.inl (Bool.or_eq_true_iff.mpr
      (Or.inl (Bool.or_eq_true_iff.mpr (Or.inl letter))))
  · have number : c.isDigit = true := inRange digit
    exact Or.inl (Bool.or_eq_true_iff.mpr (Or.inr number))
  · exact Or.inr (Or.inl hyphen)
  · exact Or.inr (Or.inr underscore)

theorem stemChar_stemChar (c : Char) : StemChar (stemChar c) := by
  unfold stemChar
  split
  · rename_i kept
    exact stemChar_of_isStemChar kept
  · exact Or.inr (Or.inr rfl)

theorem stem_ne_nil (identity extension : List Char) : stem identity extension ≠ [] := by
  unfold stem
  split
  · decide
  · simp

theorem stemChar_of_mem_stem {c : Char} (member : c ∈ stem identity extension) :
    StemChar c := by
  unfold stem at member
  split at member
  · have letters : "untitled".toList.all isStemChar = true := by decide
    exact stemChar_of_isStemChar (List.all_eq_true.mp letters c member)
  · rename_i first rest mapped
    rw [← mapped] at member
    obtain ⟨source, _, rfl⟩ := List.mem_map.mp member
    exact stemChar_stemChar source

/-- A stem, the digits of the hash of an identity and an extension. -/
structure Shaped (identity extension name : List Char) (stem digits : List Char) :
    Prop where
  whole : name = stem ++ '-' :: digits ++ '.' :: extension
  telling : stem ≠ []
  plain : ∀ c ∈ stem, StemChar c
  spelled : Spells (hashBytes identity) digits
  count : digits.length = 16

theorem shaped_fileName (identity extension : List Char) :
    Shaped identity extension (fileName identity extension) (stem identity extension)
      (fingerprint identity) where
  whole := rfl
  telling := stem_ne_nil identity extension
  plain := fun _ => stemChar_of_mem_stem
  spelled := spells_fingerprint identity
  count := by rw [(spells_fingerprint identity).length_eq, length_hashBytes]

namespace Shaped

variable {stem digits : List Char} (shaped : Shaped identity extension name stem digits)
include shaped

/-- A name holds a character that no stem and no number holds only in the
extension. -/
theorem not_mem {mark : Char} (foreign : ¬ StemChar mark) (dotless : mark ≠ '.')
    (absent : mark ∉ extension) : mark ∉ name := by
  have numbers : ("0123456789abcdef".toList.all isStemChar) = true := by decide
  intro member
  rw [shaped.whole, List.mem_append, List.mem_append] at member
  rcases member with (inStem | inDigits) | inEnd
  · exact foreign (shaped.plain mark inStem)
  · rcases List.mem_cons.mp inDigits with hyphen | digit
    · exact foreign (Or.inr (Or.inl hyphen))
    · have known := shaped.spelled.mem_alphabet mark digit
      exact foreign (stemChar_of_isStemChar (List.all_eq_true.mp numbers mark known))
  · rcases List.mem_cons.mp inEnd with dot | inExtension
    · exact dotless dot
    · exact absent inExtension

theorem hyphen_mem : '-' ∈ name := by
  rw [shaped.whole]
  simp

/-- Two names with one extension have the same digits if they are the same. -/
theorem digits_eq {other otherStem otherDigits : List Char}
    (again : Shaped other extension name otherStem otherDigits) :
    digits = otherDigits := by
  have same := shaped.whole.symm.trans again.whole
  have front := List.append_cancel_right same
  have counts : ('-' :: digits).length = ('-' :: otherDigits).length := by
    rw [List.length_cons, List.length_cons, shaped.count, again.count]
  exact List.tail_eq_of_cons_eq (List.append_inj' front counts).2

theorem hashBytes_eq {other otherStem otherDigits : List Char}
    (again : Shaped other extension name otherStem otherDigits) :
    hashBytes identity = hashBytes other := by
  have spelled := again.spelled
  rw [← shaped.digits_eq again] at spelled
  exact shaped.spelled.unique spelled

end Shaped

theorem hashBytes_eq_of_fileName_eq {identity other extension : List Char}
    (same : fileName identity extension = fileName other extension) :
    hashBytes identity = hashBytes other := by
  have shaped := shaped_fileName identity extension
  rw [same] at shaped
  exact shaped.hashBytes_eq (shaped_fileName other extension)

theorem toList_pathFor (scratch : Scratch) (identity : String) :
    (scratch.pathFor identity).toList =
      Path.join scratch.directory.toList
        (fileName identity.toList scratch.extension.toList) :=
  String.toList_ofList

end Scratch

/-! ## Paths in a directory -/

namespace Path

variable {directory name : List Char}

theorem join_injective {other : List Char}
    (same : join directory name = join directory other) : name = other := by
  unfold join at same
  split at same
  · exact same
  · split at same
    · exact List.append_cancel_left same
    · exact List.tail_eq_of_cons_eq (List.append_cancel_left same)

/-- How a path in a directory is written: with one slash between the two, unless the
directory is not named at all. -/
theorem join_cases (directory name : List Char) :
    (directory = [] ∧ join directory name = name) ∨
      ∃ front back, (back = [] ∨ back = ['/']) ∧ front ++ back ≠ [] ∧
        directory = front ++ back ∧ join directory name = front ++ '/' :: name := by
  unfold join
  split
  · rename_i empty
    exact Or.inl ⟨List.isEmpty_iff.mp empty, rfl⟩
  · rename_i named
    split
    · rename_i slashed
      obtain ⟨front, rfl⟩ := List.getLast?_eq_some_iff.mp (beq_iff_eq.mp slashed)
      exact Or.inr ⟨front, ['/'], Or.inr rfl, by simp, rfl, by simp⟩
    · refine Or.inr ⟨directory, [], Or.inl rfl, ?_, by simp, rfl⟩
      simpa using named

section Slashless

variable (directory) (slashless : '/' ∉ name)
include slashless

theorem isAbsolute_join : isAbsolute (join directory name) = isAbsolute directory := by
  rcases join_cases directory name with
    ⟨rfl, joined⟩ | ⟨front, back, slash, named, rfl, joined⟩
  · rw [joined]
    apply beq_eq_false_iff_ne.mpr
    intro first
    exact slashless (List.mem_of_head? first)
  · rw [joined, isAbsolute, isAbsolute]
    cases front with
    | cons c front => rfl
    | nil =>
        rcases slash with rfl | rfl
        · exact absurd rfl named
        · rfl

theorem getLast?_join (telling : name ≠ []) :
    (join directory name).getLast? ≠ some '/' := by
  have last : (join directory name).getLast? = name.getLast? := by
    rcases join_cases directory name with ⟨_, joined⟩ | ⟨front, _, _, _, _, joined⟩
    · rw [joined]
    · rw [joined, List.append_cons, List.getLast?_append,
        List.getLast?_eq_some_getLast telling]
      rfl
  rw [last]
  intro slash
  exact slashless (List.mem_of_getLast? slash)

/-- The components of a path in a directory are those of the directory and the
name, but for an empty one at the end of the directory. -/
theorem rawComponents_join :
    ∃ front blanks, rawComponents (join directory name) = front ++ [name] ∧
      rawComponents directory = front ++ blanks ∧ ∀ blank ∈ blanks, blank = [] := by
  have single : rawComponents name = [name] := by
    apply splitBy_of_unbroken
    intro c member
    apply beq_eq_false_iff_ne.mpr
    rintro rfl
    exact slashless member
  rcases join_cases directory name with
    ⟨rfl, joined⟩ | ⟨front, back, slash, _, rfl, joined⟩
  · rw [joined, single]
    exact ⟨[], [[]], rfl, rfl, by simp⟩
  · have cut : rawComponents (front ++ '/' :: name) = rawComponents front ++ [name] := by
      rw [← single]
      exact splitBy_append_cons rfl front name
    rw [joined, cut]
    rcases slash with rfl | rfl
    · exact ⟨_, [], rfl, by simp, by simp⟩
    · exact ⟨_, [[]], rfl, splitBy_append_cons rfl front [], by simp⟩

/-- A directory may end with an empty component, so only selections that leave
empty components out are those of the directory and the name. -/
theorem filter_join (keep : List Char → Bool) (kept : keep name = true)
    (dropped : keep [] = false) :
    (rawComponents (join directory name)).filter keep =
      (rawComponents directory).filter keep ++ [name] := by
  obtain ⟨front, blanks, path, parent, blank⟩ := rawComponents_join directory slashless
  have nothing : blanks.filter keep = [] := by
    apply List.filter_eq_nil_iff.mpr
    intro component member
    rw [blank component member, dropped]
    exact Bool.false_ne_true
  rw [path, parent, List.filter_append, List.filter_append, nothing, List.append_nil,
    List.filter_cons_of_pos kept, List.filter_nil]

theorem head?_join (elsewhere : name ≠ here) :
    (rawComponents (join directory name)).head? = some here ↔
      (rawComponents directory).head? = some here := by
  obtain ⟨front, blanks, path, parent, blank⟩ := rawComponents_join directory slashless
  rw [path, parent]
  cases front with
  | cons component front => simp
  | nil =>
      refine iff_of_false (by simpa using elsewhere) ?_
      intro first
      have empty := blank here (List.mem_of_head? (by simpa using first))
      exact absurd empty (by decide)

theorem components_join (telling : name ≠ []) (elsewhere : name ≠ here) :
    components (join directory name) = components directory ++ [name] := by
  have filtered := filter_join directory slashless
    (fun component => component != [] && component != here)
    (by simp [telling, elsewhere]) (by decide)
  have head : ((rawComponents (join directory name)).head? == some here) =
      ((rawComponents directory).head? == some here) := by
    rw [Bool.eq_iff_iff, beq_iff_eq, beq_iff_eq]
    exact head?_join directory slashless elsewhere
  simp only [components, filtered, isAbsolute_join directory slashless, head]
  split
  · rfl
  · rfl

end Slashless

end Path

end ToolBridge
