import ToolBridge.Text.Utf8

/-!
# Laws of UTF-8

What is encoded is decoded again.  A byte below `0x80` stands for itself
wherever it is found, so that bytes can be cut there before they are decoded.
-/

namespace ToolBridge.Text

/-! ## Encoding and decoding -/

theorem toNat_ofNat {byte : Nat} (small : byte < 256) :
    (UInt8.ofNat byte).toNat = byte := by
  rw [UInt8.toNat_ofNat']
  exact Nat.mod_eq_of_lt small

theorem admits_of_le {pending : Utf8Pending} {byte : Nat}
    (above : pending.low ≤ byte) (below : byte ≤ pending.high) :
    pending.admits byte = true := by
  simp [Utf8Pending.admits, above, below]

theorem utf8DecodeFrom_last {bits low high byte code : Nat}
    (rest : List UInt8) (small : byte < 256) (above : low ≤ byte)
    (below : byte ≤ high) (whole : bits * 64 + (byte - 0x80) = code) :
    utf8DecodeFrom (some ⟨1, bits, low, high⟩) (UInt8.ofNat byte :: rest) =
      (utf8DecodeFrom none rest).map (Char.ofNat code :: ·) := by
  subst whole
  rw [utf8DecodeFrom, toNat_ofNat small, if_pos (admits_of_le above below)]
  rfl

theorem utf8DecodeFrom_more {missing bits low high byte : Nat}
    (rest : List UInt8) (small : byte < 256) (above : low ≤ byte)
    (below : byte ≤ high) :
    utf8DecodeFrom (some ⟨missing + 2, bits, low, high⟩)
        (UInt8.ofNat byte :: rest) =
      utf8DecodeFrom
        (some ⟨missing + 1, bits * 64 + (byte - 0x80), 0x80, 0xBF⟩) rest := by
  rw [utf8DecodeFrom, toNat_ofNat small, if_pos (admits_of_le above below),
    Utf8Pending.next, if_neg (by simp)]
  rfl

theorem utf8DecodeFrom_lead {byte : Nat} {start : Utf8Pending}
    (rest : List UInt8) (small : byte < 256)
    (lead : utf8Lead byte = .pending start) :
    utf8DecodeFrom none (UInt8.ofNat byte :: rest) =
      utf8DecodeFrom (some start) rest := by
  rw [utf8DecodeFrom, toNat_ofNat small, lead]

theorem utf8Lead_two {byte : Nat} (above : 0xC2 ≤ byte) (below : byte < 0xE0) :
    utf8Lead byte = .pending ⟨1, byte - 0xC0, 0x80, 0xBF⟩ := by
  unfold utf8Lead
  rw [if_neg (by omega), if_neg (by omega), if_pos below]

theorem utf8Lead_three {byte : Nat} (above : 0xE0 ≤ byte)
    (below : byte < 0xF0) :
    utf8Lead byte =
      .pending ⟨2, byte - 0xE0, if byte = 0xE0 then 0xA0 else 0x80,
        if byte = 0xED then 0x9F else 0xBF⟩ := by
  unfold utf8Lead
  rw [if_neg (by omega), if_neg (by omega), if_neg (by omega)]
  by_cases first : byte = 0xE0
  · simp [first]
  · by_cases surrogate : byte = 0xED
    · simp [surrogate]
    · rw [if_neg first, if_neg surrogate, if_pos below, if_neg first,
        if_neg surrogate]

theorem utf8Lead_four {byte : Nat} (above : 0xF0 ≤ byte)
    (below : byte ≤ 0xF4) :
    utf8Lead byte =
      .pending ⟨3, byte - 0xF0, if byte = 0xF0 then 0x90 else 0x80,
        if byte = 0xF4 then 0x8F else 0xBF⟩ := by
  unfold utf8Lead
  rw [if_neg (by omega), if_neg (by omega), if_neg (by omega),
    if_neg (by omega), if_neg (by omega), if_neg (by omega)]
  by_cases first : byte = 0xF0
  · simp [first]
  · by_cases last : byte = 0xF4
    · simp [last]
    · rw [if_neg first, if_pos (by omega), if_neg first, if_neg last]

theorem utf8DecodeFrom_encodeChar (c : Char) (rest : List UInt8) :
    utf8DecodeFrom none (String.utf8EncodeChar c ++ rest) =
      (utf8DecodeFrom none rest).map (c :: ·) := by
  have valid : c.toNat < 0xD800 ∨ 0xDFFF < c.toNat ∧ c.toNat < 0x110000 :=
    c.valid
  have same : Char.ofNat c.toNat = c := Char.ofNat_toNat c
  simp only [String.utf8EncodeChar, Char.toNat_val]
  generalize c.toNat = code at valid same ⊢
  subst same
  split
  · rename_i one
    have lead : utf8Lead code = .whole (Char.ofNat code) := if_pos (by omega)
    rw [List.singleton_append, utf8DecodeFrom, toNat_ofNat (by omega), lead]
  · split
    · rw [List.cons_append, utf8DecodeFrom_lead _ (by omega)
          (utf8Lead_two (by omega) (by omega))]
      exact utf8DecodeFrom_last _ (by omega) (by omega) (by omega) (by omega)
    · split
      · rw [List.cons_append, utf8DecodeFrom_lead _ (by omega)
            (utf8Lead_three (by omega) (by omega)),
          List.cons_append, utf8DecodeFrom_more _ (by omega) (by split <;> omega)
            (by split <;> omega)]
        exact utf8DecodeFrom_last _ (by omega) (by omega) (by omega) (by omega)
      · rw [List.cons_append, utf8DecodeFrom_lead _ (by omega)
            (utf8Lead_four (by omega) (by omega)),
          List.cons_append, utf8DecodeFrom_more _ (by omega) (by split <;> omega)
            (by split <;> omega),
          List.cons_append, utf8DecodeFrom_more _ (by omega) (by omega)
            (by omega)]
        exact utf8DecodeFrom_last _ (by omega) (by omega) (by omega) (by omega)

theorem utf8Decode?_encode (text : List Char) :
    utf8Decode? (utf8Encode text) = some text := by
  induction text with
  | nil => rfl
  | cons c text ih =>
      rw [utf8Encode, List.flatMap_cons, utf8Decode?, utf8DecodeFrom_encodeChar]
      change (utf8Decode? (utf8Encode text)).map (c :: ·) = _
      rw [ih, Option.map_some]

/-! ## Decoding and encoding -/

theorem of_utf8DecodeFrom_last {bits low high : Nat} {bytes : List UInt8}
    {text : List Char}
    (decoded : utf8DecodeFrom (some ⟨1, bits, low, high⟩) bytes = some text) :
    ∃ byte rest tail, bytes = byte :: rest ∧ low ≤ byte.toNat ∧
      byte.toNat ≤ high ∧ utf8DecodeFrom none rest = some tail ∧
      text = Char.ofNat (bits * 64 + (byte.toNat - 0x80)) :: tail := by
  cases bytes with
  | nil => cases decoded
  | cons byte rest =>
      rw [utf8DecodeFrom] at decoded
      split at decoded
      · rename_i admitted
        obtain ⟨tail, inner, same⟩ := Option.map_eq_some_iff.mp decoded
        simp only [Utf8Pending.admits, Bool.and_eq_true, decide_eq_true_eq]
          at admitted
        exact ⟨byte, rest, tail, rfl, admitted.1, admitted.2, inner, same.symm⟩
      · cases decoded

theorem of_utf8DecodeFrom_more {missing bits low high : Nat}
    {bytes : List UInt8} {text : List Char}
    (decoded :
      utf8DecodeFrom (some ⟨missing + 2, bits, low, high⟩) bytes = some text) :
    ∃ byte rest, bytes = byte :: rest ∧ low ≤ byte.toNat ∧ byte.toNat ≤ high ∧
      utf8DecodeFrom
        (some ⟨missing + 1, bits * 64 + (byte.toNat - 0x80), 0x80, 0xBF⟩) rest =
          some text := by
  cases bytes with
  | nil => cases decoded
  | cons byte rest =>
      rw [utf8DecodeFrom] at decoded
      split at decoded
      · rename_i admitted
        simp only [Utf8Pending.admits, Bool.and_eq_true, decide_eq_true_eq]
          at admitted
        rw [Utf8Pending.next, if_neg (by simp)] at decoded
        exact ⟨byte, rest, rfl, admitted.1, admitted.2, decoded⟩
      · cases decoded

theorem toNat_charOfNat {code : Nat} (valid : code.isValidChar) :
    (Char.ofNat code).toNat = code := by
  rw [Char.ofNat, dif_pos valid]
  rfl

theorem ofNat_eq (byte : UInt8) {code : Nat} (same : code = byte.toNat) :
    UInt8.ofNat code = byte := by
  rw [same, UInt8.ofNat_toNat]

theorem utf8EncodeChar_one {byte : UInt8} (below : byte.toNat < 0x80) :
    String.utf8EncodeChar (Char.ofNat byte.toNat) = [byte] := by
  have value := toNat_charOfNat (show byte.toNat.isValidChar from Or.inl (by omega))
  simp only [String.utf8EncodeChar, Char.toNat_val, value]
  rw [if_pos (by omega), ofNat_eq byte rfl]

theorem utf8EncodeChar_two {first second : UInt8} {code : Nat}
    (above : 0xC2 ≤ first.toNat) (below : first.toNat < 0xE0)
    (low : 0x80 ≤ second.toNat) (high : second.toNat ≤ 0xBF)
    (whole : (first.toNat - 0xC0) * 64 + (second.toNat - 0x80) = code) :
    String.utf8EncodeChar (Char.ofNat code) = [first, second] := by
  have value := toNat_charOfNat (show code.isValidChar from Or.inl (by omega))
  simp only [String.utf8EncodeChar, Char.toNat_val, value]
  rw [if_neg (by omega), if_pos (by omega), ofNat_eq first (by omega),
    ofNat_eq second (by omega)]

theorem utf8EncodeChar_three {first second third : UInt8} {code : Nat}
    (above : 0xE0 ≤ first.toNat) (below : first.toNat < 0xF0)
    (low : (if first.toNat = 0xE0 then 0xA0 else 0x80) ≤ second.toNat)
    (high : second.toNat ≤ (if first.toNat = 0xED then 0x9F else 0xBF))
    (inner : 0x80 ≤ third.toNat) (outer : third.toNat ≤ 0xBF)
    (whole : ((first.toNat - 0xE0) * 64 + (second.toNat - 0x80)) * 64 +
      (third.toNat - 0x80) = code) :
    String.utf8EncodeChar (Char.ofNat code) = [first, second, third] := by
  have large : 0x800 ≤ code := by
    split at low <;> omega
  have valid : code < 0xD800 ∨ 0xDFFF < code ∧ code < 0x110000 := by
    split at high <;> split at low <;> omega
  have value := toNat_charOfNat (show code.isValidChar from valid)
  have tail : 0x80 ≤ second.toNat ∧ second.toNat ≤ 0xBF := by
    split at high <;> split at low <;> omega
  simp only [String.utf8EncodeChar, Char.toNat_val, value]
  rw [if_neg (by omega), if_neg (by omega), if_pos (by omega),
    ofNat_eq first (by omega), ofNat_eq second (by omega),
    ofNat_eq third (by omega)]

theorem utf8EncodeChar_four {first second third fourth : UInt8} {code : Nat}
    (above : 0xF0 ≤ first.toNat) (below : first.toNat ≤ 0xF4)
    (low : (if first.toNat = 0xF0 then 0x90 else 0x80) ≤ second.toNat)
    (high : second.toNat ≤ (if first.toNat = 0xF4 then 0x8F else 0xBF))
    (inner : 0x80 ≤ third.toNat) (outer : third.toNat ≤ 0xBF)
    (least : 0x80 ≤ fourth.toNat) (most : fourth.toNat ≤ 0xBF)
    (whole : (((first.toNat - 0xF0) * 64 + (second.toNat - 0x80)) * 64 +
      (third.toNat - 0x80)) * 64 + (fourth.toNat - 0x80) = code) :
    String.utf8EncodeChar (Char.ofNat code) = [first, second, third, fourth] := by
  have valid : 0xFFFF < code ∧ code < 0x110000 := by
    split at high <;> split at low <;> omega
  have tail : 0x80 ≤ second.toNat ∧ second.toNat ≤ 0xBF := by
    split at high <;> split at low <;> omega
  have value := toNat_charOfNat
    (show code.isValidChar from Or.inr ⟨by omega, valid.2⟩)
  simp only [String.utf8EncodeChar, Char.toNat_val, value]
  rw [if_neg (by omega), if_neg (by omega), if_neg (by omega),
    ofNat_eq first (by omega), ofNat_eq second (by omega),
    ofNat_eq third (by omega), ofNat_eq fourth (by omega)]

theorem utf8Encode_cons (c : Char) (text : List Char) :
    utf8Encode (c :: text) = String.utf8EncodeChar c ++ utf8Encode text :=
  List.flatMap_cons

theorem utf8Lead_invalid {byte : Nat} (above : 0xF4 < byte) :
    utf8Lead byte = .invalid := by
  unfold utf8Lead
  rw [if_neg (by omega), if_neg (by omega), if_neg (by omega), if_neg (by omega),
    if_neg (by omega), if_neg (by omega), if_neg (by omega), if_neg (by omega),
    if_neg (by omega)]

theorem starts_of_decoded {first : UInt8} {rest : List UInt8} {text : List Char}
    (decoded : utf8DecodeFrom none (first :: rest) = some text) :
    ∃ c tail more, text = c :: tail ∧ utf8DecodeFrom none more = some tail ∧
      first :: rest = String.utf8EncodeChar c ++ more := by
  rw [utf8DecodeFrom] at decoded
  -- The first byte says how many there are.
  by_cases one : first.toNat < 0x80
  · rw [show utf8Lead first.toNat = _ from if_pos one] at decoded
    obtain ⟨tail, inner, rfl⟩ := Option.map_eq_some_iff.mp decoded
    refine ⟨_, tail, rest, rfl, inner, ?_⟩
    rw [utf8EncodeChar_one one]
    rfl
  by_cases stray : first.toNat < 0xC2
  · simp [utf8Lead, one, stray] at decoded
  by_cases two : first.toNat < 0xE0
  · rw [utf8Lead_two (by omega) two] at decoded
    obtain ⟨second, more, tail, rfl, low, high, inner, rfl⟩ :=
      of_utf8DecodeFrom_last decoded
    refine ⟨_, tail, more, rfl, inner, ?_⟩
    rw [utf8EncodeChar_two (by omega) two low high rfl]
    rfl
  by_cases three : first.toNat < 0xF0
  · rw [utf8Lead_three (by omega) three] at decoded
    obtain ⟨second, more, rfl, low, high, later⟩ := of_utf8DecodeFrom_more decoded
    obtain ⟨third, more, tail, rfl, least, most, inner, rfl⟩ :=
      of_utf8DecodeFrom_last later
    refine ⟨_, tail, more, rfl, inner, ?_⟩
    rw [utf8EncodeChar_three (by omega) three low high least most rfl]
    rfl
  by_cases four : first.toNat ≤ 0xF4
  · rw [utf8Lead_four (by omega) four] at decoded
    obtain ⟨second, more, rfl, low, high, later⟩ := of_utf8DecodeFrom_more decoded
    obtain ⟨third, more, rfl, least, most, last⟩ := of_utf8DecodeFrom_more later
    obtain ⟨fourth, more, tail, rfl, lowest, highest, inner, rfl⟩ :=
      of_utf8DecodeFrom_last last
    refine ⟨_, tail, more, rfl, inner, ?_⟩
    rw [utf8EncodeChar_four (by omega) four low high least most lowest highest rfl]
    rfl
  · rw [utf8Lead_invalid (by omega)] at decoded
    cases decoded

theorem eq_utf8Encode_of_decoded {bytes : List UInt8} {text : List Char}
    (decoded : utf8DecodeFrom none bytes = some text) :
    bytes = utf8Encode text := by
  -- Every character takes its bytes off, so that the text becomes shorter.
  induction text generalizing bytes with
  | nil =>
      cases bytes with
      | nil => rfl
      | cons first rest =>
          obtain ⟨c, tail, more, same, _⟩ := starts_of_decoded decoded
          cases same
  | cons c text ih =>
      cases bytes with
      | nil => cases decoded
      | cons first rest =>
          obtain ⟨_, _, more, same, inner, split⟩ := starts_of_decoded decoded
          cases same
          rw [split, utf8Encode_cons, ← ih inner]

theorem utf8Decode?_eq_some_iff {bytes : List UInt8} {text : List Char} :
    utf8Decode? bytes = some text ↔ bytes = utf8Encode text := by
  constructor
  · exact eq_utf8Encode_of_decoded
  · rintro rfl
    exact utf8Decode?_encode text

/-! ## Cutting at small bytes -/

theorem low_of_utf8Lead {byte : Nat} {start : Utf8Pending}
    (lead : utf8Lead byte = .pending start) : 0x80 ≤ start.low := by
  unfold utf8Lead at lead
  repeat' split at lead
  all_goals cases lead
  all_goals simp

theorem low_of_next {pending later : Utf8Pending} {byte : Nat}
    (next : pending.next byte = .inr later) : 0x80 ≤ later.low := by
  unfold Utf8Pending.next at next
  split at next
  · cases next
  · cases next
    exact Nat.le_refl _

/-- A byte below `0x80` can only start a character. -/
theorem utf8DecodeFrom_append_small {byte : UInt8} (small : byte.toNat < 0x80)
    {state : Option Utf8Pending}
    (started : ∀ pending ∈ state, 0x80 ≤ pending.low)
    (left right : List UInt8) :
    utf8DecodeFrom state (left ++ byte :: right) =
      (utf8DecodeFrom state left).bind fun front =>
        (utf8DecodeFrom none right).map fun rest =>
          front ++ Char.ofNat byte.toNat :: rest := by
  have idle : ∀ pending ∈ (none : Option Utf8Pending), 0x80 ≤ pending.low := by
    simp
  have prepend (c : Char) {front rest : Option (List Char)} {mark : Char} :
      (front.bind fun front => rest.map fun rest => front ++ mark :: rest).map
          (c :: ·) =
        (front.map (c :: ·)).bind fun front =>
          rest.map fun rest => front ++ mark :: rest := by
    cases front <;> cases rest <;> rfl
  induction left generalizing state with
  | nil =>
      cases state with
      | none =>
          have lead : utf8Lead byte.toNat = .whole (Char.ofNat byte.toNat) :=
            if_pos small
          simp [utf8DecodeFrom, lead]
      | some pending =>
          have low := started pending rfl
          have refused : pending.admits byte.toNat = false := by
            simp [Utf8Pending.admits]
            omega
          simp [utf8DecodeFrom, refused]
  | cons first left ih =>
      cases state with
      | none =>
          cases lead : utf8Lead first.toNat with
          | whole c =>
              simp only [List.cons_append, utf8DecodeFrom, lead, ih idle]
              exact prepend c
          | pending start =>
              have later : ∀ pending ∈ some start, 0x80 ≤ pending.low := by
                rintro _ ⟨⟩
                exact low_of_utf8Lead lead
              simp only [List.cons_append, utf8DecodeFrom, lead, ih later]
          | invalid => simp [utf8DecodeFrom, lead]
      | some pending =>
          cases admitted : pending.admits first.toNat with
          | false => simp [utf8DecodeFrom, admitted]
          | true =>
              cases next : pending.next first.toNat with
              | inl c =>
                  simp only [List.cons_append, utf8DecodeFrom, admitted, next,
                    if_true, ih idle]
                  exact prepend c
              | inr later =>
                  have low : ∀ pending ∈ some later, 0x80 ≤ pending.low := by
                    rintro _ ⟨⟩
                    exact low_of_next next
                  simp only [List.cons_append, utf8DecodeFrom, admitted, next,
                    if_true, ih low]

theorem utf8Decode?_append_small {byte : UInt8} (small : byte.toNat < 0x80)
    (left right : List UInt8) :
    utf8Decode? (left ++ byte :: right) =
      (utf8Decode? left).bind fun front =>
        (utf8Decode? right).map fun rest =>
          front ++ Char.ofNat byte.toNat :: rest :=
  utf8DecodeFrom_append_small small (by simp) left right

end ToolBridge.Text
