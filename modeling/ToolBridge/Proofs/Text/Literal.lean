import ToolBridge.Text.Literal

/-!
# Texts between the occurrences of a literal

A text is one part that is free of a literal, or such a part with the literal
and more text after it.  A replacement leaves the parts as they are and looks
neither into what it put between them nor across its ends.

If the first character of the literal stands nowhere else in it, then no
occurrence overlaps another, and the parts of a text are the only ones.  If, in
addition, no occurrence can reach into the replacement, then none is left when
all are replaced.
-/

namespace ToolBridge.Text

variable {literal replacement text part rest : List Char}

theorem startsWith_iff : startsWith literal text = true ↔ literal <+: text := by
  rw [startsWith, Option.isSome_iff_exists]
  constructor
  · rintro ⟨rest, found⟩
    exact ⟨rest, (after?_eq_some_iff.mp found).symm⟩
  · rintro ⟨rest, rfl⟩
    exact ⟨rest, after?_append literal rest⟩

theorem occurs_iff : occurs literal text = true ↔ literal <:+: text := by
  induction text with
  | nil => rw [occurs, List.isEmpty_iff, List.infix_nil]
  | cons c text ih =>
      rw [occurs, Bool.or_eq_true, startsWith_iff, ih, List.infix_cons_iff]

/-! ## Replacing -/

theorem replaceFrom_length (skipped rest : List Char) :
    replaceFrom literal replacement skipped.length (skipped ++ rest) =
      replaceAll literal replacement rest := by
  induction skipped with
  | nil => rfl
  | cons c skipped ih => rw [List.length_cons, List.cons_append, replaceFrom, ih]

theorem replaceAll_literal_append (telling : literal ≠ []) (rest : List Char) :
    replaceAll literal replacement (literal ++ rest) =
      replacement ++ replaceAll literal replacement rest := by
  obtain ⟨c, cs, rfl⟩ := List.exists_cons_of_ne_nil telling
  have found : startsWith (c :: cs) (c :: (cs ++ rest)) = true :=
    startsWith_iff.mpr (List.prefix_append (c :: cs) rest)
  rw [List.cons_append, replaceAll, replaceFrom, if_pos found, List.length_cons,
    Nat.add_sub_cancel, replaceFrom_length]

/-- An occurrence that starts at no character in front lies behind them. -/
theorem infix_of_append
    (early : ∀ left right, part = left ++ right → right ≠ [] →
      ¬ literal <+: right ++ rest)
    (found : literal <:+: part ++ rest) : literal <:+: rest := by
  induction part with
  | nil => exact found
  | cons c part ih =>
      rcases List.infix_cons_iff.mp found with here | later
      · exact absurd here (early [] (c :: part) rfl (by simp))
      · apply ih _ later
        rintro left right rfl
        exact early (c :: left) right rfl

theorem replaceAll_append
    (early : ∀ left right, part = left ++ right → right ≠ [] →
      ¬ literal <+: right ++ rest) :
    replaceAll literal replacement (part ++ rest) =
      part ++ replaceAll literal replacement rest := by
  induction part with
  | nil => rfl
  | cons c part ih =>
      have here : startsWith literal (c :: (part ++ rest)) ≠ true := by
        rw [Ne, startsWith_iff]
        exact early [] (c :: part) rfl (by simp)
      rw [List.cons_append, replaceAll, replaceFrom, if_neg here, List.cons_append]
      rw [← replaceAll, ih]
      rintro left right rfl
      exact early (c :: left) right rfl

theorem replaceAll_of_free (free : ¬ literal <:+: part) :
    replaceAll literal replacement part = part := by
  have early : ∀ left right, part = left ++ right → right ≠ [] →
      ¬ literal <+: right ++ [] := by
    rintro left right rfl _ starts
    rw [List.append_nil] at starts
    exact free (starts.isInfix.trans (List.suffix_append left right).isInfix)
  have kept : replaceAll literal replacement (part ++ []) = part ++ [] :=
    replaceAll_append early
  rwa [List.append_nil] at kept

/-! ## Parts -/

/-- The parts of a text between the occurrences of a literal. -/
structure Parted (literal text : List Char) (parts : List (List Char)) : Prop where
  joined : text = literal.intercalate parts
  telling : parts ≠ []
  free : ∀ part ∈ parts, ¬ literal <:+: part

namespace Parted

variable {parts : List (List Char)}

theorem infix_iff (parted : Parted literal text parts) :
    literal <:+: text ↔ 2 ≤ parts.length := by
  obtain ⟨rfl, telling, free⟩ := parted
  cases parts with
  | nil => exact absurd rfl telling
  | cons part parts =>
      cases parts with
      | nil => simpa using free part List.mem_cons_self
      | cons next parts =>
          rw [List.intercalate_cons_cons]
          refine iff_of_true ⟨part, _, rfl⟩ ?_
          rw [List.length_cons, List.length_cons]
          omega

theorem tail {next : List Char} (parted : Parted literal text (part :: next :: parts)) :
    Parted literal (literal.intercalate (next :: parts)) (next :: parts) where
  joined := rfl
  telling := by simp
  free := by
    intro other member
    exact parted.free other (List.mem_cons_of_mem part member)

end Parted

theorem exists_free_append (found : literal <:+: text) (telling : literal ≠ []) :
    ∃ part rest, text = part ++ (literal ++ rest) ∧ ¬ literal <:+: part := by
  induction text with
  | nil => exact absurd (List.infix_nil.mp found) telling
  | cons c text ih =>
      by_cases here : literal <+: c :: text
      · obtain ⟨rest, split⟩ := here
        refine ⟨[], rest, split.symm, ?_⟩
        rwa [List.infix_nil]
      · have behind := (List.infix_cons_iff.mp found).resolve_left here
        obtain ⟨part, rest, rfl, free⟩ := ih behind
        refine ⟨c :: part, rest, rfl, ?_⟩
        rintro inside
        rcases List.infix_cons_iff.mp inside with starts | inner
        · exact here (starts.trans (List.prefix_append (c :: part) _))
        · exact free inner

theorem exists_parted (telling : literal ≠ []) (text : List Char) :
    ∃ parts, Parted literal text parts := by
  induction length : text.length using Nat.strongRecOn generalizing text with
  | ind size ih =>
      by_cases found : literal <:+: text
      · obtain ⟨part, rest, rfl, free⟩ := exists_free_append found telling
        have shorter : rest.length < size := by
          have long := List.length_pos_iff.mpr telling
          rw [← length, List.length_append, List.length_append]
          omega
        obtain ⟨parts, parted⟩ := ih rest.length shorter rest rfl
        refine ⟨part :: parts, ?_, by simp, ?_⟩
        · rw [List.intercalate_cons_of_ne_nil parted.telling, ← parted.joined,
            List.append_assoc]
        · intro other member
          rcases List.mem_cons.mp member with rfl | later
          · exact free
          · exact parted.free other later
      · exact ⟨[text], List.intercalate_singleton.symm, by simp, by simpa using found⟩

/-- In `part` with the literal behind it, the literal occurs only at the end. -/
def OnlyAtEnd (literal part : List Char) : Prop :=
  ∀ left right, part ++ literal = left ++ (literal ++ right) → right = []

theorem OnlyAtEnd.free (only : OnlyAtEnd literal part) (telling : literal ≠ []) :
    ¬ literal <:+: part := by
  rintro ⟨left, right, rfl⟩
  have nothing : right ++ literal = [] := only left (right ++ literal) (by simp)
  exact telling (List.append_eq_nil_iff.mp nothing).2

/-! ## Literals that do not overlap themselves -/

/-- The first character of the literal stands nowhere else in it. -/
def Headed (literal : List Char) : Prop :=
  ∃ c cs, literal = c :: cs ∧ c ∉ cs

namespace Headed

variable (headed : Headed literal)
include headed

theorem ne_nil : literal ≠ [] := by
  obtain ⟨c, cs, rfl, _⟩ := headed
  simp

/-- Nothing starts in a free part and ends in a text behind it that begins as the
literal does. -/
theorem not_prefix_of_head (free : ¬ literal <:+: part) {left right next : List Char}
    (split : part = left ++ right) (telling : right ≠ [])
    (alike : next.head? = literal.head?) (rest : List Char) :
    ¬ literal <+: right ++ (next ++ rest) := by
  rintro ⟨behind, same⟩
  have inside : ¬ literal <+: right := by
    intro starts
    apply free
    rw [split]
    exact starts.isInfix.trans (List.suffix_append left right).isInfix
  rcases List.append_eq_append_iff.mp same with ⟨more, whole, _⟩ | ⟨more, whole, follows⟩
  · exact inside ⟨more, whole.symm⟩
  · -- The literal would go on with its own first character.
    obtain ⟨c, cs, rfl, absent⟩ := headed
    cases more with
    | nil =>
        rw [List.append_nil] at whole
        exact inside (whole ▸ List.prefix_rfl)
    | cons d more =>
        obtain ⟨first, others, rfl⟩ := List.exists_cons_of_ne_nil telling
        obtain ⟨tail, rfl⟩ := List.head?_eq_some_iff.mp alike
        simp only [List.cons_append, List.cons.injEq] at whole follows
        apply absent
        rw [whole.2, follows.1]
        simp

/-- Nothing starts in a free part and ends in the literal behind it. -/
theorem not_prefix (free : ¬ literal <:+: part) {left right : List Char}
    (split : part = left ++ right) (telling : right ≠ []) (rest : List Char) :
    ¬ literal <+: right ++ (literal ++ rest) :=
  headed.not_prefix_of_head free split telling rfl rest

/-- No occurrence reaches from a free part into the literal behind it. -/
theorem onlyAtEnd_of_free (free : ¬ literal <:+: part) : OnlyAtEnd literal part := by
  intro left right same
  rcases List.append_eq_append_iff.mp same with ⟨more, _, behind⟩ | ⟨more, split, behind⟩
  · have lengths := congrArg List.length behind
    rw [List.length_append, List.length_append] at lengths
    exact List.length_eq_zero_iff.mp (by omega)
  · cases more with
    | nil =>
        rw [List.nil_append] at behind
        exact List.append_right_eq_self.mp behind
    | cons c more =>
        have early := headed.not_prefix free split (by simp) []
        rw [List.append_nil] at early
        exact absurd ⟨right, behind⟩ early

theorem replaceAll_part (free : ¬ literal <:+: part) (rest : List Char) :
    replaceAll literal replacement (part ++ (literal ++ rest)) =
      part ++ (replacement ++ replaceAll literal replacement rest) := by
  rw [replaceAll_append fun left right split telling =>
    headed.not_prefix free split telling rest,
    replaceAll_literal_append headed.ne_nil]

/-- A replacement stands between the parts in place of the literal. -/
theorem replaceAll_eq {parts : List (List Char)} (parted : Parted literal text parts) :
    replaceAll literal replacement text = replacement.intercalate parts := by
  obtain ⟨rfl, telling, free⟩ := parted
  induction parts with
  | nil => exact absurd rfl telling
  | cons part parts ih =>
      have first := free part List.mem_cons_self
      cases parts with
      | nil =>
          rw [List.intercalate_singleton, List.intercalate_singleton,
            replaceAll_of_free first]
      | cons next parts =>
          rw [List.intercalate_cons_cons, List.intercalate_cons_cons, List.append_assoc,
            headed.replaceAll_part first, ih (by simp), List.append_assoc]
          intro other member
          exact free other (List.mem_cons_of_mem part member)

/-- A free part in front of the literal is the same in every split of a text. -/
theorem part_unique {other more : List Char} (free : ¬ literal <:+: part)
    (otherFree : ¬ literal <:+: other)
    (same : part ++ (literal ++ rest) = other ++ (literal ++ more)) :
    part = other ∧ rest = more := by
  have equal : part = other := by
    rcases List.append_eq_append_iff.mp same with
      ⟨right, whole, follows⟩ | ⟨right, whole, follows⟩
    · cases right with
      | nil => simpa using whole.symm
      | cons c right =>
          exact absurd ⟨rest, follows⟩
            (headed.not_prefix otherFree whole (by simp) more)
    · cases right with
      | nil => simpa using whole
      | cons c right =>
          exact absurd ⟨more, follows⟩ (headed.not_prefix free whole (by simp) rest)
  subst equal
  exact ⟨rfl, List.append_cancel_left (List.append_cancel_left same)⟩

theorem parted_unique {parts others : List (List Char)}
    (parted : Parted literal text parts) (again : Parted literal text others) :
    parts = others := by
  induction parts generalizing text others with
  | nil => exact absurd rfl parted.telling
  | cons part parts ih =>
      obtain ⟨other, more, rfl⟩ := List.exists_cons_of_ne_nil again.telling
      have count := parted.infix_iff.symm.trans again.infix_iff
      have first := parted.free part List.mem_cons_self
      have otherFirst := again.free other List.mem_cons_self
      have same := parted.joined.symm.trans again.joined
      -- There is one part on both sides, or there are more on both.
      cases parts with
      | nil =>
          cases more with
          | nil => simpa using same
          | cons next more => simp at count
      | cons second parts =>
          cases more with
          | nil => simp at count
          | cons next more =>
              rw [List.intercalate_cons_cons, List.intercalate_cons_cons,
                List.append_assoc, List.append_assoc] at same
              obtain ⟨rfl, rest⟩ := headed.part_unique first otherFirst same
              have later := again.tail
              rw [← rest] at later
              rw [ih parted.tail later]

end Headed

/-! ## Replacements for good -/

/-- No occurrence of the literal can reach into the replacement, whatever stands
around it. -/
structure Supplants (replacement literal : List Char) : Prop where
  headed : Headed literal
  alike : replacement.head? = literal.head?
  /-- No end of the replacement is a start of the literal or begins with it. -/
  apart : ∀ place < replacement.length,
    ¬ literal <+: replacement.drop place ∧ ¬ replacement.drop place <+: literal

namespace Supplants

variable (supplants : Supplants replacement literal)
include supplants

theorem not_prefix {left right : List Char} (split : replacement = left ++ right)
    (telling : right ≠ []) (rest : List Char) : ¬ literal <+: right ++ rest := by
  intro starts
  have inside : left.length < replacement.length := by
    have long := List.length_pos_iff.mpr telling
    rw [split, List.length_append]
    omega
  have apart := supplants.apart left.length inside
  rw [split, List.drop_left] at apart
  rcases List.prefix_or_prefix_of_prefix starts (List.prefix_append right rest) with
    short | long
  · exact apart.1 short
  · exact apart.2 long

theorem infix_of_part (free : ¬ literal <:+: part)
    (found : literal <:+: part ++ (replacement ++ rest)) : literal <:+: rest := by
  -- It starts neither in the part nor in the replacement.
  have behind : literal <:+: replacement ++ rest :=
    infix_of_append (fun _ _ split telling =>
      supplants.headed.not_prefix_of_head free split telling supplants.alike rest) found
  exact infix_of_append (fun _ _ split telling =>
    supplants.not_prefix split telling rest) behind

theorem not_infix_intercalate {parts : List (List Char)}
    (free : ∀ part ∈ parts, ¬ literal <:+: part) :
    ¬ literal <:+: replacement.intercalate parts := by
  induction parts with
  | nil =>
      rw [List.intercalate_nil, List.infix_nil]
      exact supplants.headed.ne_nil
  | cons part parts ih =>
      have first := free part List.mem_cons_self
      cases parts with
      | nil => rwa [List.intercalate_singleton]
      | cons next parts =>
          rw [List.intercalate_cons_cons, List.append_assoc]
          intro found
          refine ih ?_ (supplants.infix_of_part first found)
          intro other member
          exact free other (List.mem_cons_of_mem part member)

theorem not_infix_replaceAll (text : List Char) :
    ¬ literal <:+: replaceAll literal replacement text := by
  obtain ⟨parts, parted⟩ := exists_parted supplants.headed.ne_nil text
  rw [supplants.headed.replaceAll_eq parted]
  exact supplants.not_infix_intercalate parted.free

end Supplants

end ToolBridge.Text
