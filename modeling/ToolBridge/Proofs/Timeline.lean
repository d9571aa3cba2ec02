import Mathlib.Data.List.Induction

/-!
# Timelines

A timeline is a list that grows at its end.  What stands in it was there
before the last entry came, or is the last entry.  Of two of its entries one
comes first, or they are the same.
-/

namespace ToolBridge

theorem of_append_singleton_eq_append_cons {α : Type} {past earlier later : List α}
    {entry last : α} (equal : past ++ [last] = earlier ++ entry :: later) :
    (∃ since, later = since ++ [last] ∧ past = earlier ++ entry :: since) ∨
      (later = [] ∧ last = entry ∧ past = earlier) := by
  rcases List.eq_nil_or_concat later with rfl | ⟨since, final, rfl⟩
  · obtain ⟨same, rest⟩ := List.append_inj' equal rfl
    injection rest with rest _
    exact Or.inr ⟨rfl, rest, same⟩
  · rw [List.concat_eq_append] at equal ⊢
    rw [← List.cons_append, ← List.append_assoc] at equal
    obtain ⟨same, rest⟩ := List.append_inj' equal rfl
    injection rest with rest _
    exact Or.inl ⟨since, by rw [rest], same⟩

theorem append_cons_cases {α : Type} {earlier later front back : List α}
    {entry other : α} (equal : earlier ++ entry :: later = front ++ other :: back) :
    (earlier = front ∧ entry = other ∧ later = back) ∨
      (∃ between, front = earlier ++ entry :: between ∧
        later = between ++ other :: back) ∨
      ∃ between, earlier = front ++ other :: between ∧
        back = between ++ entry :: later := by
  rcases List.append_eq_append_iff.mp equal with
    ⟨middle, front_eq, rest⟩ | ⟨middle, earlier_eq, rest⟩
  · cases middle with
    | nil =>
        injection rest with same behind
        exact Or.inl ⟨by rw [front_eq, List.append_nil], same, behind⟩
    | cons first middle =>
        injection rest with same behind
        subst same
        exact Or.inr (Or.inl ⟨middle, front_eq, behind⟩)
  · cases middle with
    | nil =>
        injection rest with same behind
        exact Or.inl ⟨by rw [earlier_eq, List.append_nil], same.symm, behind.symm⟩
    | cons first middle =>
        injection rest with same behind
        subst same
        exact Or.inr (Or.inr ⟨middle, earlier_eq, behind⟩)

end ToolBridge
