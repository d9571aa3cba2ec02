/-!
# Literal texts

Finding, removing and replacing one literal text inside another.
-/

namespace ToolBridge.Text

/-- What follows `literal` at the head of a text. -/
def after? : (literal text : List Char) → Option (List Char)
  | [], text => some text
  | _ :: _, [] => none
  | expected :: literal, c :: text =>
      if expected = c then after? literal text else none

/-- The text in front of `literal` at its end. -/
def before? (literal text : List Char) : Option (List Char) :=
  (after? literal.reverse text.reverse).map List.reverse

def startsWith (literal text : List Char) : Bool :=
  (after? literal text).isSome

def endsWith (literal text : List Char) : Bool :=
  (before? literal text).isSome

def occurs (literal : List Char) : List Char → Bool
  | [] => literal.isEmpty
  | c :: cs => startsWith literal (c :: cs) || occurs literal cs

/-- Replacement in a text whose first `skip` characters belong to an
occurrence already replaced. -/
def replaceFrom (literal replacement : List Char) : Nat → List Char → List Char
  | _, [] => []
  | skip + 1, _ :: cs => replaceFrom literal replacement skip cs
  | 0, c :: cs =>
      if startsWith literal (c :: cs) then
        replacement ++ replaceFrom literal replacement (literal.length - 1) cs
      else
        c :: replaceFrom literal replacement 0 cs

/-- Replace every occurrence of a nonempty literal, from left to right and
without looking into what was put in its place. -/
def replaceAll (literal replacement text : List Char) : List Char :=
  replaceFrom literal replacement 0 text

theorem after?_eq_some_iff {literal text rest : List Char} :
    after? literal text = some rest ↔ text = literal ++ rest := by
  induction literal generalizing text with
  | nil => simp [after?, eq_comm]
  | cons expected literal ih =>
      cases text with
      | nil => simp [after?]
      | cons c text =>
          by_cases same : expected = c
          · subst same
            simp [after?, ih]
          · have different : c ≠ expected := fun equal => same equal.symm
            simp [after?, same, different]

@[simp] theorem after?_append (literal rest : List Char) :
    after? literal (literal ++ rest) = some rest :=
  after?_eq_some_iff.mpr rfl

end ToolBridge.Text
