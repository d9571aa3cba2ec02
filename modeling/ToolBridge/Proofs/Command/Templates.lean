import Mathlib.Data.List.Forall2
import ToolBridge.Config
import ToolBridge.Proofs.Text.Literal

/-!
# Paths in the arguments of a command

A path may hold quotes, backslashes and the placeholder itself.  Where it stands
in a string literal of the toolchain's language it is escaped, so that a reader of
the literal reads the path and stops behind it.  The templates are filled in one
pass, so nothing in a path is ever filled again.  Hence the arguments of a command
tell which path they were made for.
-/

namespace ToolBridge

open ToolBridge.Text

namespace Template

variable {path other template literal : List Char} {parts : List (List Char)}

/-! ## String literals -/

/-- Read a string literal from behind its opening quote: its value, and what stands
behind its closing quote.  A backslash makes the next character stand for
itself. -/
def readLiteral : List Char → Option (List Char × List Char)
  | [] => none
  | c :: cs =>
      if c = '"' then some ([], cs)
      else if c = '\\' then
        match cs with
        | [] => none
        | d :: ds => (readLiteral ds).map fun read => (d :: read.1, read.2)
      else (readLiteral cs).map fun read => (c :: read.1, read.2)

theorem readLiteral_quote (rest : List Char) :
    readLiteral ('"' :: rest) = some ([], rest) := by
  rw [readLiteral.eq_def]
  exact if_pos rfl

theorem readLiteral_escaped (c : Char) (rest : List Char) :
    readLiteral ('\\' :: c :: rest) =
      (readLiteral rest).map fun read => (c :: read.1, read.2) := by
  simp [readLiteral]

theorem readLiteral_plain {c : Char} (noQuote : c ≠ '"') (noBackslash : c ≠ '\\')
    (rest : List Char) :
    readLiteral (c :: rest) =
      (readLiteral rest).map fun read => (c :: read.1, read.2) := by
  rw [readLiteral.eq_def]
  exact (if_neg noQuote).trans (if_neg noBackslash)

/-- The reader reads the path that was escaped, and stops at the quote behind it. -/
theorem readLiteral_escape (path rest : List Char) :
    readLiteral (escape path ++ '"' :: rest) = some (path, rest) := by
  induction path with
  | nil => rw [escape, List.nil_append, readLiteral_quote]
  | cons c path ih =>
      rw [escape]
      split
      · rw [List.cons_append, List.cons_append, readLiteral_escaped, ih,
          Option.map_some]
      · rename_i plain
        obtain ⟨noBackslash, noQuote⟩ := not_or.mp plain
        rw [List.cons_append, readLiteral_plain noQuote noBackslash, ih,
          Option.map_some]

theorem escape_injective (same : escape path = escape other) : path = other := by
  have read := readLiteral_escape path []
  rw [same, readLiteral_escape other [], Option.some.injEq, Prod.mk.injEq] at read
  exact read.1.symm

/-! ## Filling a template -/

theorem headed_placeholder : Headed placeholder :=
  ⟨_, _, rfl, by decide⟩

theorem expand_placeholder (path : List Char) : expand path placeholder = path :=
  if_pos rfl

theorem expand_eq (longer : template ≠ placeholder)
    (parted : Parted placeholder template parts) (path : List Char) :
    expand path template = (escape path).intercalate parts := by
  rw [expand, if_neg longer, headed_placeholder.replaceAll_eq parted]

/-! ## Telling paths apart -/

theorem length_intercalate (literal part : List Char) (parts : List (List Char)) :
    (literal.intercalate (part :: parts)).length =
      (part :: parts).flatten.length + parts.length * literal.length := by
  induction parts generalizing part with
  | nil => simp
  | cons next parts ih =>
      rw [List.intercalate_cons_cons, List.length_append, List.length_append, ih,
        List.flatten_cons (l := part), List.length_append, List.length_cons,
        Nat.succ_mul]
      omega

/-- What stands between two parts or more can be told from the whole. -/
theorem intercalate_injective (several : 2 ≤ parts.length)
    (same : path.intercalate parts = other.intercalate parts) : path = other := by
  obtain ⟨part, rest, rfl⟩ := List.exists_cons_of_ne_nil
    (List.length_pos_iff.mp (Nat.lt_of_lt_of_le Nat.two_pos several))
  have length : path.length = other.length := by
    have lengths := congrArg List.length same
    rw [length_intercalate, length_intercalate, Nat.add_left_cancel_iff] at lengths
    refine Nat.eq_of_mul_eq_mul_left ?_ lengths
    rw [List.length_cons] at several
    omega
  cases rest with
  | nil => simp at several
  | cons next rest =>
      rw [List.intercalate_cons_cons, List.intercalate_cons_cons, List.append_assoc,
        List.append_assoc] at same
      exact (List.append_inj (List.append_cancel_left same) length).1

theorem expand_injective (holds : placeholder <:+: template)
    (same : expand path template = expand other template) : path = other := by
  by_cases bare : template = placeholder
  · rwa [bare, expand_placeholder, expand_placeholder] at same
  · obtain ⟨parts, parted⟩ := exists_parted headed_placeholder.ne_nil template
    rw [expand_eq bare parted, expand_eq bare parted] at same
    exact escape_injective (intercalate_injective (parted.infix_iff.mp holds) same)

/-! ## Arguments -/

/-- The argument that a template gives for a path. -/
inductive Argument (path : String) : String → String → Prop where
  | bare {template : String} (alone : template.toList = placeholder) :
      Argument path template path
  | filled {template : String} {parts : List (List Char)}
      (longer : template.toList ≠ placeholder)
      (parted : Parted placeholder template.toList parts) :
      Argument path template
        (String.ofList ((escape path.toList).intercalate parts))

theorem argument_expand (path template : String) :
    Argument path template (String.ofList (expand path.toList template.toList)) := by
  by_cases bare : template.toList = placeholder
  · rw [bare, expand_placeholder, String.ofList_toList]
    exact .bare bare
  · obtain ⟨parts, parted⟩ := exists_parted headed_placeholder.ne_nil template.toList
    rw [expand_eq bare parted]
    exact .filled bare parted

theorem expandAll_injective {templates : List String} {path other : String}
    (holds : ∃ template ∈ templates, placeholder <:+: template.toList)
    (same : expandAll templates path = expandAll templates other) : path = other := by
  obtain ⟨template, member, inside⟩ := holds
  have equal := List.map_inj_left.mp same template member
  exact String.toList_inj.mp (expand_injective inside (String.ofList_injective equal))

/-! ## The standard check -/

/-- What stands in front of the literal with the path. -/
def opening : List Char := "(enter! (file ".toList

def closing : List Char := "))".toList

theorem expandAll_standard (path : String) :
    expandAll Config.standard.checkArguments path =
      ["-e", String.ofList (opening ++ '"' :: (escape path.toList ++
        '"' :: closing))] := by
  have free : ∀ part ∈ [['-', 'e'], opening ++ ['"'], '"' :: closing],
      occurs placeholder part = false := by
    decide
  have option : Parted placeholder "-e".toList [['-', 'e']] := by
    refine ⟨rfl, by simp, ?_⟩
    intro part member
    rw [← occurs_iff, free part (by simp_all)]
    decide
  have call : Parted placeholder "(enter! (file \"\x7bfile\x7d\"))".toList
      [opening ++ ['"'], '"' :: closing] := by
    refine ⟨by decide, by simp, ?_⟩
    intro part member
    rw [← occurs_iff, free part (List.mem_cons_of_mem _ member)]
    decide
  have first := expand_eq (by decide) option path.toList
  have second := expand_eq (by decide) call path.toList
  rw [List.intercalate_singleton] at first
  rw [List.intercalate_cons_cons, List.intercalate_singleton] at second
  change [String.ofList (expand path.toList "-e".toList),
    String.ofList (expand path.toList _)] = _
  rw [first, second]
  simp only [List.append_assoc, List.cons_append]
  rfl

/-! ## Every path -/

/-- What becomes of a path in the arguments of a command. -/
structure PathStaysLiteral (path : String) : Prop where
  commands : ∀ config : Config,
    (config.checkCommand path).arguments = expandAll config.checkArguments path ∧
      (config.runCommand path).arguments = expandAll config.runArguments path
  arguments : ∀ templates : List String,
    List.Forall₂ (Argument path) templates (expandAll templates path)
  /-- There is one way to cut a template at its placeholders. -/
  parts : ∀ template : String, ∃ parts, Parted placeholder template.toList parts ∧
    ∀ others, Parted placeholder template.toList others → others = parts
  literal : ∀ rest : List Char,
    readLiteral (escape path.toList ++ '"' :: rest) = some (path.toList, rest)
  /-- The first quote of the standard check opens a literal of the path. -/
  standard : ∀ config : Config,
    config.checkArguments = Config.standard.checkArguments →
      ∃ before rest : List Char,
        (config.checkCommand path).arguments =
          ["-e", String.ofList (before ++ '"' :: rest)] ∧
        before = "(enter! (file ".toList ∧
        readLiteral rest = some (path.toList, "))".toList)
  apart : ∀ (templates : List String) (other : String),
    (∃ template ∈ templates, placeholder <:+: template.toList) →
      path ≠ other → expandAll templates path ≠ expandAll templates other

/-- For every path and all templates, the path stands in the arguments where the
templates name it, a string literal around it denotes exactly the path, and no
other path gives the same arguments. -/
theorem pathStaysLiteral_path (path : String) : PathStaysLiteral path where
  commands config := ⟨rfl, rfl⟩
  arguments templates := by
    rw [expandAll, List.forall₂_map_right_iff, List.forall₂_same]
    intro template _
    exact argument_expand path template
  parts template := by
    obtain ⟨parts, parted⟩ := exists_parted headed_placeholder.ne_nil template.toList
    exact ⟨parts, parted, fun others again =>
      headed_placeholder.parted_unique again parted⟩
  literal := readLiteral_escape path.toList
  standard config same := by
    refine ⟨opening, escape path.toList ++ '"' :: closing, ?_, rfl,
      readLiteral_escape path.toList closing⟩
    rw [← expandAll_standard, ← same]
    rfl
  apart templates other holds different same :=
    different (expandAll_injective holds same)

/-- A path that ends in a backslash and holds a quote and the placeholder. -/
example :
    expandAll ["\x7bfile\x7d", "(a \"\x7bfile\x7d\" \"\x7bfile\x7d\")"] "\"\x7bfile\x7d\\" =
      ["\"\x7bfile\x7d\\",
        "(a \"\\\"\x7bfile\x7d\\\\\" \"\\\"\x7bfile\x7d\\\\\")"] := by
  decide

end Template

end ToolBridge
