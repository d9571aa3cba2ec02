import ToolBridge.Proofs.Toml.Values

/-!
# Files are read as they were written

A file of lines, each with a key and a value, is read into a table with these
entries in this order, as long as no key comes twice.
-/

namespace ToolBridge.Toml

open ToolBridge.Text

variable {key : String} {value text rest : List Char} {item : Item} {entries : Entries}

/-- A key that needs no quotes. -/
structure Bare (key : String) : Prop where
  telling : key.toList ≠ []
  plain : key.toList.all isBareKeyChar = true

/-- The text of a table, line by line. -/
inductive Written : List Char → Entries → Prop where
  | nil : Written [] []
  | line {key : String} {value text : List Char} {item : Item} {entries : Entries}
      (bare : Bare key) (reads : ReadsAs depthLimit value item)
      (others : Written text entries) :
      Written (writeLine key value ++ text) ((key, item) :: entries)

/-! ## Lines -/

theorem ne_of_isBareKeyChar {c : Char} (bare : isBareKeyChar c = true)
    (other : Char) (different : isBareKeyChar other = false) : c ≠ other := by
  rintro rfl
  cases bare.symm.trans different

theorem skipSpaces_of_head {c : Char} (solid : isSpace c = false) (rest : List Char) :
    skipSpaces (c :: rest) = c :: rest :=
  List.dropWhile_cons_of_neg (by simp [solid])

theorem isSpace_of_isBareKeyChar {c : Char} (bare : isBareKeyChar c = true) :
    isSpace c = false := by
  simp [isSpace, ne_of_isBareKeyChar bare ' ' rfl, ne_of_isBareKeyChar bare '\t' rfl]

theorem Bare.head (bare : Bare key) :
    ∃ c others, key.toList = c :: others ∧ isBareKeyChar c = true := by
  obtain ⟨c, others, shape⟩ := List.exists_cons_of_ne_nil bare.telling
  have plain := bare.plain
  rw [shape, List.all_cons, Bool.and_eq_true] at plain
  exact ⟨c, others, shape, plain.1⟩

theorem skipSpaces_bare (bare : Bare key) (rest : List Char) :
    skipSpaces (key.toList ++ rest) = key.toList ++ rest := by
  obtain ⟨c, others, shape, first⟩ := bare.head
  rw [shape, List.cons_append]
  exact skipSpaces_of_head (isSpace_of_isBareKeyChar first) _

theorem readKeyPart_bare (bare : Bare key) (rest : List Char) :
    readKeyPart (key.toList ++ ' ' :: rest) = some (key, ' ' :: rest) := by
  have plain := List.all_eq_true.mp bare.plain
  have taken : (key.toList ++ ' ' :: rest).takeWhile isBareKeyChar = key.toList ∧
      (key.toList ++ ' ' :: rest).dropWhile isBareKeyChar = ' ' :: rest := by
    rw [List.takeWhile_append_of_pos plain, List.dropWhile_append_of_pos plain]
    exact ⟨List.append_nil _, rfl⟩
  obtain ⟨c, others, shape, first⟩ := bare.head
  have name : String.ofList (c :: others) = key := by
    rw [← shape, String.ofList_toList]
  rw [shape, List.cons_append] at taken ⊢
  simp only [readKeyPart, taken.1, taken.2]
  rw [if_neg (ne_of_isBareKeyChar first '"' rfl),
    if_neg (ne_of_isBareKeyChar first apostrophe rfl), Option.map_some, name]

theorem readKey_bare (bare : Bare key) (rest : List Char) :
    readKey keyLimit (key.toList ++ ' ' :: '=' :: rest) =
      some ([key], '=' :: rest) := by
  have spaces : skipSpaces (' ' :: '=' :: rest) = '=' :: rest := rfl
  rw [keyLimit, readKey, skipSpaces_bare bare, readKeyPart_bare bare]
  dsimp only
  rw [spaces]
  rfl

theorem writeLine_append (key : String) (value rest : List Char) :
    writeLine key value ++ rest =
      key.toList ++ ' ' :: '=' :: ' ' :: (value ++ '\n' :: rest) := by
  simp [writeLine]

theorem readPair_line (bare : Bare key) (reads : ReadsAs depthLimit value item)
    (rest : List Char) :
    readPair (readItem depthLimit) (writeLine key value ++ rest) =
      some (([], key, item), '\n' :: rest) := by
  have spaces : skipSpaces (' ' :: (value ++ '\n' :: rest)) = value ++ '\n' :: rest := by
    obtain ⟨c, body, rfl, solid⟩ := reads.opens
    exact skipSpaces_of_head solid _
  rw [writeLine_append, readPair, readKey_bare bare]
  simp only [spaces, reads.read _ (.line rest)]
  rfl

theorem readStatement_of_head {c : Char} (bare : isBareKeyChar c = true)
    (rest : List Char) :
    readStatement (c :: rest) =
      (readPair (readItem depthLimit) (c :: rest)).map fun ((path, key, item), rest) =>
        (some (.pair path key item), rest) := by
  have apart := ne_of_isBareKeyChar bare
  rw [readStatement, skipSpaces_of_head (isSpace_of_isBareKeyChar bare)]
  simp [apart '\n' rfl, apart '\r' rfl, apart '#' rfl, apart '[' rfl]

theorem readStatement_line (bare : Bare key) (reads : ReadsAs depthLimit value item)
    (rest : List Char) :
    readStatement (writeLine key value ++ rest) =
      some (some (.pair [] key item), '\n' :: rest) := by
  have pair := readPair_line bare reads rest
  obtain ⟨c, others, shape, first⟩ := bare.head
  rw [writeLine_append, shape, List.cons_append] at pair ⊢
  rw [readStatement_of_head first, pair]
  rfl

/-! ## Files -/

/-- The text of a line is not empty, so there are enough steps for all lines. -/
theorem readStatements_written (written : Written text entries) {fuel : Nat}
    (enough : text.length ≤ fuel) :
    readStatements fuel text =
      some (entries.map fun entry => .pair [] entry.1 entry.2) := by
  induction written generalizing fuel with
  | nil => cases fuel <;> rfl
  | @line key value text item entries bare reads others ih =>
      have statement := readStatement_line bare reads text
      have feed : endLine ('\n' :: text) = some text := rfl
      obtain ⟨c, others, shape, first⟩ := bare.head
      rw [writeLine_append, shape, List.cons_append] at enough statement ⊢
      cases fuel with
      | zero => cases enough
      | succ fuel =>
          have behind := ih (show text.length ≤ fuel by
            simp only [List.length_cons, List.length_append] at enough
            omega)
          simp only [readStatements, statement, feed, behind]
          rfl

theorem lookup_eq_none {key : String} {entries : Entries}
    (fresh : key ∉ entries.map Prod.fst) : lookup key entries = none := by
  induction entries with
  | nil => rfl
  | cons entry entries ih =>
      rw [List.map_cons, List.mem_cons, not_or] at fresh
      rw [lookup, if_neg (Ne.symm fresh.1), ih fresh.2]

theorem foldlM_add {root entries : Entries}
    (distinct : ((root ++ entries).map Prod.fst).Nodup) :
    (entries.map fun entry => Statement.pair [] entry.1 entry.2).foldlM Assembly.add
        ⟨root, []⟩ =
      some ⟨root ++ entries, []⟩ := by
  induction entries generalizing root with
  | nil => simp
  | cons entry entries ih =>
      have fresh : entry.1 ∉ root.map Prod.fst := by
        rw [List.map_append, List.map_cons] at distinct
        intro member
        exact (List.nodup_append.mp distinct).2.2 _ member _ List.mem_cons_self rfl
      have added : Assembly.add ⟨root, []⟩ (.pair [] entry.1 entry.2) =
          some ⟨root ++ [entry], []⟩ := by
        simp [Assembly.add, descend, insertPair, addNew, lookup_eq_none fresh]
      have others := @ih (root ++ [entry]) (by simpa using distinct)
      rw [List.map_cons, List.foldlM_cons, added]
      simpa using others

theorem read_written (written : Written text entries)
    (distinct : (entries.map Prod.fst).Nodup) : read text = some entries := by
  have unmarked : text.head? ≠ some byteOrderMark := by
    cases written with
    | nil => simp
    | @line key value text item entries bare _ _ =>
        obtain ⟨c, others, shape, first⟩ := bare.head
        rw [writeLine_append, shape, List.cons_append, List.head?_cons]
        intro marked
        exact ne_of_isBareKeyChar first byteOrderMark rfl (Option.some.inj marked)
  have statements := readStatements_written written (Nat.le_refl _)
  have assembled := @foldlM_add [] entries distinct
  simp only [read, if_neg unmarked, statements, assemble]
  rw [assembled]
  rfl

end ToolBridge.Toml
