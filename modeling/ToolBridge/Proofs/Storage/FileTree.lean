import ToolBridge.FileTree
import ToolBridge.Proofs.Scratch.Names
import ToolBridge.Proofs.Text.Lines
import ToolBridge.Proofs.Text.Utf8

/-!
# What a file tree keeps

Whatever is written to a tree or removed from it, directories stay, and so do
the files that have another name.  A file that can be read is therefore read
as before after an operation on a path whose last component is different,
wherever the two paths lead.
-/

namespace ToolBridge

/-- A storage keeps what is written to it until something else is written to
the same path or it is removed.  Paths that are apart do not matter to each
other. -/
structure Storage.Faithful (σ : Type) [Storage σ]
    (apart : String → String → Prop) : Prop where
  written : ∀ {storage : σ} {path text : String},
    (Storage.write storage path text).2 = .ok () →
      Storage.read (Storage.write storage path text).1 path = .ok text
  /-- A write that is refused costs no text. -/
  refused : ∀ {storage : σ} {path text : String} {cause : OsError},
    (Storage.write storage path text).2 = .error cause →
      ∀ {other stored : String}, Storage.read storage other = .ok stored →
        Storage.read (Storage.write storage path text).1 other = .ok stored
  write_apart : ∀ {path other : String}, apart path other →
    ∀ (storage : σ) (text : String) {stored : String},
      Storage.read storage other = .ok stored →
        Storage.read (Storage.write storage path text).1 other = .ok stored
  remove_apart : ∀ {path other : String}, apart path other →
    ∀ (storage : σ) {stored : String}, Storage.read storage other = .ok stored →
      Storage.read (Storage.remove storage path).1 other = .ok stored

namespace FileTree

open ToolBridge.Text

variable {tree middle next : FileTree} {path other : List Char}
  {directory place : List EntryName} {name : EntryName} {node : Node}
  {names : EntryName → Prop} {content kept : List UInt8}

/-! ## Nodes -/

theorem nodeAt_put (tree : FileTree) (directory : List EntryName)
    (name : EntryName) (node : Node) (place : List EntryName) :
    (tree.put (directory ++ [name]) node).nodeAt place =
      if directory ++ [name] = place then some node else tree.nodeAt place := by
  cases place with
  | nil => rw [if_neg (by simp)]; rfl
  | cons first rest => exact Dict.get?_insert _ _ _ _

theorem nodeAt_erase (tree : FileTree) (directory : List EntryName)
    (name : EntryName) (place : List EntryName) :
    nodeAt { tree with nodes := tree.nodes.erase (directory ++ [name]) } place =
      if directory ++ [name] = place then none else tree.nodeAt place := by
  cases place with
  | nil => rw [if_neg (by simp)]; rfl
  | cons first rest => exact Dict.get?_erase _ _ _

/-- A tree keeps its directories, and the files whose name is not among those
that may change. -/
structure Keeps (names : EntryName → Prop) (tree next : FileTree) : Prop where
  workDirectory : next.workDirectory = tree.workDirectory
  directories : ∀ {place}, tree.nodeAt place = some .directory →
    next.nodeAt place = some .directory
  files : ∀ {directory name content}, ¬ names name →
    tree.nodeAt (directory ++ [name]) = some (.file content) →
      next.nodeAt (directory ++ [name]) = some (.file content)

namespace Keeps

theorem refl (names : EntryName → Prop) (tree : FileTree) :
    Keeps names tree tree where
  workDirectory := rfl
  directories := id
  files := fun _ => id

theorem trans (first : Keeps names tree middle)
    (second : Keeps names middle next) : Keeps names tree next where
  workDirectory := second.workDirectory.trans first.workDirectory
  directories := fun found => second.directories (first.directories found)
  files := fun unlike found => second.files unlike (first.files unlike found)

theorem mono {more : EntryName → Prop} (keeps : Keeps names tree next)
    (wider : ∀ name, names name → more name) : Keeps more tree next where
  workDirectory := keeps.workDirectory
  directories := keeps.directories
  files := fun unlike => keeps.files fun named => unlike (wider _ named)

theorem put_directory (empty : tree.nodeAt (directory ++ [name]) = none) :
    Keeps names tree (tree.put (directory ++ [name]) .directory) where
  workDirectory := rfl
  directories := by
    intro place found
    rw [nodeAt_put]
    split
    · rfl
    · exact found
  files := by
    intro parent entry content _ found
    rw [nodeAt_put, if_neg]
    · exact found
    · intro same
      rw [same, found] at empty
      cases empty

theorem put_file (free : tree.nodeAt (directory ++ [name]) ≠ some .directory)
    (content : List UInt8) :
    Keeps (· = name) tree (tree.put (directory ++ [name]) (.file content)) where
  workDirectory := rfl
  directories := by
    intro place found
    rw [nodeAt_put, if_neg]
    · exact found
    · rintro rfl
      exact free found
  files := by
    intro parent entry content unlike found
    rw [nodeAt_put, if_neg]
    · exact found
    · intro same
      exact unlike (List.append_singleton_inj.mp same).2.symm

theorem erase_file
    (found : tree.nodeAt (directory ++ [name]) = some (.file content)) :
    Keeps (· = name) tree
      { tree with nodes := tree.nodes.erase (directory ++ [name]) } where
  workDirectory := rfl
  directories := by
    intro place stays
    rw [nodeAt_erase, if_neg]
    · exact stays
    · rintro rfl
      rw [found] at stays
      cases stays
  files := by
    intro parent entry content unlike stays
    rw [nodeAt_erase, if_neg]
    · exact stays
    · intro same
      exact unlike (List.append_singleton_inj.mp same).2.symm

end Keeps

/-! ## Following a path -/

/-- The last component of a path that says something. -/
def finalName (path : List Char) : Option EntryName :=
  ((Path.rawComponents path).filter (· != [])).getLast?

theorem bind_eq_ok {ε α β : Type} {first : Except ε α} {rest : α → Except ε β}
    {result : β} :
    first >>= rest = .ok result ↔
      ∃ value, first = .ok value ∧ rest value = .ok result := by
  cases first with
  | error cause => simp [bind, Except.bind]
  | ok value => simp [bind, Except.bind]

theorem Keeps.enter (keeps : Keeps names tree next)
    (entered : tree.enter directory name = .ok place) :
    next.enter directory name = .ok place := by
  unfold FileTree.enter at entered ⊢
  split
  · rename_i stays
    rwa [if_pos stays] at entered
  · rename_i stays
    rw [if_neg stays] at entered
    split
    · rename_i up
      rwa [if_pos up] at entered
    · rename_i up
      rw [if_neg up] at entered
      split
      · rename_i long
        rwa [if_pos long] at entered
      · rename_i long
        rw [if_neg long] at entered
        cases found : tree.nodeAt (directory ++ [name]) with
        | none => simp [found] at entered
        | some node =>
            cases node with
            | file => simp [found] at entered
            | directory =>
                rw [keeps.directories found]
                simpa [found] using entered

theorem Keeps.enterAll (keeps : Keeps names tree next) {path : List EntryName}
    (entered : path.foldlM tree.enter directory = .ok place) :
    path.foldlM next.enter directory = .ok place := by
  induction path generalizing directory with
  | nil => exact entered
  | cons name path ih =>
      rw [List.foldlM_cons, bind_eq_ok] at entered ⊢
      obtain ⟨inner, first, rest⟩ := entered
      exact ⟨inner, keeps.enter first, ih rest⟩

/-- A path leads to an entry if the system looks at it at all and all its
components but the last are directories. -/
theorem follow_eq_entry_iff {slash : Bool} :
    tree.follow path = .ok (.entry directory name slash) ↔
      (path.contains (Char.ofNat 0) = false ∧ path.isEmpty = false ∧
        utf8Length path < pathLimit) ∧
      finalName path = some name ∧
      ((Path.rawComponents path).filter (· != [])).dropLast.foldlM tree.enter
          (if Path.isAbsolute path then [] else tree.workDirectory) =
        .ok directory ∧
      (path.getLast? == some '/') = slash := by
  unfold follow finalName
  generalize (Path.rawComponents path).filter (· != []) = components
  cases path.contains (Char.ofNat 0) with
  | true => simp
  | false =>
      cases path.isEmpty with
      | true => simp
      | false =>
          by_cases long : pathLimit ≤ utf8Length path
          · simp [long, Nat.not_lt.mpr long]
          · rw [if_neg Bool.false_ne_true, if_neg Bool.false_ne_true, if_neg long]
            dsimp only
            cases components.getLast? with
            | none => simp
            | some last =>
                simp [bind_eq_ok, Nat.not_le.mp long, pure, Except.pure,
                  and_left_comm]

theorem Keeps.follow {slash : Bool} (keeps : Keeps names tree next)
    (followed : tree.follow path = .ok (.entry directory name slash)) :
    next.follow path = .ok (.entry directory name slash) := by
  rw [follow_eq_entry_iff] at followed ⊢
  rw [keeps.workDirectory]
  obtain ⟨admissible, last, entered, slashed⟩ := followed
  exact ⟨admissible, last, keeps.enterAll entered, slashed⟩

/-! ## Reading -/

theorem read_eq_ok_iff :
    tree.read path = .ok content ↔
      ∃ directory name, tree.follow path = .ok (.entry directory name false) ∧
        isRelative name = false ∧ utf8Length name ≤ nameLimit ∧
        tree.nodeAt (directory ++ [name]) = some (.file content) := by
  unfold read
  rw [bind_eq_ok]
  constructor
  · rintro ⟨target, followed, found⟩
    cases target with
    | root => cases found
    | entry directory name slash =>
        dsimp only at found
        split at found
        · cases found
        · rename_i proper
          split at found
          · cases found
          · rename_i short
            split at found
            · rename_i file
              cases slash with
              | true => cases found
              | false =>
                  cases found
                  exact ⟨directory, name, followed, Bool.eq_false_iff.mpr proper,
                    Nat.not_lt.mp short, file⟩
            · cases found
            · cases found
  · rintro ⟨directory, name, followed, proper, short, found⟩
    refine ⟨_, followed, ?_⟩
    simp [proper, Nat.not_lt.mpr short, found, pure, Except.pure]

theorem Keeps.read (keeps : Keeps names tree next)
    (unlike : ∀ name, finalName path = some name → ¬ names name)
    (found : tree.read path = .ok content) : next.read path = .ok content := by
  obtain ⟨directory, name, followed, proper, short, file⟩ :=
    read_eq_ok_iff.mp found
  have last := (follow_eq_entry_iff.mp followed).2.1
  exact read_eq_ok_iff.mpr ⟨directory, name, keeps.follow followed, proper,
    short, keeps.files (unlike name last) file⟩

theorem Keeps.readText {text : String} (keeps : Keeps names tree next)
    (unlike : ∀ name, finalName path = some name → ¬ names name)
    (found : tree.readText path = .ok text) : next.readText path = .ok text := by
  unfold FileTree.readText at found ⊢
  rw [bind_eq_ok] at found ⊢
  obtain ⟨content, stored, decoded⟩ := found
  exact ⟨content, keeps.read unlike stored, decoded⟩

/-! ## Making directories -/

section Directories

variable {motive : FileTree → Prop}
  (step : ∀ {tree directory name}, tree.nodeAt (directory ++ [name]) = none →
    motive tree → motive (tree.put (directory ++ [name]) .directory))

include step

theorem makeDirectory_invariant (holds : motive tree)
    (made : tree.makeDirectory path = .ok next) : motive next := by
  unfold makeDirectory at made
  rw [bind_eq_ok] at made
  obtain ⟨target, _, made⟩ := made
  cases target with
  | root => cases made
  | entry directory name slash =>
      dsimp only at made
      split at made
      · cases made
      · split at made
        · cases made
        · split at made
          · cases made
          · rename_i empty
            cases made
            exact step empty holds

theorem ensureDirectory_invariant (holds : motive tree)
    (made : tree.ensureDirectory path = .ok next) : motive next := by
  unfold ensureDirectory at made
  split at made
  · rename_i new
    cases made
    exact makeDirectory_invariant step holds new
  · split at made
    · cases made
      exact holds
    · cases made

theorem makeEach_invariant (holds : motive tree) (paths : List (List Char)) :
    motive (tree.makeEach paths).1 := by
  -- Directories that were made before a failure stay.
  induction paths with
  | nil => exact holds
  | cons path above ih =>
      unfold makeEach
      split
      · exact holds
      · split
        · rename_i made
          exact ensureDirectory_invariant step holds made
        · split
          · rename_i others
            rw [others] at ih
            split
            · rename_i made
              exact ensureDirectory_invariant step ih made
            · exact ih
          · rename_i others
            rw [others] at ih
            exact ih
        · exact holds

/-- What one new directory preserves is preserved when the directories above a
path are made, whether or not that comes to its end. -/
theorem makeParents_invariant (holds : motive tree) (path : List Char) :
    motive (tree.makeParents path).1 := by
  unfold makeParents
  split
  · exact makeEach_invariant step holds _
  · exact holds

end Directories

theorem keeps_makeParents (tree : FileTree) (path : List Char) :
    Keeps names tree (tree.makeParents path).1 :=
  makeParents_invariant (fun empty keeps => keeps.trans (.put_directory empty))
    (.refl names tree) path

/-! ## Writing and removing -/

theorem writeFile_eq_ok (wrote : tree.writeFile path content = .ok next) :
    ∃ directory name, tree.follow path = .ok (.entry directory name false) ∧
      isRelative name = false ∧ utf8Length name ≤ nameLimit ∧
      tree.nodeAt (directory ++ [name]) ≠ some .directory ∧
      next = tree.put (directory ++ [name]) (.file content) := by
  unfold writeFile at wrote
  rw [bind_eq_ok] at wrote
  obtain ⟨target, followed, wrote⟩ := wrote
  cases target with
  | root => cases wrote
  | entry directory name slash =>
      dsimp only at wrote
      split at wrote
      · cases wrote
      · rename_i proper
        split at wrote
        · cases wrote
        · rename_i short
          split at wrote
          · cases wrote
          · rename_i free
            cases wrote
            rw [Bool.or_eq_true, not_or, Bool.not_eq_true, Bool.not_eq_true]
              at proper
            obtain ⟨proper, rfl⟩ := proper
            exact ⟨directory, name, followed, proper, Nat.not_lt.mp short, free,
              rfl⟩

theorem keeps_writeFile (wrote : tree.writeFile path content = .ok next) :
    Keeps (finalName path = some ·) tree next := by
  obtain ⟨directory, name, followed, _, _, free, rfl⟩ := writeFile_eq_ok wrote
  refine (Keeps.put_file free content).mono ?_
  rintro _ rfl
  exact (follow_eq_entry_iff.mp followed).2.1

theorem read_writeFile (wrote : tree.writeFile path content = .ok next) :
    next.read path = .ok content := by
  obtain ⟨directory, name, followed, proper, short, free, rfl⟩ :=
    writeFile_eq_ok wrote
  refine read_eq_ok_iff.mpr ⟨directory, name,
    (Keeps.put_file free content).follow followed, proper, short, ?_⟩
  rw [nodeAt_put, if_pos rfl]

/-- How a write comes to its end, after the directories were made. -/
theorem write_cases (tree : FileTree) (path : List Char)
    (content : List UInt8) :
    (∃ cause, (tree.write path content).2 = .error cause ∧
      (tree.write path content).1 = (tree.makeParents path).1) ∨
    ((tree.makeParents path).1.writeFile path content =
        .ok (tree.write path content).1 ∧
      (tree.write path content).2 = .ok ()) := by
  unfold write
  split
  · rename_i middle _ made
    rw [made]
    split
    · rename_i wrote
      exact Or.inr ⟨wrote, rfl⟩
    · exact Or.inl ⟨_, rfl, rfl⟩
  · rename_i made
    rw [made]
    exact Or.inl ⟨_, rfl, rfl⟩

theorem keeps_write (tree : FileTree) (path : List Char)
    (content : List UInt8) :
    Keeps (finalName path = some ·) tree (tree.write path content).1 := by
  rcases tree.write_cases path content with ⟨_, _, refused⟩ | ⟨wrote, _⟩
  · rw [refused]
    exact keeps_makeParents tree path
  · exact (keeps_makeParents tree path).trans (keeps_writeFile wrote)

theorem unlink_eq_ok_iff :
    tree.unlink path = .ok next ↔
      ∃ directory name content,
        tree.follow path = .ok (.entry directory name false) ∧
        isRelative name = false ∧ utf8Length name ≤ nameLimit ∧
        tree.nodeAt (directory ++ [name]) = some (.file content) ∧
        next = { tree with nodes := tree.nodes.erase (directory ++ [name]) } := by
  unfold unlink
  rw [bind_eq_ok]
  constructor
  · rintro ⟨target, followed, removed⟩
    cases target with
    | root => cases removed
    | entry directory name slash =>
        dsimp only at removed
        split at removed
        · cases removed
        · rename_i proper
          split at removed
          · cases removed
          · rename_i short
            split at removed
            · rename_i content file
              cases slash with
              | true => cases removed
              | false =>
                  cases removed
                  exact ⟨directory, name, content, followed,
                    Bool.eq_false_iff.mpr proper, Nat.not_lt.mp short, file, rfl⟩
            · cases removed
            · cases removed
  · rintro ⟨directory, name, content, followed, proper, short, found, rfl⟩
    refine ⟨_, followed, ?_⟩
    simp [proper, Nat.not_lt.mpr short, found, pure, Except.pure]

/-- A removal that is refused, or that finds nothing, changes nothing. -/
theorem remove_cases (tree : FileTree) (path : List Char) :
    tree.unlink path = .ok (tree.remove path).1 ∨
      (∃ cause, tree.unlink path = .error cause) ∧ (tree.remove path).1 = tree := by
  unfold remove
  split
  · rename_i removed
    exact Or.inl removed
  · rename_i refused
    exact Or.inr ⟨⟨_, refused⟩, rfl⟩
  · rename_i refused
    exact Or.inr ⟨⟨_, refused⟩, rfl⟩

theorem keeps_remove (tree : FileTree) (path : List Char) :
    Keeps (finalName path = some ·) tree (tree.remove path).1 := by
  rcases tree.remove_cases path with removed | ⟨_, unchanged⟩
  · obtain ⟨directory, name, content, followed, _, _, file, erased⟩ :=
      unlink_eq_ok_iff.mp removed
    rw [erased]
    refine (Keeps.erase_file file).mono ?_
    rintro _ rfl
    exact (follow_eq_entry_iff.mp followed).2.1
  · rw [unchanged]
    exact .refl _ tree

/-! ## Texts under paths -/

/-- The last components of two paths are different. -/
def NamedApart (path other : String) : Prop :=
  finalName path.toList ≠ finalName other.toList

theorem NamedApart.readText {path other : String}
    (apart : NamedApart path other)
    (keeps : Keeps (finalName path.toList = some ·) tree next) {text : String}
    (found : tree.readText other.toList = .ok text) :
    next.readText other.toList = .ok text := by
  apply keeps.readText _ found
  intro name last same
  exact apart (same.trans last.symm)

/-- A file tree keeps texts, and paths whose last components are different
lead to different files. -/
theorem faithful : Storage.Faithful FileTree NamedApart where
  written := by
    intro tree path text answer
    rcases tree.write_cases path.toList (utf8Encode text.toList) with
      ⟨cause, refused, _⟩ | ⟨wrote, _⟩
    · cases refused.symm.trans answer
    · refine bind_eq_ok.mpr ⟨_, read_writeFile wrote, ?_⟩
      rw [utf8Decode?_encode]
      exact congrArg Except.ok String.ofList_toList
  refused := by
    intro tree path text cause answer other stored found
    rcases tree.write_cases path.toList (utf8Encode text.toList) with
      ⟨_, _, refused⟩ | ⟨_, accepted⟩
    · have keeps : Keeps (fun _ => False) tree
          (tree.write path.toList (utf8Encode text.toList)).1 :=
        refused ▸ keeps_makeParents tree path.toList
      exact keeps.readText (fun _ _ => id) found
    · cases accepted.symm.trans answer
  write_apart := fun apart tree text _ found =>
    apart.readText (keeps_write tree _ _) found
  remove_apart := fun apart tree _ found =>
    apart.readText (keeps_remove tree _) found

/-! ## The names of scratch files -/

theorem finalName_join {name : List Char} (telling : name ≠ [])
    (slashless : '/' ∉ name) (directory : List Char) :
    finalName (Path.join directory name) = some name := by
  rw [finalName, Path.filter_join directory slashless (· != [])
    (bne_iff_ne.mpr telling) rfl, List.getLast?_concat]

theorem finalName_pathFor (scratch : Scratch) (identity : String)
    (slashless : '/' ∉ scratch.extension.toList) :
    finalName (scratch.pathFor identity).toList =
      some (Scratch.fileName identity.toList scratch.extension.toList) := by
  have shaped := Scratch.shaped_fileName identity.toList scratch.extension.toList
  rw [Scratch.toList_pathFor]
  apply finalName_join
  · exact List.ne_nil_of_mem shaped.hyphen_mem
  · exact shaped.not_mem (by decide) (by decide) slashless

/-- Scratch files with different names are different files, whatever
directories they are put in. -/
theorem namedApart_pathFor {left right : Scratch} {identity other : String}
    (first : '/' ∉ left.extension.toList)
    (second : '/' ∉ right.extension.toList)
    (different :
      Scratch.fileName identity.toList left.extension.toList ≠
        Scratch.fileName other.toList right.extension.toList) :
    NamedApart (left.pathFor identity) (right.pathFor other) := by
  unfold NamedApart
  rw [finalName_pathFor left identity first, finalName_pathFor right other second]
  exact fun same => different (Option.some.inj same)

end FileTree

end ToolBridge
