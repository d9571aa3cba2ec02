import ToolBridge.Proofs.Storage.FileTree

/-!
# A file tree as a table of files

A path leads to a place, and at a place there may be a file.  Writing changes
the file at one place and removing takes one away; the files at all other
places stay, whatever directories are made.  Where a path leads depends on the
directories alone, and no directory is ever removed.
-/

namespace ToolBridge

def Node.content? : Node → Option (List UInt8)
  | .file content => some content
  | .directory => none

namespace FileTree

open ToolBridge.Text

variable {tree next : FileTree} {path : List Char} {place : List EntryName}
  {names : EntryName → Prop} {content : List UInt8} {cause : OsError}

def fileAt (tree : FileTree) (place : List EntryName) : Option (List UInt8) :=
  (tree.nodeAt place).bind Node.content?

/-- The place of the file that a path names. -/
def place? (tree : FileTree) (path : List Char) : Option (List EntryName) :=
  match tree.follow path with
  | .ok (.entry directory name false) =>
      if isRelative name || nameLimit < utf8Length name then none
      else some (directory ++ [name])
  | _ => none

theorem fileAt_eq_some_iff :
    tree.fileAt place = some content ↔
      tree.nodeAt place = some (.file content) := by
  unfold fileAt
  cases tree.nodeAt place with
  | none => simp
  | some node =>
      cases node with
      | file stored => simp [Node.content?]
      | directory => simp [Node.content?]

theorem fileAt_put (tree : FileTree) (directory : List EntryName)
    (name : EntryName) (node : Node) (place : List EntryName) :
    (tree.put (directory ++ [name]) node).fileAt place =
      if directory ++ [name] = place then node.content?
      else tree.fileAt place := by
  rw [fileAt, nodeAt_put]
  split
  · rfl
  · rfl

theorem fileAt_erase (tree : FileTree) (directory : List EntryName)
    (name : EntryName) (place : List EntryName) :
    fileAt { tree with nodes := tree.nodes.erase (directory ++ [name]) } place =
      if directory ++ [name] = place then none else tree.fileAt place := by
  rw [fileAt, nodeAt_erase]
  split
  · rfl
  · rfl

theorem place?_eq_some_iff :
    tree.place? path = some place ↔
      ∃ directory name, tree.follow path = .ok (.entry directory name false) ∧
        isRelative name = false ∧ utf8Length name ≤ nameLimit ∧
        directory ++ [name] = place := by
  unfold place?
  constructor
  · intro found
    split at found
    · rename_i directory name followed
      split at found
      · cases found
      · rename_i usable
        cases found
        rw [Bool.or_eq_true, not_or, Bool.not_eq_true, decide_eq_true_iff] at usable
        exact ⟨directory, name, followed, usable.1, Nat.not_lt.mp usable.2, rfl⟩
    · cases found
  · rintro ⟨directory, name, followed, proper, short, rfl⟩
    simp [followed, proper, Nat.not_lt.mpr short]

theorem Keeps.place? (keeps : Keeps names tree next)
    (found : tree.place? path = some place) : next.place? path = some place := by
  obtain ⟨directory, name, followed, usable⟩ := place?_eq_some_iff.mp found
  exact place?_eq_some_iff.mpr ⟨directory, name, keeps.follow followed, usable⟩

theorem read_eq_ok_iff_fileAt :
    tree.read path = .ok content ↔
      ∃ place, tree.place? path = some place ∧
        tree.fileAt place = some content := by
  simp only [read_eq_ok_iff, place?_eq_some_iff, fileAt_eq_some_iff]
  constructor
  · rintro ⟨directory, name, followed, proper, short, file⟩
    exact ⟨_, ⟨directory, name, followed, proper, short, rfl⟩, file⟩
  · rintro ⟨_, ⟨directory, name, followed, proper, short, rfl⟩, file⟩
    exact ⟨directory, name, followed, proper, short, file⟩

/-! ## What a write does to the files -/

theorem fileAt_makeParents (tree : FileTree) (path : List Char)
    (place : List EntryName) :
    (tree.makeParents path).1.fileAt place = tree.fileAt place := by
  apply makeParents_invariant
    (motive := fun next => next.fileAt place = tree.fileAt place)
  · intro middle directory name empty same
    rw [← same, fileAt_put]
    split
    · rename_i here
      rw [fileAt, ← here, empty]
      rfl
    · rfl
  · rfl

/-- A write that is refused may make directories, but no file changes. -/
theorem fileAt_write_of_error
    (refused : (tree.write path content).2 = .error cause)
    (place : List EntryName) :
    (tree.write path content).1.fileAt place = tree.fileAt place := by
  rcases tree.write_cases path content with ⟨_, _, made⟩ | ⟨_, accepted⟩
  · rw [made, fileAt_makeParents]
  · cases refused.symm.trans accepted

/-- A write that is accepted changes the file that its path then names. -/
theorem fileAt_write_of_ok (accepted : (tree.write path content).2 = .ok ()) :
    ∃ place, (tree.write path content).1.place? path = some place ∧
      ∀ other, (tree.write path content).1.fileAt other =
        if place = other then some content else tree.fileAt other := by
  rcases tree.write_cases path content with ⟨_, refused, _⟩ | ⟨wrote, _⟩
  · cases refused.symm.trans accepted
  · obtain ⟨directory, name, followed, proper, short, free, written⟩ :=
      writeFile_eq_ok wrote
    refine ⟨directory ++ [name], ?_, ?_⟩
    · rw [written]
      apply (Keeps.put_file free content).place?
      exact place?_eq_some_iff.mpr ⟨directory, name, followed, proper, short, rfl⟩
    · intro other
      rw [written, fileAt_put, fileAt_makeParents]
      rfl

/-! ## What a removal does to the files -/

theorem place?_of_unlink (removed : tree.unlink path = .ok next) :
    ∃ directory name, tree.place? path = some (directory ++ [name]) ∧
      next = { tree with nodes := tree.nodes.erase (directory ++ [name]) } := by
  obtain ⟨directory, name, content, followed, proper, short, file, erased⟩ :=
    unlink_eq_ok_iff.mp removed
  exact ⟨directory, name,
    place?_eq_some_iff.mpr ⟨directory, name, followed, proper, short, rfl⟩, erased⟩

theorem fileAt_remove (tree : FileTree) (path : List Char)
    (place : List EntryName) :
    (tree.remove path).1.fileAt place =
      if tree.place? path = some place then none else tree.fileAt place := by
  rcases tree.remove_cases path with removed | ⟨⟨cause, refused⟩, unchanged⟩
  · obtain ⟨directory, name, named, erased⟩ := place?_of_unlink removed
    rw [erased, named, fileAt_erase]
    simp only [Option.some.injEq]
  · rw [unchanged]
    split
    · rename_i named
      cases found : tree.fileAt place with
      | none => rfl
      | some content =>
          obtain ⟨directory, name, followed, proper, short, rfl⟩ :=
            place?_eq_some_iff.mp named
          have file := fileAt_eq_some_iff.mp found
          have removed := unlink_eq_ok_iff.mpr
            ⟨directory, name, content, followed, proper, short, file, rfl⟩
          cases removed.symm.trans refused
    · rfl

/-- No file is left at a path after a removal, even one that fails: it fails only
where there is no file. -/
theorem isFile_remove (tree : FileTree) (path : List Char) :
    (tree.remove path).1.isFile path = false := by
  cases found : (tree.remove path).1.read path with
  | error cause =>
      rw [isFile, found]
      rfl
  | ok content =>
      obtain ⟨place, named, stored⟩ := read_eq_ok_iff_fileAt.mp found
      have same : tree.place? path = some place := by
        rcases tree.remove_cases path with removed | ⟨_, unchanged⟩
        · obtain ⟨directory, name, before, _⟩ := place?_of_unlink removed
          have kept := (tree.keeps_remove path).place? before
          exact before.trans (kept.symm.trans named)
        · rw [← named, unchanged]
      rw [fileAt_remove, if_pos same] at stored
      cases stored

end FileTree

end ToolBridge
