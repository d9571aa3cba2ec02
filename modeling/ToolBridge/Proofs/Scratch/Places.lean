import ToolBridge.Proofs.Storage.FileTree

/-!
# The places of scratch files

An identity may climb, hold separators or be empty.  The name that is made from it
is nevertheless one component of a path, and so its scratch file lies in the scratch
directory itself, and two identities share a file only if they share a hash.
-/

namespace ToolBridge

open ToolBridge.Text

theorem FileTree.follow_ne_root {tree : FileTree} {path : List Char} {name : EntryName}
    (final : finalName path = some name) : tree.follow path ≠ .ok .root := by
  unfold finalName at final
  intro followed
  unfold follow at followed
  split at followed
  · cases followed
  · split at followed
    · cases followed
    · split at followed
      · cases followed
      · simp only [final, bind_eq_ok] at followed
        obtain ⟨_, _, same⟩ := followed
        cases same

namespace Scratch

/-- One component of a path: no separator of either kind and no zero, and a name of
its own. -/
structure Component (name : List Char) : Prop where
  slashless : '/' ∉ name
  backslashless : '\\' ∉ name
  zeroless : Char.ofNat 0 ∉ name
  telling : name ≠ []
  elsewhere : name ≠ Path.here ∧ name ≠ Path.above

/-- A path to an entry of a directory itself: it has the components of the directory
and the name, and a file tree that follows it comes to that name in the place where
the directory is. -/
structure Inside (directory name path : List Char) : Prop where
  start : Path.isAbsolute path = Path.isAbsolute directory
  components : Path.components path = Path.components directory ++ [name]
  last : Path.fileName? path = some name
  followed : ∀ (tree : FileTree) (target : FileTree.Target),
    tree.follow path = .ok target ↔
      ∃ place, target = .entry place name false ∧ Char.ofNat 0 ∉ path ∧
        utf8Length path < FileTree.pathLimit ∧
        ((Path.rawComponents directory).filter (· != [])).foldlM tree.enter
          (if Path.isAbsolute directory then [] else tree.workDirectory) = .ok place

theorem Shaped.component {identity extension name stem digits : List Char}
    (shaped : Shaped identity extension name stem digits)
    (slashless : '/' ∉ extension) (backslashless : '\\' ∉ extension)
    (zeroless : Char.ofNat 0 ∉ extension) : Component name where
  slashless := shaped.not_mem (by decide) (by decide) slashless
  backslashless := shaped.not_mem (by decide) (by decide) backslashless
  zeroless := shaped.not_mem (by decide) (by decide) zeroless
  telling := List.ne_nil_of_mem shaped.hyphen_mem
  elsewhere := by
    -- The hyphen before the digits tells the name from a row of dots.
    constructor
    · intro same
      exact absurd (same ▸ shaped.hyphen_mem) (by decide)
    · intro same
      exact absurd (same ▸ shaped.hyphen_mem) (by decide)

namespace Component

variable {name : List Char} (component : Component name) (directory : List Char)
include component

theorem entries_join :
    (Path.rawComponents (Path.join directory name)).filter (· != []) =
      (Path.rawComponents directory).filter (· != []) ++ [name] :=
  Path.filter_join directory component.slashless (· != [])
    (bne_iff_ne.mpr component.telling) rfl

/-- The name is not relative and no slash follows it, so a tree that follows the
path finds it where it finds the directory. -/
theorem follow_join_eq_ok_iff (tree : FileTree) (target : FileTree.Target) :
    tree.follow (Path.join directory name) = .ok target ↔
      ∃ place, target = .entry place name false ∧
        Char.ofNat 0 ∉ Path.join directory name ∧
        utf8Length (Path.join directory name) < FileTree.pathLimit ∧
        ((Path.rawComponents directory).filter (· != [])).foldlM tree.enter
          (if Path.isAbsolute directory then [] else tree.workDirectory) =
            .ok place := by
  have final := FileTree.finalName_join component.telling component.slashless directory
  have slashless := Path.getLast?_join directory component.slashless component.telling
  have nonempty : Path.join directory name ≠ [] := by
    intro empty
    rw [empty, show FileTree.finalName [] = none by decide] at final
    cases final
  cases target with
  | root =>
      refine iff_of_false (FileTree.follow_ne_root final) ?_
      rintro ⟨_, same, _⟩
      cases same
  | entry place entry slash =>
      rw [FileTree.follow_eq_entry_iff, final, component.entries_join,
        List.dropLast_concat, Path.isAbsolute_join directory component.slashless,
        beq_eq_false_iff_ne.mpr slashless]
      constructor
      · rintro ⟨⟨zeroless, _, short⟩, same, entered, rfl⟩
        cases same
        exact ⟨place, rfl, by simpa using zeroless, short, entered⟩
      · rintro ⟨_, same, zeroless, short, entered⟩
        cases same
        exact ⟨⟨by simpa using zeroless, by simpa using nonempty, short⟩, rfl,
          entered, rfl⟩

theorem inside : Inside directory name (Path.join directory name) where
  start := Path.isAbsolute_join directory component.slashless
  components :=
    Path.components_join directory component.slashless component.telling
      component.elsewhere.1
  last := by
    simp [Path.fileName?, Path.components_join directory component.slashless
      component.telling component.elsewhere.1, component.elsewhere]
  followed := component.follow_join_eq_ok_iff directory

end Component

/-- What is promised of the scratch file of an identity, whatever the identity
holds. -/
structure Safe (scratch : Scratch) (identity : String) : Prop where
  shaped : ∃ stem digits, Shaped identity.toList scratch.extension.toList
    (fileName identity.toList scratch.extension.toList) stem digits
  component : Component (fileName identity.toList scratch.extension.toList)
  inside : Inside scratch.directory.toList
    (fileName identity.toList scratch.extension.toList)
    (scratch.pathFor identity).toList
  names : ∀ other : String,
    fileName identity.toList scratch.extension.toList =
        fileName other.toList scratch.extension.toList →
      hashBytes identity.toList = hashBytes other.toList
  paths : ∀ other : String, scratch.pathFor identity = scratch.pathFor other →
    hashBytes identity.toList = hashBytes other.toList

/-- Whatever an identity holds, its scratch file is an entry of the scratch directory
itself, and only an identity with the same part of the hash can share it. -/
theorem safe_pathFor (scratch : Scratch) (identity : String)
    (slashless : '/' ∉ scratch.extension.toList)
    (backslashless : '\\' ∉ scratch.extension.toList)
    (zeroless : Char.ofNat 0 ∉ scratch.extension.toList) : Safe scratch identity := by
  have shaped := shaped_fileName identity.toList scratch.extension.toList
  have component := shaped.component slashless backslashless zeroless
  exact {
    shaped := ⟨_, _, shaped⟩
    component := component
    inside := by
      rw [toList_pathFor]
      exact component.inside scratch.directory.toList
    names := fun other => hashBytes_eq_of_fileName_eq
    paths := by
      intro other same
      have joined := congrArg String.toList same
      rw [toList_pathFor, toList_pathFor] at joined
      exact hashBytes_eq_of_fileName_eq (Path.join_injective joined) }

/-- An identity that climbs, with marks and separators of both kinds. -/
theorem safe_climbing :
    ('/' ∉ "frg".toList ∧ '\\' ∉ "frg".toList ∧ Char.ofNat 0 ∉ "frg".toList) ∧
      Safe ⟨"/tmp/frg-scratch/", "frg"⟩ "file:///../..\\..?version=2#/etc" :=
  ⟨⟨by decide, by decide, by decide⟩,
    safe_pathFor ⟨"/tmp/frg-scratch/", "frg"⟩ _ (by decide) (by decide) (by decide)⟩

end Scratch

end ToolBridge
