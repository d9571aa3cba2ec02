import ToolBridge.Failure
import ToolBridge.Scratch

/-!
# Storage

What the bridge asks of a place that keeps files.  A write or a removal that
fails may still have changed something, such as made a directory.
-/

namespace ToolBridge

/-- A place that keeps text under paths. -/
class Storage (σ : Type) where
  /-- Write a file, with the directories above it. -/
  write : σ → (path text : String) → σ × Except OsError Unit
  /-- Remove a file.  A missing file is no error. -/
  remove : σ → (path : String) → σ × Except OsError Unit
  /-- The text of a file. -/
  read : σ → (path : String) → Except OsError String

namespace Scratch

variable {σ : Type} [Storage σ]

def write (storage : σ) (path text : String) : σ × Except Failure Unit :=
  let (storage, answer) := Storage.write storage path text
  (storage, answer.mapError (Failure.scratch path))

def remove (storage : σ) (path : String) : σ × Except Failure Unit :=
  let (storage, answer) := Storage.remove storage path
  (storage, answer.mapError (Failure.scratch path))

end Scratch

end ToolBridge
