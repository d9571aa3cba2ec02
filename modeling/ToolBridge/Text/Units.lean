/-!
# Lengths in code units

Editors count UTF-16 units and toolchain spans count UTF-8 bytes, while
documents are lists of characters.
-/

namespace ToolBridge.Text

def utf16Size (c : Char) : Nat :=
  if c.toNat < 0x10000 then 1 else 2

def utf16Length : List Char → Nat
  | [] => 0
  | c :: cs => utf16Size c + utf16Length cs

def utf8Length : List Char → Nat
  | [] => 0
  | c :: cs => c.utf8Size + utf8Length cs

@[simp] theorem utf16Length_append (left right : List Char) :
    utf16Length (left ++ right) = utf16Length left + utf16Length right := by
  induction left with
  | nil => simp [utf16Length]
  | cons c left ih =>
      simp [utf16Length, ih]
      omega

theorem utf16Length_mono {part text : List Char} (inside : part <:+: text) :
    utf16Length part ≤ utf16Length text := by
  obtain ⟨before, after, rfl⟩ := inside
  rw [utf16Length_append, utf16Length_append]
  omega

@[simp] theorem utf8Length_append (left right : List Char) :
    utf8Length (left ++ right) = utf8Length left + utf8Length right := by
  induction left with
  | nil => simp [utf8Length]
  | cons c left ih =>
      simp [utf8Length, ih]
      omega

/-- The part of a text in front of a byte offset that falls on a character
boundary, and the rest. -/
def splitAtByte : Nat → List Char → List Char × List Char
  | _, [] => ([], [])
  | offset, c :: cs =>
      if offset < c.utf8Size then ([], c :: cs)
      else
        let (before, after) := splitAtByte (offset - c.utf8Size) cs
        (c :: before, after)

end ToolBridge.Text
