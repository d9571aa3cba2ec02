import ToolBridge.Text.Hex
import ToolBridge.Text.Utf8

/-!
# Percent encoding

A byte that may not stand for itself in some part of a URI is written as a
percent sign and two digits of base sixteen.
-/

namespace ToolBridge.Uri

open ToolBridge.Text

def escapeByte (byte : UInt8) : List Char :=
  ['%', upperHexDigit (byte.toNat / 16), upperHexDigit (byte.toNat % 16)]

/-- The characters that are escaped everywhere. -/
def isControlOrWide (c : Char) : Bool :=
  c.toNat < 0x20 || 0x7F ≤ c.toNat

def escapedInFragment (c : Char) : Bool :=
  isControlOrWide c || " \"<>`".toList.contains c

def escapedInPath (c : Char) : Bool :=
  escapedInFragment c || "#?\x7b\x7d".toList.contains c

/-- The characters that are escaped in a path segment made from a file
name. -/
def escapedInSegment (c : Char) : Bool :=
  escapedInPath c || "/%\\".toList.contains c

/-- The characters that are escaped in a user name and a password. -/
def escapedInUser (c : Char) : Bool :=
  escapedInPath c || "/:;=@[\\]^|".toList.contains c

def escapedInQuery (special : Bool) (c : Char) : Bool :=
  isControlOrWide c || " \"#<>".toList.contains c || (special && c.toNat == 0x27)

def escape (escaped : Char → Bool) (text : List Char) : List Char :=
  text.flatMap fun c =>
    if escaped c then (String.utf8EncodeChar c).flatMap escapeByte else [c]

/-- The bytes of a text in which escapes stand for bytes.  A percent sign
without two digits stands for itself. -/
def unescape : List Char → List UInt8
  | [] => []
  | '%' :: high :: low :: rest =>
      match hexValue? high, hexValue? low with
      | some high, some low => UInt8.ofNat (high * 16 + low) :: unescape rest
      | _, _ => String.utf8EncodeChar '%' ++ unescape (high :: low :: rest)
  | c :: rest => String.utf8EncodeChar c ++ unescape rest

end ToolBridge.Uri
