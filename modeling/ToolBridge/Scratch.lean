import ToolBridge.Digest.Sha256
import ToolBridge.Path
import ToolBridge.Text.CharClass
import ToolBridge.Text.Hex
import ToolBridge.Text.Literal
import ToolBridge.Text.Trim
import ToolBridge.Text.Utf8

/-!
# Scratch files

The toolchain reads files, so every snapshot that is checked is first written
to a scratch file.  Its name is made from the identity of the document: a
readable stem, a part of the hash of the whole identity, and the source
extension.  Documents with the same file name have different scratch files.
-/

namespace ToolBridge

open ToolBridge.Text

/-- Where scratch files are put and which extension they get. -/
structure Scratch where
  directory : String
  extension : String
  deriving DecidableEq, Repr

namespace Scratch

/-- The end of the readable part of a name. -/
def isTailMark (c : Char) : Bool :=
  c == '?' || c == '#'

def isStemChar (c : Char) : Bool :=
  isAsciiAlphanumeric c || c == '-' || c == '_'

/-- A character of a stem, or an underscore in its place. -/
def stemChar (c : Char) : Char :=
  if isStemChar c then c else '_'

/-- The last component of an identity that may be a path or a URI. -/
def identityName (identity : List Char) : List Char :=
  beforeFirst isTailMark (afterLast isSeparator identity)

/-- A name without its extension, if it has the given one. -/
def withoutExtension (extension name : List Char) : List Char :=
  match before? extension name with
  | some rest => (before? ['.'] rest).getD name
  | none => name

/-- The readable part of a scratch name. -/
def stem (identity extension : List Char) : List Char :=
  match (withoutExtension extension (identityName identity)).map stemChar with
  | [] => "untitled".toList
  | c :: cs => c :: cs

def hexByte (byte : UInt8) : List Char :=
  [lowerHexDigit (byte.toNat / 16), lowerHexDigit (byte.toNat % 16)]

/-- The first eight bytes of the hash of an identity, in base sixteen. -/
def fingerprint (identity : List Char) : List Char :=
  ((Sha256.digest (utf8Encode identity)).take 8).flatMap hexByte

def fileName (identity extension : List Char) : List Char :=
  stem identity extension ++ '-' :: fingerprint identity ++ '.' :: extension

def pathFor (scratch : Scratch) (identity : String) : String :=
  String.ofList
    (Path.join scratch.directory.toList
      (fileName identity.toList scratch.extension.toList))

end Scratch

end ToolBridge
