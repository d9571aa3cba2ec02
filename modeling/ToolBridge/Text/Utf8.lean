/-!
# UTF-8

Encoding of characters and decoding of bytes.  A sequence of bytes that is
not the encoding of a text is refused by the strict decoder and shown with
replacement characters by the lenient one.
-/

namespace ToolBridge.Text

def utf8Encode (text : List Char) : List UInt8 :=
  text.flatMap String.utf8EncodeChar

/-- A character of which some bytes were read: how many are missing, the bits
so far, and the range of the next byte. -/
structure Utf8Pending where
  missing : Nat
  bits : Nat
  low : Nat
  high : Nat
  deriving DecidableEq, Repr

/-- What a first byte stands for. -/
inductive Utf8Lead where
  | whole (c : Char)
  | pending (start : Utf8Pending)
  | invalid
  deriving Repr

/-- The meaning of a first byte.  The range of the second byte keeps out long
forms, surrogates and numbers that are no code points. -/
def utf8Lead (byte : Nat) : Utf8Lead :=
  if byte < 0x80 then .whole (Char.ofNat byte)
  else if byte < 0xC2 then .invalid
  else if byte < 0xE0 then .pending ⟨1, byte - 0xC0, 0x80, 0xBF⟩
  else if byte = 0xE0 then .pending ⟨2, 0, 0xA0, 0xBF⟩
  else if byte = 0xED then .pending ⟨2, 0xD, 0x80, 0x9F⟩
  else if byte < 0xF0 then .pending ⟨2, byte - 0xE0, 0x80, 0xBF⟩
  else if byte = 0xF0 then .pending ⟨3, 0, 0x90, 0xBF⟩
  else if byte < 0xF4 then .pending ⟨3, byte - 0xF0, 0x80, 0xBF⟩
  else if byte = 0xF4 then .pending ⟨3, 4, 0x80, 0x8F⟩
  else .invalid

namespace Utf8Pending

/-- May the byte follow? -/
def admits (pending : Utf8Pending) (byte : Nat) : Bool :=
  pending.low ≤ byte && byte ≤ pending.high

/-- The bits with those of one more byte. -/
def extend (pending : Utf8Pending) (byte : Nat) : Nat :=
  pending.bits * 64 + (byte - 0x80)

/-- The character that one more byte completes, or what is still missing. -/
def next (pending : Utf8Pending) (byte : Nat) : Char ⊕ Utf8Pending :=
  if pending.missing ≤ 1 then .inl (Char.ofNat (pending.extend byte))
  else .inr ⟨pending.missing - 1, pending.extend byte, 0x80, 0xBF⟩

end Utf8Pending

/-- The characters of a sequence of bytes that completes a pending
character. -/
def utf8DecodeFrom : Option Utf8Pending → List UInt8 → Option (List Char)
  | none, [] => some []
  | some _, [] => none
  | none, byte :: bytes =>
      match utf8Lead byte.toNat with
      | .whole c => (utf8DecodeFrom none bytes).map (c :: ·)
      | .pending start => utf8DecodeFrom (some start) bytes
      | .invalid => none
  | some pending, byte :: bytes =>
      if pending.admits byte.toNat then
        match pending.next byte.toNat with
        | .inl c => (utf8DecodeFrom none bytes).map (c :: ·)
        | .inr pending => utf8DecodeFrom (some pending) bytes
      else none

def utf8Decode? (bytes : List UInt8) : Option (List Char) :=
  utf8DecodeFrom none bytes

/-- Stands for bytes that encode nothing. -/
def replacementChar : Char := Char.ofNat 0xFFFD

/-- What a first byte shows, given what the bytes after it show. -/
def utf8LeadLenient (byte : Nat) (rest : Option Utf8Pending → List Char) :
    List Char :=
  match utf8Lead byte with
  | .whole c => c :: rest none
  | .pending start => rest (some start)
  | .invalid => replacementChar :: rest none

/-- The characters of a sequence of bytes, with a replacement character for
every longest start of a character that cannot be completed and for every
other byte that starts none. -/
def utf8DecodeLenientFrom : Option Utf8Pending → List UInt8 → List Char
  | none, [] => []
  | some _, [] => [replacementChar]
  | none, byte :: bytes =>
      utf8LeadLenient byte.toNat fun state => utf8DecodeLenientFrom state bytes
  | some pending, byte :: bytes =>
      if pending.admits byte.toNat then
        match pending.next byte.toNat with
        | .inl c => c :: utf8DecodeLenientFrom none bytes
        | .inr pending => utf8DecodeLenientFrom (some pending) bytes
      else
        replacementChar :: utf8LeadLenient byte.toNat fun state =>
          utf8DecodeLenientFrom state bytes

/-- A readable form of any sequence of bytes. -/
def utf8DecodeLenient (bytes : List UInt8) : List Char :=
  utf8DecodeLenientFrom none bytes

end ToolBridge.Text
