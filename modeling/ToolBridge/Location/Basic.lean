/-!
# Locations in toolchain text

A location is a line and a column that the toolchain named in its output,
together with the place of that mention in the output.
-/

namespace ToolBridge

/-- The ways in which the toolchain writes a location. -/
inductive Grammar where
  /-- A source file, a line and a column: `dir/model.frg:3:5:`. -/
  | sourcePath
  /-- The two keys of a reader error: `line=3 column=5`. -/
  | keyValue
  /-- Any word, a line and a column: `module.rkt:3:5:`. -/
  | terse
  deriving DecidableEq, Repr

/-- A half-open range of UTF-8 bytes. -/
structure ByteSpan where
  start : Nat
  stop : Nat
  deriving DecidableEq, Repr

namespace ByteSpan

/-- The same range in a text with `offset` more bytes in front. -/
def shift (offset : Nat) (span : ByteSpan) : ByteSpan :=
  ⟨offset + span.start, offset + span.stop⟩

end ByteSpan

/-- A line and a column, both counted from one by the toolchain, and where
they were written. -/
structure Location where
  line : Nat
  column : Nat
  /-- The file name that a source path ends in. -/
  file : Option String
  grammar : Grammar
  span : ByteSpan
  deriving DecidableEq, Repr

namespace Location

/-- The same location in a text with `offset` more bytes in front. -/
def shift (offset : Nat) (location : Location) : Location :=
  { location with span := location.span.shift offset }

end Location

end ToolBridge
