import ToolBridge.Toml.Basic
import ToolBridge.Toml.Quoted
import ToolBridge.Toml.Scalar

/-!
# Reading TOML

A file is read line by line into statements.  Arrays and tables in braces may
be nested up to a fixed depth.
-/

namespace ToolBridge.Toml

open ToolBridge.Text

def isCommentChar (c : Char) : Bool :=
  isPlain c

/-- Skip blanks, line breaks and comments.  A comment with a forbidden
character is refused. -/
def skipFiller : (inComment : Bool) → List Char → Option (List Char)
  | _, [] => some []
  | _, '\n' :: rest => skipFiller false rest
  | _, '\r' :: '\n' :: rest => skipFiller false rest
  | true, c :: rest => if isCommentChar c then skipFiller true rest else none
  | false, c :: rest =>
      if isSpace c then skipFiller false rest
      else if c = '#' then skipFiller true rest
      else some (c :: rest)

def skipSpaces (text : List Char) : List Char :=
  text.dropWhile isSpace

/-- The rest of a line: blanks, perhaps a comment, and the line break, unless
the text ends. -/
def endLine (text : List Char) : Option (List Char) :=
  let text := skipSpaces text
  let behind :=
    match text with
    | '#' :: rest => rest.dropWhile isCommentChar
    | _ => text
  match behind with
  | [] => some []
  | '\n' :: rest => some rest
  | '\r' :: '\n' :: rest => some rest
  | _ => none

def isBareKeyChar (c : Char) : Bool :=
  isAsciiAlphanumeric c || c == '_' || c == '-'

def readKeyPart (text : List Char) : Option (String × List Char) :=
  match text with
  | [] => none
  | c :: rest =>
      let quoted :=
        if c = '"' then readBasic rest
        else if c = apostrophe then readLiteral rest
        else
          match text.takeWhile isBareKeyChar with
          | [] => none
          | first :: others => some (first :: others, text.dropWhile isBareKeyChar)
      quoted.map fun (name, rest) => (String.ofList name, rest)

/-- The parts of a key, divided by dots with blanks around them.  At most
`limit` parts are read. -/
def readKey : (limit : Nat) → List Char → Option (List String × List Char)
  | 0, _ => none
  | limit + 1, text =>
      match readKeyPart (skipSpaces text) with
      | some (name, rest) =>
          match skipSpaces rest with
          | '.' :: behind =>
              (readKey limit behind).map fun (names, rest) =>
                (name :: names, rest)
          | behind => some ([name], behind)
      | none => none

/-- The most parts of a key. -/
def keyLimit : Nat := 79

/-- The most arrays and tables inside each other. -/
def depthLimit : Nat := 79

/-- The path of a key and its last part. -/
def splitKey (names : List String) : Option (List String × String) :=
  names.getLast?.map fun name => (names.dropLast, name)

/-- The characters that end a value without quotes. -/
def endsToken (c : Char) : Bool :=
  isSpace c || c == '\n' || c == '\r' || c == ',' || c == ']' || c == '\x7d' ||
    c == '#'

/-- The value of a run of characters without quotes. -/
def scalar? (token : List Char) : Option Item :=
  if token = "true".toList then some (.boolean true)
  else if token = "false".toList then some (.boolean false)
  else
    match integer? token with
    | some value => some (.integer value)
    | none =>
        if isFloat token then some .float
        else if isMoment token then some .moment
        else none

/-- A value without quotes.  A date may go on, after one blank, with a
time. -/
def readScalar (text : List Char) : Option (Item × List Char) :=
  let token := text.takeWhile (!endsToken ·)
  let rest := text.dropWhile (!endsToken ·)
  match rest with
  | ' ' :: hour :: behind =>
      if isDate token && isDigit hour then
        let time := (hour :: behind).takeWhile (!endsToken ·)
        (scalar? (token ++ ' ' :: time)).map fun item =>
          (item, (hour :: behind).dropWhile (!endsToken ·))
      else (scalar? token).map fun item => (item, rest)
  | _ => (scalar? token).map fun item => (item, rest)

/-- A reader of values. -/
abbrev ItemReader := List Char → Option (Item × List Char)

/-- The items of an array, after its opening bracket or a comma, up to the
closing bracket. -/
def readItems (readItem : ItemReader) :
    (fuel : Nat) → List Char → Option (List Item × List Char)
  | 0, _ => none
  | fuel + 1, text =>
      match skipFiller false text with
      | some (']' :: rest) => some ([], rest)
      | some text =>
          match readItem text with
          | some (item, rest) =>
              match skipFiller false rest with
              | some (',' :: rest) =>
                  (readItems readItem fuel rest).map fun (items, rest) =>
                    (item :: items, rest)
              | some (']' :: rest) => some ([item], rest)
              | _ => none
          | none => none
      | none => none

/-- A key, the sign of equality and a value. -/
def readPair (readItem : ItemReader) (text : List Char) :
    Option ((List String × String × Item) × List Char) :=
  match readKey keyLimit text with
  | some (names, '=' :: rest) =>
      match splitKey names, readItem (skipSpaces rest) with
      | some (path, key), some (item, rest) => some ((path, key, item), rest)
      | _, _ => none
  | _ => none

/-- The pairs of a table in braces, up to the closing brace.  The entries are
those of the pairs before. -/
def readEntries (readItem : ItemReader) :
    (fuel : Nat) → Entries → List Char → Option (Entries × List Char)
  | 0, _, _ => none
  | fuel + 1, entries, text =>
      match readPair readItem text with
      | some ((path, key, item), rest) =>
          match insertPair path key item entries, skipSpaces rest with
          | some entries, ',' :: rest => readEntries readItem fuel entries rest
          | some entries, '\x7d' :: rest => some (entries, rest)
          | _, _ => none
      | none => none

/-- A value with at most `depth` arrays and tables inside each other. -/
def readItem : (depth : Nat) → ItemReader
  | depth, text =>
      match text with
      | [] => none
      | c :: rest =>
          if c = '"' ∨ c = apostrophe then
            (readString text).map fun (text, rest) =>
              (.string (String.ofList text), rest)
          else if c = '[' then
            match depth with
            | 0 => none
            | depth + 1 =>
                (readItems (readItem depth) text.length rest).map
                  fun (items, rest) => (.array items, rest)
          else if c = '\x7b' then
            match depth with
            | 0 => none
            | depth + 1 =>
                match skipSpaces rest with
                | '\x7d' :: rest => some (.table .inline [], rest)
                | _ =>
                    (readEntries (readItem depth) text.length [] rest).map
                      fun (entries, rest) => (.table .inline entries, rest)
          else readScalar text

/-- The header of a table, after its opening brackets, up to the closing
ones. -/
def readHeader (closing text : List Char) :
    Option ((List String × String) × List Char) :=
  match readKey keyLimit text with
  | some (names, rest) =>
      match splitKey names, after? closing rest with
      | some name, some rest => some (name, rest)
      | _, _ => none
  | none => none

/-- What a line says, if it says anything. -/
def readStatement (text : List Char) : Option (Option Statement × List Char) :=
  match skipSpaces text with
  | [] => some (none, [])
  | '\n' :: rest => some (none, '\n' :: rest)
  | '\r' :: rest => some (none, '\r' :: rest)
  | '#' :: rest => some (none, '#' :: rest)
  | '[' :: '[' :: rest =>
      (readHeader [']', ']'] rest).map fun ((path, name), rest) =>
        (some (.item path name), rest)
  | '[' :: rest =>
      (readHeader [']'] rest).map fun ((path, name), rest) =>
        (some (.header path name), rest)
  | text =>
      (readPair (readItem depthLimit) text).map fun ((path, key, item), rest) =>
        (some (.pair path key item), rest)

def readStatements : (fuel : Nat) → List Char → Option (List Statement)
  | _, [] => some []
  | 0, _ :: _ => none
  | fuel + 1, c :: cs =>
      match readStatement (c :: cs) with
      | some (statement, rest) =>
          match endLine rest with
          | some rest =>
              (readStatements fuel rest).map fun statements =>
                statement.toList ++ statements
          | none => none
      | none => none

/-- The mark that may stand in front of a text to show its encoding. -/
def byteOrderMark : Char := Char.ofNat 0xFEFF

/-- The top table of a file. -/
def read (text : List Char) : Option Entries :=
  let text := if text.head? = some byteOrderMark then text.drop 1 else text
  match readStatements text.length text with
  | some statements => assemble statements
  | none => none

end ToolBridge.Toml
