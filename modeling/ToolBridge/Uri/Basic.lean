import ToolBridge.Path
import ToolBridge.Text.Literal
import ToolBridge.Uri.Host
import ToolBridge.Uri.Percent

/-!
# URIs

Editors name documents by URIs.  A URI is read leniently, as web browsers
do, and kept in one normal form, so that two spellings of a document's name
are the same name: the scheme and a domain are in lower case, the usual port
of a scheme and the host `localhost` of a file are left out, the segments `.`
and `..` are resolved, and characters that may not stand for themselves are
escaped.
-/

namespace ToolBridge

open ToolBridge.Text

/-- A URI in normal form. -/
structure Uri where
  scheme : List Char
  /-- Host with user and port, as written after two slashes. -/
  authority : Option (List Char)
  /-- The host alone, if there is one. -/
  host : Option (List Char)
  path : List Char
  query : Option (List Char)
  fragment : Option (List Char)
  deriving DecidableEq, Repr

namespace Uri

/-- The parts of a URI with the marks between them. -/
def text (uri : Uri) : String :=
  let authority := uri.authority.elim [] fun part => '/' :: '/' :: part
  let dot :=
    if uri.authority.isNone && startsWith ['/', '/'] uri.path then ['/', '.']
    else []
  let query := uri.query.elim [] ('?' :: ·)
  let fragment := uri.fragment.elim [] ('#' :: ·)
  String.ofList
    (uri.scheme ++ ':' :: authority ++ dot ++ uri.path ++ query ++ fragment)

/-- How much the rules of the web apply to a scheme. -/
inductive SchemeKind where
  | file
  | web
  | other
  deriving DecidableEq, Repr

def schemeKind (scheme : List Char) : SchemeKind :=
  if scheme = "file".toList then .file
  else if ["http", "https", "ws", "wss", "ftp"].any fun web =>
      scheme = web.toList then .web
  else .other

/-- The port that goes without saying. -/
def usualPort? (scheme : List Char) : Option Nat :=
  ([("http", 80), ("ws", 80), ("https", 443), ("wss", 443),
    ("ftp", 21)].find? fun entry => scheme = entry.1.toList).map Prod.snd

def isAsciiLetter (c : Char) : Bool :=
  ('a' ≤ c && c ≤ 'z') || ('A' ≤ c && c ≤ 'Z')

def isSchemeChar (c : Char) : Bool :=
  isAsciiAlphanumeric c || c == '+' || c == '-' || c == '.'

/-- The scheme at the head of a text, in lower case, and what follows its
colon. -/
def readScheme (text : List Char) : Option (List Char × List Char) :=
  match text with
  | [] => none
  | first :: rest =>
      if isAsciiLetter first then
        match rest.dropWhile isSchemeChar with
        | ':' :: behind =>
            some (lower (first :: rest.takeWhile isSchemeChar), behind)
        | _ => none
      else none

/-- The characters that no part of a URI shows and that may be written
anywhere. -/
def isInvisible (c : Char) : Bool :=
  c == '\t' || c == '\n' || c == '\r'

/-- The characters that are dropped at both ends. -/
def isMargin (c : Char) : Bool :=
  c.toNat ≤ 0x20

def trimmed (text : List Char) : List Char :=
  dropEndWhile isMargin (text.dropWhile isMargin)

/-- A text without invisible characters. -/
def visible (text : List Char) : List Char :=
  text.filter fun c => !isInvisible c

/-- A slash, or a backslash where the rules of the web apply. -/
def isSlash (kind : SchemeKind) (c : Char) : Bool :=
  c == '/' || (c == '\\' && kind != .other)

/-- The start of the query or the fragment. -/
def endsPath (c : Char) : Bool :=
  c == '?' || c == '#'

/-- A drive letter with a colon or a bar. -/
def isDrive (segment : List Char) : Bool :=
  match segment with
  | [letter, mark] => isAsciiLetter letter && (mark == ':' || mark == '|')
  | _ => false

/-- A drive, perhaps with a backslash behind it. -/
def startsWithDrive (segment : List Char) : Bool :=
  isDrive (segment.take 2) && (segment.drop 2).head?.all (· == '\\')

/-- The segment of the current directory, however written. -/
def isHere (segment : List Char) : Bool :=
  [".", "%2e"].any fun form => lower segment = form.toList

/-- The segment of the directory above, however written. -/
def isAbove (segment : List Char) : Bool :=
  ["..", "%2e%2e", "%2e.", ".%2e"].any fun form => lower segment = form.toList

/-- Take back the last segment, unless it is a drive. -/
def shorten (path : List (List Char)) : List (List Char) :=
  match path.getLast? with
  | some last => if startsWithDrive last then path else path.dropLast
  | none => path

/-- The segments of a path as far as they are resolved. -/
structure Route where
  segments : List (List Char) := []
  /-- Was the first segment found to be a drive? -/
  onDrive : Bool := false
  deriving DecidableEq, Repr

/-- A drive with a colon that an invisible character divides from the rest of
its segment.  Then the rest is a segment of its own. -/
def dividedDrive? (segment : List Char) : Option (List Char × List Char) :=
  match segment.dropWhile isInvisible with
  | letter :: behind =>
      match behind.dropWhile isInvisible with
      | ':' :: next :: behind =>
          let rest := visible behind
          if isAsciiLetter letter && isInvisible next && !rest.isEmpty then
            some ([letter, ':'], rest)
          else none
      | _ => none
  | [] => none

/-- Append a segment that is not divided.  A drive at the start of a file's
path is written with a colon. -/
def Route.append (route : Route) (kind : SchemeKind) (segment : List Char)
    (last : Bool) : Route :=
  let closing : List (List Char) := if last then [[]] else []
  if isAbove segment then
    { route with segments := shorten route.segments ++ closing }
  else if isHere segment then
    { route with segments := route.segments ++ closing }
  else if kind = .file && route.segments.isEmpty && isDrive segment then
    { segments := [segment.take 1 ++ [':']], onDrive := true }
  else { route with segments := route.segments ++ [segment] }

/-- Append the segments of a path, which may hold invisible characters. -/
def Route.appendAll (kind : SchemeKind) :
    (route : Route) → (segments : List (List Char)) → Route
  | route, [] => route
  | route, segment :: rest =>
      let divided? :=
        if kind = .file && route.segments.isEmpty then dividedDrive? segment
        else none
      let route :=
        match divided? with
        | some (drive, below) =>
            { route with segments := [drive, escape escapedInPath below] }
        | none =>
            route.append kind (escape escapedInPath (visible segment))
              rest.isEmpty
      Route.appendAll kind route rest

def segmentsText (segments : List (List Char)) : List Char :=
  segments.flatMap ('/' :: ·)

/-- The segments of a path after its first slash. -/
def routeOf (kind : SchemeKind) (rest : List Char) : Route :=
  Route.appendAll kind {} (splitBy (isSlash kind) rest)

/-- The path after its first slash, in normal form. -/
def normalPath (kind : SchemeKind) (rest : List Char) : List Char :=
  segmentsText (routeOf kind rest).segments

/-- A path that follows an authority. -/
def pathAfterAuthority (kind : SchemeKind) (text : List Char) : List Char :=
  match kind, text with
  | .other, [] => []
  | _, [] => normalPath kind []
  | _, c :: rest =>
      if isSlash kind c then normalPath kind rest else normalPath kind (c :: rest)

/-- The query and the fragment of what follows a path. -/
def readTail (kind : SchemeKind) (text : List Char) :
    Option (List Char) × Option (List Char) :=
  let behindHash := fun (rest : List Char) =>
    match rest with
    | '#' :: fragment => some (escape escapedInFragment fragment)
    | _ => none
  match text with
  | '?' :: rest =>
      (some (escape (escapedInQuery (kind != .other))
          (rest.takeWhile (· != '#'))),
        behindHash (rest.dropWhile (· != '#')))
  | _ => (none, behindHash text)

/-- The port of an authority: nothing when it is the usual one. -/
def readPort (scheme digits : List Char) : Option (List Char) :=
  if digits.isEmpty then some []
  else
    match digitsValue? 0 digits with
    | some port =>
        if 65535 < port then none
        else if usualPort? scheme = some port then some []
        else some (':' :: (numeral port).toList)
    | none => none

/-- A user name and a password. -/
def readUser (text : List Char) : List Char :=
  let name := escape escapedInUser (text.takeWhile (· != ':'))
  let password :=
    escape escapedInUser ((text.dropWhile (· != ':')).drop 1)
  let shown := if password.isEmpty then name else name ++ ':' :: password
  if shown.isEmpty then [] else shown ++ ['@']

/-- Where the host ends: at the first colon outside of brackets. -/
def splitHost : (inBrackets : Bool) → List Char → List Char × List Char
  | _, [] => ([], [])
  | inBrackets, c :: cs =>
      if c = ':' && !inBrackets then ([], c :: cs)
      else
        let inBrackets := c = '[' || (inBrackets && c != ']')
        let (host, rest) := splitHost inBrackets cs
        (c :: host, rest)

structure Authority where
  text : List Char
  /-- The host alone, if there is one. -/
  host : Option (List Char)
  /-- What stands behind the port and belongs to the path. -/
  leftover : List Char
  deriving DecidableEq, Repr

/-- Read an authority.  A backslash ends the port. -/
def readAuthority (scheme : List Char) (kind : SchemeKind) (text : List Char) :
    Option Authority :=
  let seen := text.contains '@'
  let user := if seen then (text.reverse.dropWhile (· != '@')).drop 1 else []
  let user := readUser user.reverse
  let hostAndPort :=
    if seen then (text.reverse.takeWhile (· != '@')).reverse else text
  let (host, rest) := splitHost false hostAndPort
  if host.isEmpty && (kind = .web || !rest.isEmpty || !user.isEmpty) then none
  else
    let host? := if kind = .web then readDomain host else readOpaqueHost host
    let port := (rest.drop 1).takeWhile (· != '\\')
    match host?, readPort scheme port with
    | some host, some port =>
        some
          { text := user ++ host ++ port
            host := if host.isEmpty then none else some host
            leftover := rest.dropWhile (· != '\\') }
    | _, _ => none

/-- What follows two slashes, in a URI that is not a file's.  A sign of a user
alone is an authority only at the end. -/
def readAfterSlashes (scheme : List Char) (kind : SchemeKind)
    (text : List Char) : Option Uri :=
  let endsHost := fun c => isSlash kind c || endsPath c
  let front := text.takeWhile fun c => !endsHost c
  let rest := text.dropWhile fun c => !endsHost c
  if front = ['@'] && !rest.isEmpty then none
  else
    match readAuthority scheme kind front with
    | some authority =>
        let path := authority.leftover ++ rest.takeWhile (!endsPath ·)
        let (query, fragment) := readTail kind (rest.dropWhile (!endsPath ·))
        some
          { scheme
            authority := some authority.text
            host := authority.host
            path := pathAfterAuthority kind path
            query
            fragment }
    | none => none

/-- A file's URI.  Its path has no empty segments at the start, and with a
drive there is no host. -/
def fileUri (host : List Char) (route : Route) (tail : List Char) : Uri :=
  let host := if route.onDrive then [] else host
  let (query, fragment) := readTail .file (visible tail)
  { scheme := "file".toList
    authority := some host
    host := if host.isEmpty then none else some host
    path := '/' :: (segmentsText route.segments).dropWhile (· == '/')
    query
    fragment }

def afterSlash? (text : List Char) : Option (List Char) :=
  match text.dropWhile isInvisible with
  | c :: rest => if isSlash .file c then some rest else none
  | [] => none

/-- What follows the two slashes of a file.  Without a host, the slash of the
path is the start of a segment of its own. -/
def readFileHost (path tail : List Char) : Option Uri :=
  let host := visible (path.takeWhile (!isSlash .file ·))
  if isDrive host then some (fileUri [] (routeOf .file path) tail)
  else
    let below := path.dropWhile (!isSlash .file ·)
    let hostless := some (fileUri [] (routeOf .file below) tail)
    if host.isEmpty then hostless
    else
      match readDomain host with
      | some host =>
          if host = "localhost".toList then hostless
          else some (fileUri host (routeOf .file (below.drop 1)) tail)
      | none => none

/-- What follows the scheme of a file.  Invisible characters are still
there. -/
def readFile (text : List Char) : Option Uri :=
  let path := text.takeWhile (!endsPath ·)
  let tail := text.dropWhile (!endsPath ·)
  match afterSlash? path with
  | none => some (fileUri [] (routeOf .file path) tail)
  | some rest =>
      match afterSlash? rest with
      | some rest => readFileHost rest tail
      | none => some (fileUri [] (routeOf .file rest) tail)

/-- What follows the scheme of a URI to which the rules of the web do not
apply. -/
def readOther (scheme text : List Char) : Option Uri :=
  match after? ['/', '/'] text with
  | some rest => readAfterSlashes scheme .other rest
  | none =>
      let path := text.takeWhile (!endsPath ·)
      let (query, fragment) := readTail .other (text.dropWhile (!endsPath ·))
      some
        { scheme
          authority := none
          host := none
          path :=
            match path with
            | '/' :: rest => normalPath .other rest
            | _ => escape isControlOrWide path
          query
          fragment }

/-- The URI that a text stands for.  The scheme ends at the first colon. -/
def ofText? (text : String) : Option Uri :=
  let text := trimmed text.toList
  match readScheme (visible text) with
  | some (scheme, rest) =>
      match schemeKind scheme with
      | .file => readFile ((text.dropWhile (· != ':')).drop 1)
      | .web =>
          readAfterSlashes scheme .web (rest.dropWhile (isSlash .web))
      | .other => readOther scheme rest
  | none => none

/-- A drive at the end of a path stands for its top directory. -/
def closeDrive (bytes : List UInt8) : List UInt8 :=
  match bytes.reverse with
  | mark :: letter :: _ :: _ =>
      if isDrive [Char.ofNat letter.toNat, Char.ofNat mark.toNat] then
        bytes ++ utf8Encode ['/']
      else bytes
  | _ => bytes

/-- The path of the file that a URI names, with its escapes resolved. -/
def filePath? (uri : Uri) : Option String :=
  match uri.path with
  | '/' :: _ =>
      if uri.host.isNone || uri.host = some "localhost".toList then
        some (String.ofList (utf8DecodeLenient (closeDrive (unescape uri.path))))
      else none
  | _ => none

/-- The URI of a file, for an absolute path. -/
def ofFilePath? (path : String) : Option Uri :=
  if Path.isAbsolute path.toList then
    let components := Path.components path.toList
    some
      { scheme := "file".toList
        authority := some []
        host := none
        path :=
          if components.isEmpty then ['/']
          else segmentsText (components.map (escape escapedInSegment))
        query := none
        fragment := none }
  else none

end Uri

end ToolBridge
