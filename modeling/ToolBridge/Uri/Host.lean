import ToolBridge.Domain.Label
import ToolBridge.Text.Lines
import ToolBridge.Text.Number
import ToolBridge.Uri.Percent

/-!
# Hosts

The host of a web address is a domain in ASCII, an IPv4 address in any of its
notations or an IPv6 address in brackets.  The host of any other URI
is kept as it is.
-/

namespace ToolBridge.Uri

open ToolBridge.Text

/-- A character in lower case, if it is an ASCII letter. -/
def lowerAscii (c : Char) : Char :=
  if 'A' ≤ c && c ≤ 'Z' then Char.ofNat (c.toNat + 32) else c

def lower (text : List Char) : List Char :=
  text.map lowerAscii

def forbiddenInHost (c : Char) : Bool :=
  "\x00\t\n\r #/:<>?@[\\]^|".toList.contains c

def forbiddenInDomain (c : Char) : Bool :=
  forbiddenInHost c || c == '%' || c.toNat < 0x20 || c.toNat == 0x7F

/-- The value of the digits in a base, where the first digits are already
read. -/
def digitsIn? (base value : Nat) : List Char → Option Nat
  | [] => some value
  | c :: cs =>
      match hexValue? c with
      | some digit =>
          if digit < base then digitsIn? base (value * base + digit) cs else none
      | none => none

/-- A part of an IPv4 address, in base eight, ten or sixteen. -/
def ipv4Part? (part : List Char) : Option Nat :=
  match part with
  | [] => none
  | '0' :: 'x' :: digits => digitsIn? 16 0 digits
  | '0' :: 'X' :: digits => digitsIn? 16 0 digits
  | '0' :: c :: digits => digitsIn? 8 0 (c :: digits)
  | _ => digitsIn? 10 0 part

/-- The parts of a domain between dots, without an empty last one. -/
def domainParts (domain : List Char) : List (List Char) :=
  let parts := splitBy (· == '.') domain
  if 1 < parts.length && parts.getLast? == some [] then parts.dropLast
  else parts

/-- A domain whose last part is a number can only be an IPv4 address. -/
def endsInNumber (domain : List Char) : Bool :=
  match (domainParts domain).getLast? with
  | some last =>
      (!last.isEmpty && last.all fun c => '0' ≤ c && c ≤ '9') ||
        (match last with
        | '0' :: 'x' :: digits => (digitsIn? 16 0 digits).isSome
        | '0' :: 'X' :: digits => (digitsIn? 16 0 digits).isSome
        | _ => false)
  | none => false

/-- The number that the parts of an IPv4 address stand for.  All parts but
the last are bytes, and the last fills the remaining ones. -/
def ipv4Value? : (remaining : Nat) → List Nat → Option Nat
  | _, [] => none
  | remaining, [last] => if last < Nat.pow 256 remaining then some last else none
  | remaining, part :: rest =>
      if part < 256 then
        (ipv4Value? (remaining - 1) rest).map fun value =>
          part * Nat.pow 256 (remaining - 1) + value
      else none

def ipv4Text (value : Nat) : List Char :=
  ".".toList.intercalate
    ([value / Nat.pow 256 3 % 256, value / Nat.pow 256 2 % 256,
      value / 256 % 256, value % 256].map fun byte => (numeral byte).toList)

def readIpv4 (domain : List Char) : Option (List Char) :=
  let parts := domainParts domain
  if 4 < parts.length then none
  else
    match parts.mapM ipv4Part? with
    | some values => (ipv4Value? 4 values).map ipv4Text
    | none => none

/-- The value of one to four digits of base sixteen. -/
def ipv6Group? (group : List Char) : Option Nat :=
  if group.isEmpty || 4 < group.length then none else digitsIn? 16 0 group

/-- The groups of one side of an IPv6 address.  The last one may be an IPv4
address in plain notation, which stands for two groups. -/
def ipv6Side? (lastSide : Bool) (side : List Char) : Option (List Nat) :=
  if side.isEmpty then some []
  else
    let groups := splitBy (· == ':') side
    let tail := groups.getLast?.getD []
    if lastSide && tail.contains '.' then
      let bytes := splitBy (· == '.') tail
      let plain := fun (byte : List Char) =>
        if byte.isEmpty || 3 < byte.length ||
            (1 < byte.length && byte.head? == some '0') then none
        else (digitsIn? 10 0 byte).bind fun value =>
          if value < 256 then some value else none
      match groups.dropLast.mapM ipv6Group?, bytes.mapM plain with
      | some groups, some [a, b, c, d] =>
          some (groups ++ [a * 256 + b, c * 256 + d])
      | _, _ => none
    else groups.mapM ipv6Group?

/-- The places where two colons stand next to each other, as the text in
front and the text behind. -/
def doubleColons : List Char → List (List Char × List Char)
  | [] => []
  | c :: rest =>
      let later := (doubleColons rest).map fun cut => (c :: cut.1, cut.2)
      match c, rest with
      | ':', ':' :: behind => ([], behind) :: later
      | _, _ => later

def ipv6Groups? (text : List Char) : Option (List Nat) :=
  match doubleColons text with
  | [] =>
      match ipv6Side? true text with
      | some groups => if groups.length = 8 then some groups else none
      | none => none
  | [(left, right)] =>
      match ipv6Side? false left, ipv6Side? true right with
      | some left, some right =>
          if left.length + right.length < 8 then
            some (left ++ List.replicate (8 - left.length - right.length) 0 ++
              right)
          else none
      | _, _ => none
  | _ => none

/-- Digits of base sixteen, in lower case and without leading zeros. -/
def hexNumeral (n : Nat) : List Char :=
  Nat.toDigits 16 n

/-- The length of the run of zeros at the head. -/
def zeroRun (groups : List Nat) : Nat :=
  (groups.takeWhile (· == 0)).length

/-- The longest run of zeros in the groups from an index on, the first one of
that length. -/
def longestZeroRun : (index : Nat) → List Nat → Nat × Nat
  | index, [] => (index, 0)
  | index, group :: rest =>
      let here := zeroRun (group :: rest)
      let later := longestZeroRun (index + 1) rest
      if later.2 ≤ here then (index, here) else later

/-- An IPv6 address in which the longest run of at least two zero groups is
left out. -/
def ipv6Text (groups : List Nat) : List Char :=
  let run := longestZeroRun 0 groups
  let join := fun (part : List Nat) =>
    ":".toList.intercalate (part.map hexNumeral)
  if run.2 < 2 then join groups
  else
    join (groups.take run.1) ++ "::".toList ++ join (groups.drop (run.1 + run.2))

/-- An address in brackets. -/
def readBracketed (text : List Char) : Option (List Char) :=
  match text with
  | '[' :: rest =>
      match rest.getLast? with
      | some ']' =>
          (ipv6Groups? rest.dropLast).map fun groups =>
            '[' :: ipv6Text groups ++ [']']
      | _ => none
  | _ => none

/-- The host of a web address, where an escape stands for a byte. -/
def readDomain (text : List Char) : Option (List Char) :=
  if text.head? == some '[' then readBracketed text
  else
    match Domain.ascii? (utf8DecodeLenient (unescape text)) with
    | some domain =>
        if domain.isEmpty || domain.any forbiddenInDomain then none
        else if endsInNumber domain then readIpv4 domain
        else some domain
    | none => none

/-- The host of any other URI. -/
def readOpaqueHost (text : List Char) : Option (List Char) :=
  if text.head? == some '[' then readBracketed text
  else if text.any forbiddenInHost then none
  else some (escape isControlOrWide text)

end ToolBridge.Uri
