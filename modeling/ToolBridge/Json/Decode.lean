import ToolBridge.Json.Basic

/-!
# Reading JSON values

A record is read from an object, whose unknown fields are ignored, or from
an array of all its fields in order.  Integers must be written as integers
and fit their type.
-/

namespace ToolBridge.Json

def string? : Json → Option String
  | string text => some text
  | _ => none

def bool? : Json → Option Bool
  | bool value => some value
  | _ => none

def intWithin? (low high : Int) : Json → Option Int
  | int value => if low ≤ value ∧ value ≤ high then some value else none
  | _ => none

def int32? (value : Json) : Option Int :=
  intWithin? (-Nat.pow 2 31) (Nat.pow 2 31 - 1) value

def nat32? (value : Json) : Option Nat :=
  (intWithin? 0 (Nat.pow 2 32 - 1) value).map Int.toNat

def nat64? (value : Json) : Option Nat :=
  (intWithin? 0 (Nat.pow 2 64 - 1) value).map Int.toNat

def listOf? {α : Type} (read : Json → Option α) : Json → Option (List α)
  | array items => items.mapM read
  | _ => none

/-- Null for nothing, or a value. -/
def nullable? {α : Type} (read : Json → Option α) : Json → Option (Option α)
  | null => some none
  | value => (read value).map some

def required {α : Type} (read : Json → Option α) (field : Option Json) :
    Option α :=
  field.bind read

def optional {α : Type} (read : Json → Option α) (field : Option Json) :
    Option (Option α) :=
  match field with
  | some value => nullable? read value
  | none => some none

/-- One of a few words, as a string or as the only field of an object that
holds nothing. -/
def word? {α : Type} (meaning : String → Option α) : Json → Option α
  | string word => meaning word
  | object [(word, null)] => meaning word
  | _ => none

/-- The fields of a record in their order.  The last `omissible` of them may
be left out of an array. -/
def record? (names : List String) (omissible : Nat) :
    Json → Option (List (Option Json))
  | object fields => some (names.map fun name => lookupField name fields)
  | array items =>
      if items.length ≤ names.length ∧
          names.length ≤ items.length + omissible then
        some (items.map some ++
          List.replicate (names.length - items.length) none)
      else none
  | _ => none

end ToolBridge.Json
