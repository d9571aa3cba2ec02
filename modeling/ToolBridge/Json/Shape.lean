import ToolBridge.Json.Decode

/-!
# Shapes of JSON values

A shape says which values are accepted in a place.  A record is accepted as an
object, whose other fields are ignored, or as an array of its fields in their
order.
-/

namespace ToolBridge.Json

inductive Shape where
  | anything
  | bool
  | text
  /-- A natural number of 32 bits. -/
  | nat32
  /-- A signed integer of 32 bits. -/
  | int32
  /-- Any number. -/
  | number
  /-- A text that passes a test. -/
  | textThat (test : String → Bool)
  /-- One of a few words. -/
  | word (words : List String)
  /-- A value that may be null, and missing from an object. -/
  | nullable (shape : Shape)
  /-- A value that may be null, and missing from an object and from the end of
  an array. -/
  | omissible (shape : Shape)
  | list (item : Shape)
  /-- An array of exactly these items. -/
  | tuple (items : List Shape)
  /-- An object with any names that pass a test. -/
  | dictionary (test : String → Bool) (item : Shape)
  | record (fields : List (String × Shape))
  /-- A record that has to be an object, with a shape for all its other
  fields. -/
  | openRecord (fields : List (String × Shape)) (others : Shape)
  /-- A value of one of these shapes. -/
  | oneOf (shapes : List Shape)
  deriving Inhabited

namespace Shape

/-- May the value be missing from an object? -/
def isOptional : Shape → Bool
  | nullable _ => true
  | omissible _ => true
  | _ => false

/-- May the value be missing from the end of an array? -/
def isOmissible : Shape → Bool
  | omissible _ => true
  | _ => false

mutual

/-- Has the value this shape? -/
def fits : Shape → Json → Bool
  | anything, _ => true
  | bool, value => (bool? value).isSome
  | text, value => (string? value).isSome
  | nat32, value => (nat32? value).isSome
  | int32, value => (int32? value).isSome
  | number, value => value.isNumber
  | textThat test, value => (string? value).any test
  | word words, value =>
      (word? (fun word => if words.contains word then some () else none)
        value).isSome
  | nullable shape, value => value.isNull || fits shape value
  | omissible shape, value => value.isNull || fits shape value
  | list item, value =>
      match value with
      | .array items => items.all (fits item)
      | _ => false
  | tuple shapes, value =>
      match value with
      | .array items => fitsEach shapes items
      | _ => false
  | dictionary test item, value =>
      match value with
      | .object fields =>
          fields.all fun field => test field.1 && fits item field.2
      | _ => false
  | record fields, value =>
      match value with
      | .object entries => fitsFields fields entries
      | .array items => fitsItems fields items
      | _ => false
  | openRecord fields others, value =>
      match value with
      | .object entries =>
          fitsFields fields entries &&
            entries.all fun entry =>
              (fields.any fun field => field.1 == entry.1) ||
                fits others entry.2
      | _ => false
  | oneOf shapes, value => fitsAny shapes value

def fitsAny : List Shape → Json → Bool
  | [], _ => false
  | shape :: shapes, value => fits shape value || fitsAny shapes value

/-- Have the items these shapes, one each? -/
def fitsEach : List Shape → List Json → Bool
  | [], items => items.isEmpty
  | _ :: _, [] => false
  | shape :: shapes, item :: items => fits shape item && fitsEach shapes items

def fitsFields : List (String × Shape) → List (String × Json) → Bool
  | [], _ => true
  | (name, shape) :: fields, entries =>
      (match lookupField name entries with
        | some value => fits shape value
        | none => shape.isOptional) &&
        fitsFields fields entries

/-- Are these items the fields of a record? -/
def fitsItems : List (String × Shape) → List Json → Bool
  | [], items => items.isEmpty
  | (_, shape) :: fields, [] => shape.isOmissible && fitsItems fields []
  | (_, shape) :: fields, item :: items =>
      fits shape item && fitsItems fields items

end

/-- A field of a record, in whatever form the record is given. -/
def get? (shape : Shape) (name : String) (value : Json) : Option Json :=
  match shape, value with
  | record _, .object entries => lookupField name entries
  | record fields, .array items =>
      ((fields.map Prod.fst).zip items).lookup name
  | nullable shape, value => get? shape name value
  | omissible shape, value => get? shape name value
  | _, _ => none

end Shape

end ToolBridge.Json
