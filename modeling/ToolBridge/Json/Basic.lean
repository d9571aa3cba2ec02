import ToolBridge.Number.Double

/-!
# JSON values

A number is an integer or a double.  A double is no integer even if its value
is whole.
-/

namespace ToolBridge

inductive Json where
  | null
  | bool (value : Bool)
  | int (value : Int)
  | double (value : Double)
  | string (text : String)
  | array (items : List Json)
  | object (fields : List (String × Json))
  deriving Repr, Inhabited

namespace Json

def nat (n : Nat) : Json := int n

/-- The value of a field that is not there counts as null in some places. -/
def isNull : Json → Bool
  | null => true
  | _ => false

def isNumber : Json → Bool
  | int _ => true
  | double _ => true
  | _ => false

def lookupField (name : String) : List (String × Json) → Option Json
  | [] => none
  | field :: rest =>
      if field.1 = name then some field.2 else lookupField name rest

def field? (name : String) : Json → Option Json
  | object fields => lookupField name fields
  | _ => none

/-- Null in place of nothing. -/
def ofOption {α : Type} (encode : α → Json) : Option α → Json
  | some value => encode value
  | none => null

end Json

end ToolBridge
