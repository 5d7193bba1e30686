import BlobDepot.Number.Binary64

set_option autoImplicit false

namespace BlobDepot

open Number (Binary64)

/-- A value whose kind is known only when it is read. -/
inductive Value where
  | null
  | bool (flag : Bool)
  | int (number : Int)
  | real (number : Binary64)
  | text (content : String)
  | bytes (content : List UInt8)
  | date (year month day : Nat)
  | instant (content : String)
  | list (items : List Value)
  | map (entries : List (Value × Value))
  | set (items : List Value)
  deriving Repr, Inhabited

namespace Value

def kindName : Value -> String
  | .null => "NoneType"
  | .bool _ => "bool"
  | .int _ => "int"
  | .real _ => "float"
  | .text _ => "str"
  | .bytes _ => "bytes"
  | .date .. => "datetime.date"
  | .instant _ => "datetime.datetime"
  | .list _ => "list"
  | .map _ => "dict"
  | .set _ => "set"

/-- Tell whether a value counts as true: the absent value, zeros and what is empty do not. -/
def isTruthy : Value -> Bool
  | .null => false
  | .bool flag => flag
  | .int number => number != 0
  | .real number => !number.isZero
  | .text content => content != ""
  | .bytes content => !content.isEmpty
  | .date .. => true
  | .instant _ => true
  | .list items => !items.isEmpty
  | .map entries => !entries.isEmpty
  | .set items => !items.isEmpty

def isNull : Value -> Bool
  | .null => true
  | _ => false

def lookup (name : String) : List (Value × Value) -> Option Value
  | [] => none
  | (.text key, value) :: rest => if key = name then some value else lookup name rest
  | _ :: rest => lookup name rest

def ofFields (fields : List (String × Value)) : Value :=
  .map (fields.map (fun field => (.text field.1, field.2)))

def ofText? : Option String -> Value
  | none => .null
  | some content => .text content

end Value

end BlobDepot
