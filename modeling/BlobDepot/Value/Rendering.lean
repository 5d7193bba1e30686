import BlobDepot.Text.Quoted
import BlobDepot.Value

set_option autoImplicit false

namespace BlobDepot

namespace Value

def padded (width number : Nat) : String :=
  let digits := toString number
  String.ofList (List.replicate (width - digits.length) '0') ++ digits

mutual

def quoted : Value -> String
  | .null => "None"
  | .bool flag => if flag then "True" else "False"
  | .int number => toString number
  | .real number => number.text
  | .text content => Text.quote content
  | .bytes content => Text.quoteBytes content
  | .date year month day =>
      "datetime.date(" ++ toString year ++ ", " ++ toString month ++ ", " ++ toString day ++ ")"
  | .instant content => content
  | .list items => "[" ++ ", ".intercalate (quotedItems items) ++ "]"
  | .map entries => "\x7b" ++ ", ".intercalate (quotedEntries entries) ++ "\x7d"
  | .set items =>
      if items.isEmpty then "set()"
      else "\x7b" ++ ", ".intercalate (quotedItems items) ++ "\x7d"

def quotedItems : List Value -> List String
  | [] => []
  | item :: rest => quoted item :: quotedItems rest

def quotedEntries : List (Value × Value) -> List String
  | [] => []
  | (key, value) :: rest => (quoted key ++ ": " ++ quoted value) :: quotedEntries rest

end

def plain : Value -> String
  | .text content => content
  | .date year month day => padded 4 year ++ "-" ++ padded 2 month ++ "-" ++ padded 2 day
  | value => quoted value

def argumentText : List Value -> String
  | [] => ""
  | [value] => plain value
  | values => "(" ++ ", ".intercalate (quotedItems values) ++ ")"

end Value

end BlobDepot
