import BlobDepot.Number.Literal
import BlobDepot.Value.Rendering

set_option autoImplicit false

namespace BlobDepot

inductive ShapeError where
  | missingKey (key : String)
  | notSubscriptable (kind : String)
  | textIndex
  | listIndex
  | sliceOfMap
  | noMember (kind member : String)
  | notIterable (kind : String)
  | notNumeric (kind : String)
  | notFinite (infinite : Bool)
  | unhashable (kind : String)
  | literal (error : Number.LiteralError)
  deriving Repr

/-- The wording of a shape error; a missing key is worded by the key alone. -/
def ShapeError.message : ShapeError -> String
  | .missingKey key => Text.quote key
  | .notSubscriptable kind => "'" ++ kind ++ "' object is not subscriptable"
  | .textIndex => "string indices must be integers, not 'str'"
  | .listIndex => "list indices must be integers or slices, not str"
  | .sliceOfMap => "unhashable type: 'slice'"
  | .noMember kind member =>
      "'" ++ kind ++ "' object has no attribute '" ++ member ++ "'"
  | .notIterable kind => "'" ++ kind ++ "' object is not iterable"
  | .notNumeric kind =>
      "int() argument must be a string, a bytes-like object or a real number, not '" ++ kind ++ "'"
  | .notFinite infinite =>
      if infinite then "cannot convert float infinity to integer"
      else "cannot convert float NaN to integer"
  | .unhashable kind => "unhashable type: '" ++ kind ++ "'"
  | .literal error => error.message

namespace Value

/-- The whole number that a value stands for: a number without its fraction, a flag as one or
zero, or a numeral. -/
def toInteger : Value -> Except ShapeError Int
  | .bool flag => .ok (if flag then 1 else 0)
  | .int number => .ok number
  | .real (.infinite _) => .error (.notFinite true)
  | .real number =>
      match number.truncate? with
      | some whole => .ok whole
      | none => .error (.notFinite false)
  | .text content => (Number.readInteger content).mapError .literal
  | value => .error (.notNumeric value.kindName)

def entry (value : Value) (name : String) : Except ShapeError Value :=
  match value with
  | .map entries =>
      match lookup name entries with
      | some found => .ok found
      | none => .error (.missingKey name)
  | .text _ => .error .textIndex
  | .list _ => .error .listIndex
  | other => .error (.notSubscriptable other.kindName)

def findEntry (value : Value) (name : String) : Except ShapeError (Option Value) :=
  match value with
  | .map entries => .ok (lookup name entries)
  | other => .error (.noMember other.kindName "get")

/-- The items of a value that has several: those of a list, the keys of a map, the characters of
a text. -/
def items : Value -> Except ShapeError (List Value)
  | .list items => .ok items
  | .set items => .ok items
  | .map entries => .ok (entries.map Prod.fst)
  | .text content => .ok (content.toList.map (fun c => .text (String.singleton c)))
  | .bytes content => .ok (content.map (fun byte => .int byte.toNat))
  | other => .error (.notIterable other.kindName)

def takeItems (count : Nat) : Value -> Except ShapeError (List Value)
  | .list items => .ok (items.take count)
  | .text content => .ok ((content.toList.take count).map (fun c => .text (String.singleton c)))
  | .bytes content => .ok ((content.take count).map (fun byte => .int byte.toNat))
  | .map _ => .error .sliceOfMap
  | other => .error (.notSubscriptable other.kindName)

def size : Value -> Nat
  | .list items => items.length
  | .set items => items.length
  | .map entries => entries.length
  | .text content => content.length
  | .bytes content => content.length
  | _ => 0

def dropName (count : Nat) : Value -> Except ShapeError String
  | .text content => .ok (String.ofList (content.toList.drop count))
  | .list _ => .error (.unhashable "list")
  | .map _ => .error .sliceOfMap
  | other => .error (.notSubscriptable other.kindName)

end Value

end BlobDepot
