import BlobDepot.Text.Blank
import BlobDepot.Text.Digit
import BlobDepot.Text.Quoted

set_option autoImplicit false

namespace BlobDepot.Number

/-- The most digits that are converted between text and number. -/
def digitLimit : Nat :=
  4300

inductive LiteralError where
  | malformed (base : Nat) (text : String)
  | tooLong (digits : Nat)
  | tooLarge
  deriving Repr, DecidableEq

def LiteralError.message : LiteralError -> String
  | .malformed base text =>
      "invalid literal for int() with base " ++ toString base ++ ": " ++ Text.quote text
  | .tooLong digits =>
      "Exceeds the limit (" ++ toString digitLimit
        ++ " digits) for integer string conversion: value has " ++ toString digits
        ++ " digits; use sys.set_int_max_str_digits() to increase the limit"
  | .tooLarge =>
      "Exceeds the limit (" ++ toString digitLimit
        ++ " digits) for integer string conversion; use sys.set_int_max_str_digits() to increase the limit"

def tooLargeFor (word : String) : String :=
  "Python int too large to convert to C " ++ word

def ofDigitChars (digits : List Char) : Except LiteralError Nat :=
  if digits.length > digitLimit then
    .error (.tooLong digits.length)
  else
    .ok (Text.ofDigits (digits.filterMap Text.digitValue?))

def ungroup : List Char -> Option (List Char)
  | [] => none
  | [c] => if Text.isDigit c then some [c] else none
  | c :: '_' :: rest =>
      if Text.isDigit c then (ungroup rest).map (c :: ·) else none
  | c :: rest =>
      if Text.isDigit c then (ungroup rest).map (c :: ·) else none

def splitSign : List Char -> Bool × List Char
  | '-' :: rest => (true, rest)
  | '+' :: rest => (false, rest)
  | rest => (false, rest)

def readInteger (text : String) : Except LiteralError Int :=
  let (negative, body) := splitSign (Text.trimChars Text.isBlank text.toList)
  match ungroup body with
  | none => .error (.malformed 10 text)
  | some digits => do
      let number <- ofDigitChars digits
      return if negative then -(number : Int) else number

def writeInteger (number : Int) : Except LiteralError String :=
  if number.natAbs < Nat.pow 10 digitLimit then .ok (toString number) else .error .tooLarge

end BlobDepot.Number
