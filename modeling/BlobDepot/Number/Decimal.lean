import BlobDepot.Number.Binary64
import BlobDepot.Number.Literal

set_option autoImplicit false

namespace BlobDepot.Number

structure Decimal where
  negative : Bool
  digits : Nat
  exponent : Int
  deriving Repr, DecidableEq

def digits? (chars : List Char) : Option Nat :=
  if chars.isEmpty then none
  else (chars.mapM Text.digitValue?).map Text.ofDigits

def readPower? : List Char -> Option Int
  | [] => some 0
  | mark :: rest =>
      if mark == 'e' || mark == 'E' then
        let (negative, digits) := splitSign rest
        (digits? digits).map (fun power => if negative then -(power : Int) else power)
      else none

def readDecimal? (text : List Char) : Option Decimal :=
  let (negative, body) := splitSign (Text.trimChars Text.isBlank text)
  let whole := body.takeWhile Text.isDigit
  let rest := body.dropWhile Text.isDigit
  let (fraction, rest) :=
    match rest with
    | '.' :: rest => (rest.takeWhile Text.isDigit, rest.dropWhile Text.isDigit)
    | _ => ([], rest)
  match digits? (whole ++ fraction), readPower? rest with
  | some digits, some power =>
      some { negative := negative, digits := digits, exponent := power - fraction.length }
  | _, _ => none

def Decimal.toBinary64 (decimal : Decimal) : Binary64 :=
  .ofDecimal decimal.negative decimal.digits decimal.exponent

def readReal? (text : String) : Option Binary64 :=
  let (negative, body) := splitSign (Text.trimChars Text.isBlank text.toList)
  match String.ofList (body.map Char.toLower) with
  | "inf" | "infinity" => some (.infinite negative)
  | "nan" => some .notANumber
  | _ => (readDecimal? text.toList).map Decimal.toBinary64

def digitInBase? (base : Nat) (c : Char) : Option Nat :=
  let value :=
    match Text.digitValue? c with
    | some value => some value
    | none =>
        let c := c.toLower
        if 'a' <= c && c <= 'z' then some (c.toNat - 87) else none
  value.filter (· < base)

def baseMark (base : Nat) : Char :=
  if base == 2 then 'b' else if base == 8 then 'o' else 'x'

def dropBaseMark (base : Nat) : List Char -> List Char
  | '0' :: mark :: rest =>
      if mark.toLower == baseMark base then rest else '0' :: mark :: rest
  | rest => rest

def readInBase (base : Nat) (text : String) : Except LiteralError Int :=
  let (negative, body) := splitSign (Text.trimChars Text.isBlank text.toList)
  let digits := dropBaseMark base body
  match digits.mapM (digitInBase? base) with
  | some (first :: rest) =>
      let number := (first :: rest).foldl (fun number value => base * number + value) 0
      .ok (if negative then -(number : Int) else number)
  | _ => .error (.malformed base text)

def ofSixties (places : List Int) : Int :=
  places.foldl (fun number place => 60 * number + place) 0

/-- The floating point number whose places in base sixty are given, the least significant first.
Every step is rounded; a place may be worth more than any floating point number. -/
def realOfSixties (worth : Nat) (sum : Binary64) : List Binary64 -> Option Binary64
  | [] => some sum
  | place :: rest =>
      match Binary64.ofInteger? worth with
      | none => none
      | some factor => realOfSixties (worth * 60) (sum.add (place.mul factor)) rest

end BlobDepot.Number
