import BlobDepot.Number.Binary64

set_option autoImplicit false

namespace BlobDepot.Number

inductive DigitStyle where
  | fixed
  | scientific
  | general
  deriving Repr, DecidableEq

namespace DigitStyle

def withPoint (places : Nat) (keepPoint : Bool) (digits : Nat) : String :=
  let text := (toString digits).toList
  let filled := List.replicate (places + 1 - text.length) '0' ++ text
  let whole := filled.take (filled.length - places)
  let decimals := filled.drop (filled.length - places)
  String.ofList whole ++ (if places = 0 && !keepPoint then "" else ".")
    ++ String.ofList decimals

/-- More digits than a floating point number has behind its leading one or behind the point; all
that follow them are zeros. -/
def mostPlaces : Nat :=
  1100

def zerosBeyond (places : Nat) : String :=
  String.ofList (List.replicate (places - mostPlaces) '0')

def fixedText (mantissa : Nat) (exponent : Int) (places : Nat) (keepPoint : Bool) : String :=
  let (numerator, denominator) := Binary64.fraction mantissa exponent
  let exact := min places mostPlaces
  withPoint exact keepPoint (roundedQuotient (numerator * Nat.pow 10 exact) denominator)
    ++ zerosBeyond places

def leadingDigits (mantissa : Nat) (exponent : Int) (count : Nat) : Nat × Int :=
  if mantissa = 0 then (0, 0)
  else
    let (numerator, denominator) := Binary64.fraction mantissa exponent
    let place := Binary64.leadingPlace numerator denominator
    let power := place - (count : Int)
    let digits :=
      roundedQuotient (numerator * scaleUp 10 (-power)) (denominator * scaleUp 10 power)
    if digits = Nat.pow 10 count then (Nat.pow 10 (count - 1), place) else (digits, place - 1)

def scientificText (mantissa : Nat) (exponent : Int) (places : Nat) (keepPoint : Bool) : String :=
  let exact := min places mostPlaces
  let (digits, power) := leadingDigits mantissa exponent (exact + 1)
  withPoint exact keepPoint digits ++ zerosBeyond places ++ "e" ++ Binary64.exponentText power

def stripZeros (text : String) : String :=
  let chars := text.toList
  let mantissa := chars.takeWhile (· != 'e')
  let rest := chars.dropWhile (· != 'e')
  if mantissa.contains '.' then
    let kept := (mantissa.reverse.dropWhile (· == '0')).reverse
    let bare := if kept.getLast? = some '.' then kept.dropLast else kept
    String.ofList (bare ++ rest)
  else text

/-- A magnitude with so many significant digits, positional if its leading digit stands at most
four places behind the point and is not followed by more digits than are shown. -/
def generalText (mantissa : Nat) (exponent : Int) (count : Nat) (keepZeros : Bool) : String :=
  let count := max count 1
  let (_, power) := leadingDigits mantissa exponent (min count mostPlaces)
  let text :=
    if power < (count : Int) && -4 <= power then
      fixedText mantissa exponent ((count : Int) - 1 - power).toNat keepZeros
    else
      scientificText mantissa exponent (count - 1) keepZeros
  if keepZeros then text else stripZeros text

def magnitudeText
    (style : DigitStyle)
    (precision : Nat)
    (alternate : Bool) : Binary64 -> String
  | .notANumber => "nan"
  | .infinite _ => "inf"
  | .finite _ mantissa exponent =>
      match style with
      | .fixed => fixedText mantissa exponent precision alternate
      | .scientific => scientificText mantissa exponent precision alternate
      | .general => generalText mantissa exponent precision alternate

end DigitStyle

end BlobDepot.Number
