/-!
# Binary floating point

Numbers of 53 significant bits.  A finite one is kept exactly, as a whole number times a power
of two, so every question about it is a question about whole numbers.  A decimal numeral is
rounded to the nearest such number, ties to the even neighbour, and a number is written with the
fewest digits that read back.
-/

set_option autoImplicit false

namespace BlobDepot.Number

/-- A floating point number; a finite one is `mantissa * 2 ^ exponent`. -/
inductive Binary64 where
  | finite (negative : Bool) (mantissa : Nat) (exponent : Int)
  | infinite (negative : Bool)
  | notANumber
  deriving Repr, DecidableEq, Inhabited

def roundedQuotient (numerator denominator : Nat) : Nat :=
  let quotient := numerator / denominator
  let rest := 2 * (numerator % denominator)
  if rest < denominator || (rest == denominator && quotient % 2 == 0) then quotient
  else quotient + 1

def scaleUp (base : Nat) (exponent : Int) : Nat :=
  Nat.pow base exponent.toNat

namespace Binary64

def ofFraction (negative : Bool) (numerator denominator : Nat) : Binary64 :=
  if numerator == 0 then
    .finite negative 0 0
  else
    let guess : Int := (numerator.log2 : Int) - (denominator.log2 : Int) - 52
    let exact := numerator * scaleUp 2 (-guess) < Nat.pow 2 52 * denominator * scaleUp 2 guess
    let exponent := max (if exact then guess - 1 else guess) (-1074)
    let mantissa :=
      roundedQuotient (numerator * scaleUp 2 (-exponent)) (denominator * scaleUp 2 exponent)
    if (mantissa.log2 : Int) + exponent > 1023 then .infinite negative
    else .finite negative mantissa exponent

def ofDecimal (negative : Bool) (digits : Nat) (exponent : Int) : Binary64 :=
  let magnitude : Int := ((toString digits).length : Int) + exponent
  if digits == 0 || magnitude < -330 then .finite negative 0 0
  else if magnitude > 320 then .infinite negative
  else ofFraction negative (digits * scaleUp 10 exponent) (scaleUp 10 (-exponent))

def ofInteger? (number : Int) : Option Binary64 :=
  match ofFraction (number < 0) number.natAbs 1 with
  | .infinite _ => none
  | rounded => some rounded

def negate : Binary64 -> Binary64
  | .finite negative mantissa exponent => .finite (!negative) mantissa exponent
  | .infinite negative => .infinite (!negative)
  | .notANumber => .notANumber

def mul : Binary64 -> Binary64 -> Binary64
  | .notANumber, _ | _, .notANumber => .notANumber
  | .finite negative m e, .finite other n f =>
      ofFraction (negative != other) (m * n * scaleUp 2 (e + f)) (scaleUp 2 (-(e + f)))
  | .infinite negative, .infinite other => .infinite (negative != other)
  | .infinite negative, .finite other n _ =>
      if n == 0 then .notANumber else .infinite (negative != other)
  | .finite negative m _, .infinite other =>
      if m == 0 then .notANumber else .infinite (negative != other)

/-- The rounded sum of two floating point numbers.  A zero is negative only if both terms are. -/
def add : Binary64 -> Binary64 -> Binary64
  | .notANumber, _ | _, .notANumber => .notANumber
  | .finite negative m e, .finite other n f =>
      let unit := min e f
      let left : Int := m * scaleUp 2 (e - unit)
      let right : Int := n * scaleUp 2 (f - unit)
      let sum := (if negative then -left else left) + (if other then -right else right)
      let below := if sum == 0 then negative && other else decide (sum < 0)
      ofFraction below (sum.natAbs * scaleUp 2 unit) (scaleUp 2 (-unit))
  | .infinite negative, .infinite other =>
      if negative == other then .infinite negative else .notANumber
  | .infinite negative, .finite .. => .infinite negative
  | .finite .., .infinite other => .infinite other

def sameMagnitude : Binary64 -> Binary64 -> Bool
  | .finite _ m e, .finite _ n f => m * scaleUp 2 (e - f) == n * scaleUp 2 (f - e)
  | .infinite _, .infinite _ => true
  | _, _ => false

def isZero : Binary64 -> Bool
  | .finite _ mantissa _ => mantissa == 0
  | _ => false

def truncate? : Binary64 -> Option Int
  | .finite negative mantissa exponent =>
      let whole := mantissa * scaleUp 2 exponent / scaleUp 2 (-exponent)
      some (if negative then -(whole : Int) else whole)
  | _ => none

def whole? : Binary64 -> Option Int
  | .finite negative mantissa exponent =>
      let up := mantissa * scaleUp 2 exponent
      let down := scaleUp 2 (-exponent)
      if up % down == 0 then
        some (if negative then -((up / down : Nat) : Int) else ((up / down : Nat) : Int))
      else none
  | _ => none

def isNegative : Binary64 -> Bool
  | .finite negative _ _ => negative
  | .infinite negative => negative
  | .notANumber => false

def fraction (mantissa : Nat) (exponent : Int) : Nat × Nat :=
  (mantissa * scaleUp 2 exponent, scaleUp 2 (-exponent))

/-- The place of the leading digit: the least `p` with `numerator / denominator < 10 ^ p`. -/
def leadingPlace (numerator denominator : Nat) : Int :=
  let guess : Int :=
    ((toString numerator).length : Int) - ((toString denominator).length : Int)
  let below (place : Int) : Bool :=
    numerator * scaleUp 10 (-place) < denominator * scaleUp 10 place
  if below guess then guess else guess + 1

def decimalOf? (mantissa : Nat) (exponent : Int) (count : Nat) : Option (Nat × Int) :=
  let (numerator, denominator) := fraction mantissa exponent
  let power := leadingPlace numerator denominator - (count : Int)
  let up := numerator * scaleUp 10 (-power)
  let down := denominator * scaleUp 10 power
  let low := up / down
  let nearest := roundedQuotient up down
  let other := if nearest == low then low + 1 else low
  let readsBack (digits : Nat) : Bool :=
    (ofDecimal false digits power).sameMagnitude (.finite false mantissa exponent)
  if readsBack nearest then some (nearest, power)
  else if readsBack other then some (other, power)
  else none

/-- The fewest digits that read back as a positive number, and the place of the leading one:
the digits stand behind the point of a numeral times ten to that place. -/
def shortest (mantissa : Nat) (exponent : Int) : List Char × Int :=
  match (List.range 17).findSome? (fun count => decimalOf? mantissa exponent (count + 1)) with
  | none => (['0'], 1)
  | some (digits, power) =>
      let text := (toString digits).toList
      ((text.reverse.dropWhile (· == '0')).reverse, (text.length : Int) + power)

def exponentText (power : Int) : String :=
  let digits := toString power.natAbs
  (if power < 0 then "-" else "+") ++ (if digits.length < 2 then "0" ++ digits else digits)

/-- The text of a positive number.  It is positional while the leading digit stands at most four
places behind the point and at most sixteen before it; a whole number keeps one decimal. -/
def positiveText (mantissa : Nat) (exponent : Int) : String :=
  let (digits, place) := shortest mantissa exponent
  if place > 16 || place <= -4 then
    let tail := digits.drop 1
    String.ofList (digits.take 1) ++ (if tail.isEmpty then "" else "." ++ String.ofList tail)
      ++ "e" ++ exponentText (place - 1)
  else if place <= 0 then
    "0." ++ String.ofList (List.replicate (-place).toNat '0' ++ digits)
  else
    let whole := digits.take place.toNat
    let padding := List.replicate (place.toNat - whole.length) '0'
    let rest := digits.drop place.toNat
    String.ofList (whole ++ padding) ++ "."
      ++ (if rest.isEmpty then "0" else String.ofList rest)

def text : Binary64 -> String
  | .notANumber => "nan"
  | .infinite negative => if negative then "-inf" else "inf"
  | .finite negative mantissa exponent =>
      (if negative then "-" else "")
        ++ (if mantissa == 0 then "0.0" else positiveText mantissa exponent)

end Binary64

end BlobDepot.Number
