import BlobDepot.Document.Cursor
import BlobDepot.Document.Plain
import BlobDepot.Number.Decimal
import BlobDepot.Text.LetterCase

set_option autoImplicit false

namespace BlobDepot.Document

def badNumeral {α : Type} (error : Number.LiteralError) : Parsed α :=
  .error (.argument (.literal error))

def ungrouped (text : String) : String :=
  String.ofList (text.toList.filter (· != '_'))

def signed (text : String) : Parsed (Bool × String) :=
  match text.toList with
  | [] => .error (.raised .index [.text "string index out of range"] .null .null)
  | '-' :: rest => .ok (true, String.ofList rest)
  | '+' :: rest => .ok (false, String.ofList rest)
  | _ => .ok (false, text)

def readUnsigned (text : String) : Except Number.LiteralError Int :=
  match text.toList with
  | '0' :: 'b' :: digits => Number.readInBase 2 (String.ofList digits)
  | '0' :: 'x' :: digits => Number.readInBase 16 (String.ofList digits)
  | ['0'] => .ok 0
  | '0' :: _ => Number.readInBase 8 text
  | chars =>
      if chars.contains ':' then do
        let places <-
          (Text.pieces ':' chars).mapM (fun piece => Number.readInteger (String.ofList piece))
        return Number.ofSixties places
      else
        Number.readInteger text

def wholeOf (text : String) : Parsed Value := do
  let (negative, body) <- signed (ungrouped text)
  if body == "" then
    .error (.raised .index [.text "string index out of range"] .null .null)
  else
    match readUnsigned body with
    | .ok number => return .int (if negative then -number else number)
    | .error error => badNumeral error

def badReal {α : Type} (text : String) : Parsed α :=
  .error (.raised .value
    [.text ("could not convert string to float: " ++ Text.quote text)] .null .null)

def readUnsignedReal? (text : String) : Except String (Option Number.Binary64) := do
  let read (chars : List Char) : Except String Number.Binary64 :=
    let piece := String.ofList chars
    match Number.readReal? piece with
    | some number => .ok number
    | none => .error piece
  if text == ".inf" then return some (.infinite false)
  else if text == ".nan" then return some .notANumber
  else if text.toList.contains ':' then
    let places <- (Text.pieces ':' text.toList).mapM read
    return Number.realOfSixties 1 (.finite false 0 0) places.reverse
  else return some (<- read text.toList)

def realOf (text : String) : Parsed Value := do
  let (negative, body) <- signed (Text.lower (ungrouped text))
  match readUnsignedReal? body with
  | .ok (some number) => return .real (if negative then number.negate else number)
  | .ok none => .error (.template .notRepresentable)
  | .error piece => badReal piece

def flagOf (text : String) : Parsed Value :=
  let word := Text.lower text
  if ["yes", "true", "on"].contains word then .ok (.bool true)
  else if ["no", "false", "off"].contains word then .ok (.bool false)
  else .error (.shape (.missingKey word))

def isLeap (year : Nat) : Bool :=
  year % 4 == 0 && (year % 100 != 0 || year % 400 == 0)

def daysOf (year month : Nat) : Nat :=
  if month == 2 then (if isLeap year then 29 else 28)
  else if [4, 6, 9, 11].contains month then 30 else 31

def dateFault? (moment : MomentText) : Option String :=
  if moment.year == 0 then
    some "year 0 is out of range"
  else if moment.month == 0 || moment.month > 12 then
    some "month must be in 1..12"
  else if moment.day == 0 || moment.day > daysOf moment.year moment.month then
    some "day is out of range for month"
  else
    none

def timeFault? (time : Nat × Nat × Nat) : Option String :=
  if time.1 > 23 then some "hour must be in 0..23"
  else if time.2.1 > 59 then some "minute must be in 0..59"
  else if time.2.2 > 59 then some "second must be in 0..59"
  else none

def spanText (seconds : Int) : String :=
  let days := seconds / 86400
  let rest := seconds % 86400
  let parts :=
    (if days = 0 then [] else ["days=" ++ toString days])
      ++ (if rest = 0 then [] else ["seconds=" ++ toString rest])
  "datetime.timedelta(" ++ (if parts.isEmpty then "0" else ", ".intercalate parts) ++ ")"

def offsetFault? : Option (Bool × Nat × Nat) -> Option String
  | none => none
  | some (negative, hours, minutes) =>
      let size : Int := 3600 * hours + 60 * minutes
      if size < 86400 then none
      else
        some ("offset must be a timedelta strictly between -timedelta(hours=24) and "
          ++ "timedelta(hours=24), not " ++ spanText (if negative then -size else size) ++ ".")

def momentOf (text : String) : Parsed Value :=
  match readMoment? (dropLastBreak text.toList) with
  | none => .error (.shape (.noMember "NoneType" "groupdict"))
  | some moment =>
      let fault :=
        match moment.time with
        | none => dateFault? moment
        | some time =>
            ((offsetFault? moment.offset).orElse (fun _ => dateFault? moment)).orElse
              (fun _ => timeFault? time)
      match fault, moment.time with
      | some reason, _ => .error (.argument (.dateField reason))
      | none, none => .ok (.date moment.year moment.month moment.day)
      | none, some _ => .ok (.instant text)

def sixBits? (c : Char) : Option Nat :=
  let code := c.toNat
  if 65 <= code && code <= 90 then some (code - 65)
  else if 97 <= code && code <= 122 then some (code - 71)
  else if 48 <= code && code <= 57 then some (code + 4)
  else if c == '+' then some 62
  else if c == '/' then some 63
  else none

def bitsOf (pads : Nat) (done : List Nat) : List Char -> List Nat × Bool
  | [] => (done.reverse, false)
  | c :: rest =>
      if c == '=' then
        let place := done.length % 4
        if place >= 2 && place + pads + 1 >= 4 then (done.reverse, true)
        else bitsOf (if place >= 2 then pads + 1 else pads) done rest
      else
        match sixBits? c with
        | some bits => bitsOf 0 (bits :: done) rest
        | none => bitsOf pads done rest

def bytesOf : List Nat -> List UInt8
  | a :: b :: c :: d :: rest =>
      UInt8.ofNat (a * 4 + b / 16) :: UInt8.ofNat (b % 16 * 16 + c / 4)
        :: UInt8.ofNat (c % 4 * 64 + d) :: bytesOf rest
  | [a, b, c] => [UInt8.ofNat (a * 4 + b / 16), UInt8.ofNat (b % 16 * 16 + c / 4)]
  | [a, b] => [UInt8.ofNat (a * 4 + b / 16)]
  | _ => []

def binaryOf (text : String) : Parsed Value :=
  if text.toList.any (fun c => c.toNat > 127) then
    malformed
  else
    let (bits, padded) := bitsOf 0 [] text.toList
    if padded || bits.length % 4 == 0 then .ok (.bytes (bytesOf bits)) else malformed

/-- The value of a scalar.  The tags of keys and of collections are no tags for one. -/
def valueOfScalar (tag : Tag) (text : String) : Parsed Value :=
  match tag with
  | .nothing => .ok .null
  | .flag => flagOf text
  | .whole => wholeOf text
  | .real => realOf text
  | .moment => momentOf text
  | .bytes => binaryOf text
  | .text => .ok (.text text)
  | .list | .pairs | .map | .set | .merge | .default | .unknown => malformed

end BlobDepot.Document
