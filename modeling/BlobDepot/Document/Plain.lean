import BlobDepot.Document.Tag
import BlobDepot.Text.Digit
import BlobDepot.Text.Pieces

set_option autoImplicit false

namespace BlobDepot.Document

def flagWords : List String :=
  ["yes", "Yes", "YES", "no", "No", "NO", "true", "True", "TRUE", "false", "False", "FALSE",
    "on", "On", "ON", "off", "Off", "OFF"]

def nothingWords : List String :=
  ["~", "null", "Null", "NULL"]

def reservedWords : List String :=
  ["!", "&", "*"]

def dropLastBreak (chars : List Char) : List Char :=
  if chars.getLast? = some '\n' then chars.dropLast else chars

def dropSign : List Char -> List Char
  | '+' :: rest => rest
  | '-' :: rest => rest
  | rest => rest

def allOf (wanted : Char -> Bool) (chars : List Char) : Bool :=
  !chars.isEmpty && chars.all wanted

def isGrouped (c : Char) : Bool :=
  Text.isBasicDigit c || c == '_'

def isNumeral : List Char -> Bool
  | [] => false
  | c :: rest => Text.isBasicDigit c && rest.all isGrouped

def isSixtieth : List Char -> Bool
  | [c] => Text.isBasicDigit c
  | [c, d] => '0' <= c && c <= '5' && Text.isBasicDigit d
  | _ => false

def isSexagesimal (first : List Char -> Bool) (chars : List Char) : Bool :=
  match Text.pieces ':' chars with
  | leading :: others => first leading && !others.isEmpty && others.all isSixtieth
  | [] => false

def isProperNumeral (chars : List Char) : Bool :=
  isNumeral chars && chars.head? != some '0'

def isWhole (chars : List Char) : Bool :=
  let body := dropSign chars
  match body with
  | '0' :: 'b' :: digits => allOf (fun c => c == '0' || c == '1' || c == '_') digits
  | '0' :: 'x' :: digits =>
      allOf (fun c => isGrouped c || ('a' <= c && c <= 'f') || ('A' <= c && c <= 'F')) digits
  | ['0'] => true
  | '0' :: digits => digits.all (fun c => c == '_' || ('0' <= c && c <= '7'))
  | _ => isProperNumeral body || isSexagesimal isProperNumeral body

def isPower : List Char -> Bool
  | [] => true
  | mark :: sign :: digits =>
      (mark == 'e' || mark == 'E') && (sign == '+' || sign == '-')
        && allOf Text.isBasicDigit digits
  | _ => false

/-- Tell whether a text is a real number: it has a point, digits on the left of it unless it has
no sign, and a power of ten only with a sign. -/
def isReal (chars : List Char) : Bool :=
  let body := dropSign chars
  let signed := body.length != chars.length
  let whole := body.takeWhile (· != '.')
  let rest := (body.dropWhile (· != '.')).drop 1
  let power := rest.dropWhile isGrouped
  let fraction := rest.takeWhile isGrouped
  if !body.contains '.' then
    false
  else if ["inf", "Inf", "INF"].any (fun name => body == '.' :: name.toList) then
    true
  else if !signed && ["nan", "NaN", "NAN"].any (fun name => body == '.' :: name.toList) then
    true
  else if whole.isEmpty then
    !signed && isNumeral fraction && isPower power
  else if isNumeral whole then
    isPower power
  else
    isSexagesimal isNumeral whole && power.isEmpty

structure MomentText where
  year : Nat
  month : Nat
  day : Nat
  time : Option (Nat × Nat × Nat) := none
  offset : Option (Bool × Nat × Nat) := none
  deriving Repr

def readCount (least most : Nat) (chars : List Char) : Option (Nat × List Char) :=
  let digits := (chars.take most).takeWhile Text.isBasicDigit
  if digits.length < least then none
  else some (Text.ofDigits (digits.filterMap Text.digitValue?), chars.drop digits.length)

def readMarked? (mark : Char) (least most : Nat) : List Char -> Option (Nat × List Char)
  | [] => none
  | c :: rest => if c == mark then readCount least most rest else none

def isGap (c : Char) : Bool :=
  c == ' ' || c == '\t'

def readOffset? (chars : List Char) : Option (Option (Bool × Nat × Nat)) :=
  match chars.dropWhile isGap with
  | [] => if chars.isEmpty then some none else none
  | ['Z'] => some none
  | sign :: rest =>
      if sign == '+' || sign == '-' then
        match readCount 1 2 rest with
        | none => none
        | some (hours, []) => some (some (sign == '-', hours, 0))
        | some (hours, rest) =>
            match readMarked? ':' 2 2 rest with
            | some (minutes, []) => some (some (sign == '-', hours, minutes))
            | _ => none
      else none

def readTime? (chars : List Char) : Option ((Nat × Nat × Nat) × Option (Bool × Nat × Nat)) := do
  let (hour, rest) <- readCount 1 2 chars
  let (minute, rest) <- readMarked? ':' 2 2 rest
  let (second, rest) <- readMarked? ':' 2 2 rest
  let rest :=
    match rest with
    | '.' :: rest => rest.dropWhile Text.isBasicDigit
    | rest => rest
  return ((hour, minute, second), <- readOffset? rest)

def readMoment? (chars : List Char) : Option MomentText := do
  let (year, rest) <- readCount 4 4 chars
  let (month, afterMonth) <- readMarked? '-' 1 2 rest
  let (day, afterDay) <- readMarked? '-' 1 2 afterMonth
  if afterDay.isEmpty then
    return { year := year, month := month, day := day }
  else
    let time :=
      match afterDay with
      | 'T' :: time => some time
      | 't' :: time => some time
      | c :: _ => if isGap c then some (afterDay.dropWhile isGap) else none
      | [] => none
    let (time, offset) <- readTime? (<- time)
    return { year := year, month := month, day := day, time := some time, offset := offset }

/-- Tell whether a text is a moment in time.  A date without a time has two digits for the month
and for the day. -/
def isMoment (chars : List Char) : Bool :=
  match readMoment? chars with
  | none => false
  | some moment => moment.time.isSome || chars.length == 10

def Tag.ofPlain (text : String) : Tag :=
  let chars := dropLastBreak text.toList
  let word := String.ofList chars
  if flagWords.contains word then .flag
  else if isReal chars then .real
  else if isWhole chars then .whole
  else if word == "<<" then .merge
  else if text == "" || nothingWords.contains word then .nothing
  else if isMoment chars then .moment
  else if word == "=" then .default
  else if reservedWords.contains word then .unknown
  else .text

end BlobDepot.Document
