import BlobDepot.Number.Places
import BlobDepot.Value.Shape

set_option autoImplicit false

namespace BlobDepot

inductive TemplateError where
  | tooFewValues
  | tooManyValues
  | needsNames
  | missingName (name : String)
  | unclosedName
  | incomplete
  | unknownLetter (letter : Char) (index : Nat)
  | countNotWhole
  | countUnreadable (count : String)
  | countTooLarge (word : String)
  | tooManyDigits
  | notRepresentable
  | outOfMemory
  | noLength (kind : String)
  | firstMissing
  | notReal (letter : Char) (kind : String)
  | notWhole (letter : Char) (kind : String)
  | notNumber (kind : String)
  | notCharacter
  | noSuchCharacter
  | shape (error : ShapeError)
  deriving Repr

namespace TemplateError

def message : TemplateError -> String
  | .tooFewValues => "not enough arguments for format string"
  | .tooManyValues => "not all arguments converted during string formatting"
  | .needsNames => "format requires a mapping"
  | .missingName name => Text.quote name
  | .unclosedName => "incomplete format key"
  | .incomplete => "incomplete format"
  | .unknownLetter letter index =>
      let code := letter.toNat
      let shown := if 31 <= code && code < 127 then letter else '?'
      "unsupported format character '" ++ String.singleton shown ++ "' (0x"
        ++ String.ofList (Nat.toDigits 16 code) ++ ") at index " ++ toString index
  | .countNotWhole => "* wants int"
  | .countUnreadable count => count ++ " too big"
  | .countTooLarge word => Number.tooLargeFor word
  | .tooManyDigits => "precision too large"
  | .notRepresentable => "int too large to convert to float"
  | .outOfMemory => ""
  | .noLength kind => "object of type '" ++ kind ++ "' has no len()"
  | .firstMissing => "0"
  | .notReal letter kind =>
      "%" ++ String.singleton letter ++ " format: a real number is required, not " ++ kind
  | .notWhole letter kind =>
      "%" ++ String.singleton letter ++ " format: an integer is required, not " ++ kind
  | .notNumber kind => "must be real number, not " ++ kind
  | .notCharacter => "%c requires int or char"
  | .noSuchCharacter => "%c arg not in range(0x110000)"
  | .shape error => error.message

end TemplateError

namespace Template

inductive SlotName where
  | absent
  | name (text : String)
  | unclosed
  deriving Repr, DecidableEq

inductive SlotCount where
  | absent
  | number (count : Nat)
  | nextValue
  deriving Repr, DecidableEq

structure Slot where
  name : SlotName
  flags : List Char
  width : SlotCount
  precision : SlotCount
  letter : Option Char
  letterIndex : Nat
  deriving Repr, DecidableEq

inductive Piece where
  | literal (c : Char)
  | slot (slot : Slot)
  deriving Repr, DecidableEq

def takeName : Nat -> List Char -> List Char -> Option (List Char × List Char)
  | _, _, [] => none
  | opened, done, '(' :: rest => takeName (opened + 1) ('(' :: done) rest
  | 0, done, ')' :: rest => some (done.reverse, rest)
  | opened + 1, done, ')' :: rest => takeName opened (')' :: done) rest
  | opened, done, c :: rest => takeName opened (c :: done) rest

def readName : List Char -> SlotName × List Char
  | '(' :: rest =>
      match takeName 0 [] rest with
      | some (name, rest) => (.name (String.ofList name), rest)
      | none => (.unclosed, [])
  | rest => (.absent, rest)

def readCount : List Char -> SlotCount × List Char
  | '*' :: rest => (.nextValue, rest)
  | rest =>
      match rest.takeWhile Char.isDigit with
      | [] => (.absent, rest)
      | digits =>
          (.number (Text.ofDigits (digits.filterMap Text.digitValue?)), rest.dropWhile Char.isDigit)

def readPrecision : List Char -> SlotCount × List Char
  | '.' :: rest =>
      match readCount rest with
      | (.absent, rest) => (.number 0, rest)
      | found => found
  | rest => (.absent, rest)

def skipSize : List Char -> List Char
  | 'h' :: rest => rest
  | 'l' :: rest => rest
  | 'L' :: rest => rest
  | rest => rest

def readSlot (position : Nat) (chars : List Char) : Slot × Nat :=
  let isFlag (c : Char) : Bool := ['-', '+', ' ', '#', '0'].contains c
  let (name, rest) := readName chars
  let flags := rest.takeWhile isFlag
  let (width, rest) := readCount (rest.dropWhile isFlag)
  let (precision, rest) := readPrecision rest
  let rest := skipSize rest
  let before := chars.length - rest.length
  let slot : Slot :=
    { name := name
      flags := flags
      width := width
      precision := precision
      letter := rest.head?
      letterIndex := position + before }
  (slot, before + 1)

/-- The pieces of a template from a position on, after so many characters that belong to the
piece before.  Two percent signs stand for one. -/
def pieces (position : Nat) : Nat -> List Char -> List Piece
  | _, [] => []
  | skipped + 1, _ :: rest => pieces (position + 1) skipped rest
  | 0, c :: rest =>
      if c = '%' then
        if rest.head? = some '%' then .literal '%' :: pieces (position + 1) 1 rest
        else
          let (slot, length) := readSlot (position + 1) rest
          .slot slot :: pieces (position + 1) length rest
      else
        .literal c :: pieces (position + 1) 0 rest

/-- The names that values go by: none, those of a map, or the places of a list, which no name
fits. -/
inductive Names where
  | absent
  | entries (entries : List (Value × Value))
  | places
  deriving Repr

structure Supply where
  values : List Value
  names : Names := .absent
  deriving Repr

def Supply.ofArguments : List Value -> Supply
  | [.map (entry :: entries)] => ⟨[.map (entry :: entries)], .entries (entry :: entries)⟩
  | values => ⟨values, .absent⟩

/-- One value by itself.  A map gives its entries by name, and a map or a list need not be used. -/
def Supply.ofValue (value : Value) : Supply :=
  match value with
  | .map entries => ⟨[value], .entries entries⟩
  | .list _ => ⟨[value], .places⟩
  | _ => ⟨[value], .absent⟩

/-- A value that stands for several: one that is not empty and has a length.  A single map in it
stands for itself. -/
def Supply.ofSequence : Value -> Except TemplateError Supply
  | .list [.map (entry :: entries)] => .ok (ofValue (.map (entry :: entries)))
  | .map [_] => .error .firstMissing
  | .null => .error (.noLength Value.null.kindName)
  | .bool flag => .error (.noLength (Value.bool flag).kindName)
  | .int number => .error (.noLength (Value.int number).kindName)
  | .real number => .error (.noLength (Value.real number).kindName)
  | value => .ok (ofValue value)

abbrev Filling (α : Type) : Type :=
  StateT Supply (Except TemplateError) α

def takeValue : Filling Value := do
  let supply <- get
  match supply.values with
  | [] => throw .tooFewValues
  | value :: rest =>
      set { supply with values := rest }
      return value

def chooseName : SlotName -> Filling Unit
  | .absent => pure ()
  | name => do
      match (<- get).names, name with
      | .absent, _ => throw .needsNames
      | .entries entries, .name text =>
          match Value.lookup text entries with
          | some value => set (⟨[value], .entries entries⟩ : Supply)
          | none => throw (.missingName text)
      | .places, .name _ => throw (.shape .listIndex)
      | _, _ => throw .unclosedName

inductive CountUse where
  | width
  | precision
  deriving Repr, DecidableEq

namespace CountUse

def name : CountUse -> String
  | .width => "width"
  | .precision => "precision"

def word : CountUse -> String
  | .width => "ssize_t"
  | .precision => "int"

def largest : CountUse -> Int
  | .width => Nat.pow 2 63 - 1
  | .precision => Nat.pow 2 31 - 1

/-- A count that is a value.  The least one of a word has no opposite and counts as none. -/
def checked (use : CountUse) (count : Int) : Except TemplateError (Option Int) :=
  if use.largest < count ∨ count < -use.largest - 1 then .error (.countTooLarge use.word)
  else if count = -use.largest - 1 then .ok (some 0)
  else .ok (some count)

end CountUse

def takeCount (use : CountUse) : SlotCount -> Filling (Option Int)
  | .absent => return none
  | .number count =>
      if use.largest < count then throw (.countUnreadable use.name) else return some count
  | .nextValue => do
      match <- takeValue with
      | .int number => use.checked number
      | .bool flag => return some (if flag then 1 else 0)
      | _ => throw .countNotWhole

structure Written where
  negative : Bool := false
  mark : String := ""
  body : String
  isNumber : Bool := false
  deriving Repr

def writtenText (precision : Option Int) (text : String) : Written :=
  match precision with
  | some count => { body := String.ofList (text.toList.take count.toNat) }
  | none => { body := text }

def mostDigits : Int :=
  Nat.pow 2 31 - 4

def writtenWhole
    (base : Nat)
    (mark : String)
    (precision : Option Int)
    (number : Int) : Except TemplateError Written :=
  let least := precision.getD 0
  if mostDigits < least then
    .error .tooManyDigits
  else
    let digits := Nat.toDigits base number.natAbs
    let zeros := List.replicate (least.toNat - digits.length) '0'
    .ok
      { negative := number < 0, mark := mark, body := String.ofList (zeros ++ digits)
        isNumber := true }

def wholeOf (letter : Char) : Value -> Except TemplateError Int
  | .text _ => .error (.notReal letter "str")
  | value =>
      match value.toInteger with
      | .ok number => .ok number
      | .error (.notNumeric kind) => .error (.notReal letter kind)
      | .error error => .error (.shape error)

def exactOf (letter : Char) : Value -> Except TemplateError Int
  | .int number => .ok number
  | .bool flag => .ok (if flag then 1 else 0)
  | value => .error (.notWhole letter value.kindName)

def realOf : Value -> Except TemplateError Number.Binary64
  | .real number => .ok number
  | .int number =>
      match Number.Binary64.ofInteger? number with
      | some rounded => .ok rounded
      | none => .error .notRepresentable
  | .bool flag => .ok (.ofFraction false (if flag then 1 else 0) 1)
  | value => .error (.notNumber value.kindName)

def characterOf : Value -> Except TemplateError Char
  | .text content =>
      match content.toList with
      | [c] => .ok c
      | _ => .error .notCharacter
  | value =>
      match exactOf 'c' value with
      | .ok number =>
          if 0 <= number && number < 0x110000 then .ok (Text.ofCodePoint number.toNat)
          else .error .noSuchCharacter
      | .error _ => .error .notCharacter

def basicOnly (text : String) : String :=
  String.ofList (text.toList.flatMap (fun c =>
    if c.toNat < 128 then [c] else Text.escapeCode c.toNat))

def writtenReal
    (style : Number.DigitStyle)
    (capitals alternate : Bool)
    (precision : Option Int)
    (value : Value) : Except TemplateError Written := do
  let number <- realOf value
  let body := style.magnitudeText (precision.getD 6).toNat alternate number
  return {
    negative := number.isNegative
    body := if capitals then String.ofList (body.toList.map Char.toUpper) else body
    isNumber := true }

def writeValue
    (slot : Slot)
    (letter : Char)
    (precision : Option Int)
    (value : Value) : Except TemplateError Written :=
  let alternate := slot.flags.contains '#'
  let capitals := letter.isUpper
  match letter.toLower, letter with
  | _, 's' => .ok (writtenText precision value.plain)
  | _, 'r' => .ok (writtenText precision value.quoted)
  | _, 'a' => .ok (writtenText precision (basicOnly value.quoted))
  | _, 'c' => (characterOf value).map (fun c => { body := String.singleton c })
  | _, 'd' | _, 'i' | _, 'u' => do writtenWhole 10 "" precision (<- wholeOf letter value)
  | _, 'o' => do
      writtenWhole 8 (if alternate then "0o" else "") precision (<- exactOf letter value)
  | 'x', _ => do
      let written <- writtenWhole 16 (if alternate then "0x" else "") precision
        (<- exactOf letter value)
      let raise (text : String) : String :=
        if capitals then String.ofList (text.toList.map Char.toUpper) else text
      return { written with mark := raise written.mark, body := raise written.body }
  | 'f', _ => writtenReal .fixed capitals alternate precision value
  | 'e', _ => writtenReal .scientific capitals alternate precision value
  | 'g', _ => writtenReal .general capitals alternate precision value
  | _, _ => .error (.unknownLetter letter slot.letterIndex)

def boundlessWidth : Int :=
  Nat.pow 2 44

def align (slot : Slot) (width : Int) (written : Written) : List Char :=
  let left := slot.flags.contains '-' || width < 0
  let sign :=
    if !written.isNumber then ""
    else if written.negative then "-"
    else if slot.flags.contains '+' then "+"
    else if slot.flags.contains ' ' then " "
    else ""
  let marks := (sign ++ written.mark).toList
  let body := written.body.toList
  let missing := width.natAbs - (marks.length + body.length)
  if left then marks ++ body ++ List.replicate missing ' '
  else if written.isNumber && slot.flags.contains '0' then
    marks ++ List.replicate missing '0' ++ body
  else List.replicate missing ' ' ++ marks ++ body

def fillSlot (slot : Slot) : Filling (List Char) := do
  chooseName slot.name
  let width := (<- takeCount .width slot.width).getD 0
  let precision := <- takeCount .precision slot.precision
  match slot.letter with
  | none => throw .incomplete
  | some letter =>
      let value <- takeValue
      let written <- (writeValue slot letter precision value : Except TemplateError Written)
      if boundlessWidth <= width.natAbs then
        throw .outOfMemory
      return align slot width written

def fillPieces : List Piece -> Filling (List Char)
  | [] => return []
  | .literal c :: rest => return c :: (<- fillPieces rest)
  | .slot slot :: rest => do
      let filled <- fillSlot slot
      return filled ++ (<- fillPieces rest)

def fillFrom (template : String) (start : Supply) : Except TemplateError String := do
  let (filled, supply) <- (fillPieces (pieces 0 0 template.toList)).run start
  match supply.names with
  | .absent => if supply.values.isEmpty then return String.ofList filled else throw .tooManyValues
  | _ => return String.ofList filled

def fill (template : String) (arguments : List Value) : Except TemplateError String :=
  if arguments.isEmpty then .ok template
  else fillFrom template (.ofArguments arguments)

end Template

end BlobDepot
