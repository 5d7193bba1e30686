import BlobDepot.Failure.Argument
import BlobDepot.Text.LetterCase
import BlobDepot.Value

set_option autoImplicit false

namespace BlobDepot.Size

def unitFactor? (c : Char) : Option Nat :=
  match Text.lowerChars c with
  | ['k'] => some 1024
  | ['m'] => some (Nat.pow 1024 2)
  | ['g'] => some (Nat.pow 1024 3)
  | ['t'] => some (Nat.pow 1024 4)
  | _ => none

def dropByteMark : List Char -> List Char
  | 'b' :: rest => rest
  | 'B' :: rest => rest
  | rest => rest

def factor? (unit : List Char) : Option Nat :=
  let (factor, rest) :=
    match unit with
    | [] => (1, [])
    | c :: rest =>
        match unitFactor? c with
        | some factor => (factor, rest)
        | none => (1, c :: rest)
  if (dropByteMark rest).all Text.isBlank then some factor else none

def parts? (text : List Char) : Option (List Char × Nat) :=
  let body := text.dropWhile Text.isBlank
  let digits := body.takeWhile Text.isDigit
  let unit := (body.dropWhile Text.isDigit).dropWhile Text.isBlank
  if digits.isEmpty then none else (factor? unit).map (fun factor => (digits, factor))

def read (text : String) : Except ArgumentError Nat :=
  match parts? text.toList with
  | none => .error (.byteSize text)
  | some (digits, factor) =>
      match Number.ofDigitChars digits with
      | .ok number => .ok (number * factor)
      | .error error => .error (.literal error)

inductive Refusal where
  | argument (error : ArgumentError)
  | notText (kind : String)
  deriving Repr

def Refusal.message : Refusal -> String
  | .argument error => error.message
  | .notText "bytes" => "cannot use a string pattern on a bytes-like object"
  | .notText kind => "expected string or bytes-like object, got '" ++ kind ++ "'"

def ofValue : Value -> Except Refusal Value
  | .int number => .ok (.int number)
  | .bool flag => .ok (.bool flag)
  | .text text =>
      match read text with
      | .ok size => .ok (.int size)
      | .error error => .error (.argument error)
  | other => .error (.notText other.kindName)

end BlobDepot.Size
