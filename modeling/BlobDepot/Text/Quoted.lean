import BlobDepot.Text.HalfCharacter
import BlobDepot.Text.Printable

set_option autoImplicit false

namespace BlobDepot.Text

def apostrophe : Char :=
  Char.ofNat 39

def doubleQuote : Char :=
  Char.ofNat 34

def backslash : Char :=
  Char.ofNat 92

def hexDigit (value : Nat) : Char :=
  if value < 10 then Char.ofNat (48 + value) else Char.ofNat (87 + value)

def hexDigits : Nat -> Nat -> List Char
  | 0, _ => []
  | width + 1, number => hexDigits width (number / 16) ++ [hexDigit (number % 16)]

def escapeCode (code : Nat) : List Char :=
  if code < 0x100 then backslash :: 'x' :: hexDigits 2 code
  else if code < 0x10000 then backslash :: 'u' :: hexDigits 4 code
  else backslash :: 'U' :: hexDigits 8 code

def quoteChar (enclosing c : Char) : List Char :=
  if c == enclosing || c == backslash then [backslash, c]
  else if c == '\n' then [backslash, 'n']
  else if c == '\r' then [backslash, 'r']
  else if c == '\t' then [backslash, 't']
  else if isPrintable c then [c]
  else escapeCode (codePoint c)

def enclosingQuote (chars : List Char) : Char :=
  if chars.contains apostrophe && !chars.contains doubleQuote then doubleQuote else apostrophe

def quote (text : String) : String :=
  let chars := text.toList
  let enclosing := enclosingQuote chars
  String.ofList (enclosing :: chars.flatMap (quoteChar enclosing) ++ [enclosing])

def quoteByte (enclosing : Char) (byte : UInt8) : List Char :=
  let c := Char.ofNat byte.toNat
  if byte.toNat < 127 then
    if c == '\n' || c == '\r' || c == '\t' || 32 <= byte.toNat then quoteChar enclosing c
    else escapeCode byte.toNat
  else escapeCode byte.toNat

def quoteBytes (bytes : List UInt8) : String :=
  let enclosing := enclosingQuote (bytes.map (fun byte => Char.ofNat byte.toNat))
  String.ofList ('b' :: enclosing :: bytes.flatMap (quoteByte enclosing) ++ [enclosing])

def quoteList (texts : List String) : String :=
  "[" ++ ", ".intercalate (texts.map quote) ++ "]"

end BlobDepot.Text
