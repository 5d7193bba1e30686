import BlobDepot.Text.Quoted

set_option autoImplicit false

namespace BlobDepot.Text

inductive EncodingFault where
  | start
  | continuation
  | endOfData
  deriving Repr, DecidableEq

structure EncodingError where
  position : Nat
  bytes : List UInt8
  fault : EncodingFault
  deriving Repr, DecidableEq

def EncodingFault.message : EncodingFault -> String
  | .start => "invalid start byte"
  | .continuation => "invalid continuation byte"
  | .endOfData => "unexpected end of data"

/-- The wording of an error.  What is cut off is read by itself, so its position is zero. -/
def EncodingError.message (error : EncodingError) : String :=
  let first := if error.fault = .endOfData then 0 else error.position
  "'utf-8' codec can't decode "
    ++ (match error.bytes with
        | [byte] =>
            "byte 0x" ++ String.ofList (hexDigits 2 byte.toNat) ++ " in position "
              ++ toString first
        | bytes =>
            "bytes in position " ++ toString first ++ "-" ++ toString (first + bytes.length - 1))
    ++ ": " ++ error.fault.message

def halvesMessage (text : String) (place count : Nat) : String :=
  "'utf-8' codec can't encode "
    ++ (if count = 1 then
          "character " ++ quote (String.ofList ((text.toList.drop place).take 1))
            ++ " in position " ++ toString place
        else
          "characters in position " ++ toString place ++ "-" ++ toString (place + count - 1))
    ++ ": surrogates not allowed"

def continuations? (byte : Nat) : Option (Nat × Nat × Nat) :=
  if 0xc2 <= byte && byte <= 0xdf then some (1, 0x80, 0xbf)
  else if byte == 0xe0 then some (2, 0xa0, 0xbf)
  else if byte == 0xed then some (2, 0x80, 0x9f)
  else if 0xe1 <= byte && byte <= 0xef then some (2, 0x80, 0xbf)
  else if byte == 0xf0 then some (3, 0x90, 0xbf)
  else if byte == 0xf4 then some (3, 0x80, 0x8f)
  else if 0xf1 <= byte && byte <= 0xf3 then some (3, 0x80, 0xbf)
  else none

def continuing (low high : Nat) : Nat -> List UInt8 -> List UInt8
  | count + 1, byte :: rest =>
      if low <= byte.toNat && byte.toNat <= high then
        byte :: continuing 0x80 0xbf count rest
      else []
  | _, _ => []

def findFault : Nat -> Nat -> List UInt8 -> Option EncodingError
  | 0, _, _ => none
  | _, _, [] => none
  | limit + 1, position, byte :: rest =>
      if byte.toNat < 0x80 then
        findFault limit (position + 1) rest
      else
        match continuations? byte.toNat with
        | none => some ⟨position, [byte], .start⟩
        | some (count, low, high) =>
            let found := continuing low high count rest
            if found.length = count then
              findFault limit (position + 1 + count) (rest.drop count)
            else if rest.length = found.length then
              some ⟨position, byte :: found, .endOfData⟩
            else
              some ⟨position, byte :: found, .continuation⟩

def decode (bytes : List UInt8) : Except EncodingError String :=
  match String.fromUTF8? ⟨bytes.toArray⟩ with
  | some text => .ok text
  | none =>
      .error ((findFault (bytes.length + 1) 0 bytes).getD ⟨0, [], .start⟩)

def encode (text : String) : List UInt8 :=
  text.toUTF8.data.toList

end BlobDepot.Text
