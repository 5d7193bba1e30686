import BlobDepot.Text.CaseTable

set_option autoImplicit false

namespace BlobDepot.Text

def upperChars (c : Char) : List Char :=
  let n := c.toNat
  if 97 <= n && n <= 122 then [Char.ofNat (n - 32)]
  else if n < 128 then [c]
  else if n == 0xdf then ['S', 'S']
  else if n == 0x131 then ['I']
  else if n == 0x17f then ['S']
  else if n == 0xfb00 then ['F', 'F']
  else if n == 0xfb01 then ['F', 'I']
  else if n == 0xfb02 then ['F', 'L']
  else if n == 0xfb03 then ['F', 'F', 'I']
  else if n == 0xfb04 then ['F', 'F', 'L']
  else if n == 0xfb05 || n == 0xfb06 then ['S', 'T']
  else [c]

def lowerChars (c : Char) : List Char :=
  let n := c.toNat
  if 65 <= n && n <= 90 then [Char.ofNat (n + 32)]
  else if n < 128 then [c]
  else if n == 0x130 then ['i', Char.ofNat 0x307]
  else [smallLetter c]

def beforeCased (chars : List Char) : Bool :=
  (chars.dropWhile isCasePassed).head?.any isCased

/-- Characters in small letters, when it is known whether a letter with a case stands in front of
them.  The capital sigma has another small letter at the end of a word. -/
def lowerFrom (afterCased : Bool) : List Char -> List Char
  | [] => []
  | c :: rest =>
      let small :=
        if c == 'Σ' && afterCased && !beforeCased rest then ['ς'] else lowerChars c
      let after := if isCasePassed c then afterCased else isCased c
      small ++ lowerFrom after rest

def upper (text : String) : String :=
  String.ofList (text.toList.flatMap upperChars)

def lower (text : String) : String :=
  String.ofList (lowerFrom false text.toList)

def lowerBasic (text : String) : String :=
  String.ofList (text.toList.map Char.toLower)

end BlobDepot.Text
