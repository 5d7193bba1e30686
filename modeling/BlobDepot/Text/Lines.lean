set_option autoImplicit false

namespace BlobDepot.Text

/-- Tell whether a character ends a line: line feed to carriage return, three of the information
separators, and the line and paragraph separators. -/
def endsLine (c : Char) : Bool :=
  let n := c.toNat
  (10 <= n && n <= 13) || (28 <= n && n <= 30) || n == 0x85 || n == 0x2028 || n == 0x2029

def splitLines : List Char -> List (List Char)
  | [] => []
  | '\r' :: '\n' :: rest => [] :: splitLines rest
  | c :: rest =>
      if endsLine c then [] :: splitLines rest
      else
        match splitLines rest with
        | [] => [[c]]
        | first :: others => (c :: first) :: others

def lines (text : String) : List String :=
  (splitLines text.toList).map String.ofList

def firstLine (text : String) : String :=
  String.ofList (text.toList.takeWhile (fun c => !endsLine c))

end BlobDepot.Text
