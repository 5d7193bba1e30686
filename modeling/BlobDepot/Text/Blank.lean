set_option autoImplicit false

namespace BlobDepot.Text

/-- Tell whether a character is white space: tab to carriage return, the four information
separators, the spaces of any width, and the line and paragraph separators. -/
def isBlank (c : Char) : Bool :=
  let n := c.toNat
  (9 <= n && n <= 13) || (28 <= n && n <= 32) || n == 0x85 || n == 0xa0 || n == 0x1680
    || (0x2000 <= n && n <= 0x200a) || n == 0x2028 || n == 0x2029 || n == 0x202f
    || n == 0x205f || n == 0x3000

def trimChars (drop : Char -> Bool) (chars : List Char) : List Char :=
  ((chars.dropWhile drop).reverse.dropWhile drop).reverse

def trim (drop : Char -> Bool) (text : String) : String :=
  String.ofList (trimChars drop text.toList)

def strip (text : String) : String :=
  trim isBlank text

end BlobDepot.Text
