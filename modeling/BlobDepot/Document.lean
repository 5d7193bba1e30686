import BlobDepot.Document.Content
import BlobDepot.Document.Token.Lexer

/-!
# Documents

A configuration document is read in three steps: its text is cut into tokens, the tokens make
nodes that refer to each other, and the nodes stand for values.  `Document.read` goes the whole way.
-/

set_option autoImplicit false

namespace BlobDepot.Document

def isAllowed (c : Char) : Bool :=
  let code := c.toNat
  c == '\t' || c == '\n' || c == '\r' || (0x20 <= code && code <= 0x7e) || code == 0x85
    || (0xa0 <= code && code <= 0xd7ff) || (0xe000 <= code && code <= 0xfffd)
    || 0x10000 <= code

def unifyBreaks : List Char -> List Char
  | [] => []
  | '\r' :: '\n' :: rest => '\n' :: unifyBreaks rest
  | '\r' :: rest => '\n' :: unifyBreaks rest
  | c :: rest => c :: unifyBreaks rest

/-- How much of a text is looked at without looking at the character in a place: the text is
taken in blocks, of which the first one is twice as long as the others. -/
def blocksBefore (place : Nat) : Nat :=
  if place < 8192 then 0 else place / 4096 * 4096

/-- The tokens of a document.  A block with a character that may not stand in a document cannot
be read, which is found out when it is come to. -/
def Tokens.ofText (text : String) : Tokens :=
  let chars := unifyBreaks text.toList
  match chars.findIdx? (fun c => !isAllowed c) with
  | none => .scan chars none
  | some place => .scan (chars.take (blocksBefore place)) (some .malformedDocument)

def read (text : String) : Parsed Value := do
  match <- Tree.ofTokens (.ofText text) with
  | some tree => tree.value
  | none => return .null

end BlobDepot.Document
