import BlobDepot.Document.Cursor

set_option autoImplicit false

namespace BlobDepot.Document

inductive Directive where
  | version (major minor : Nat)
  | handle (name meaning : String)
  | other
  deriving Repr, DecidableEq

inductive Token where
  | directive (directive : Directive)
  | documentStart
  | documentEnd
  | blockSequenceStart
  | blockMappingStart
  | blockEnd
  | flowSequenceStart
  | flowSequenceEnd
  | flowMappingStart
  | flowMappingEnd
  | blockEntry
  | flowEntry
  | key
  | value
  | alias (name : String)
  | anchor (name : String)
  | tag (handle : Option String) (suffix : String)
  | scalar (text : String) (plain : Bool)
  deriving Repr, DecidableEq

/-- The tokens of a document as far as it can be read, and why it cannot be read further. -/
structure Tokens where
  list : List Token
  problem : Option Problem := none

end BlobDepot.Document
