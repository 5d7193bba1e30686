import BlobDepot.Failure.Argument
import BlobDepot.Text.Pieces

set_option autoImplicit false

namespace BlobDepot

structure BlobPath where
  segments : List String := []
  deriving Repr, DecidableEq, Inhabited

namespace BlobPath

def ofText (text : String) : BlobPath :=
  ⟨((Text.pieces '/' text.toList).filter (fun piece => !piece.isEmpty)).map String.ofList⟩

def isSegment (text : String) : Bool :=
  text != "" && !text.toList.contains '/'

def add (path : BlobPath) (segment : String) : Except ArgumentError BlobPath :=
  if isSegment segment then .ok ⟨path.segments ++ [segment]⟩ else .error (.segment segment)

def parent (path : BlobPath) : BlobPath :=
  ⟨path.segments.dropLast⟩

def toText (path : BlobPath) : String :=
  String.join (path.segments.map (fun segment => segment ++ "/"))

def length (path : BlobPath) : Nat :=
  path.segments.length

def display (path : BlobPath) : String :=
  "[" ++ "][".intercalate path.segments ++ "]"

end BlobPath

end BlobDepot
