import BlobDepot.Failure.Argument
import BlobDepot.Limits

set_option autoImplicit false

namespace BlobDepot

universe u

structure DeleteBatch where
  index : Int
  keys : List String
  deriving Repr, DecidableEq

namespace DeleteBatch

/-- Cut a list into pieces of `size + 1` items; the last piece may be shorter. -/
def chunks {α : Type u} (size : Nat) : List α -> List (List α)
  | [] => []
  | item :: rest => (item :: rest.take size) :: chunks size (rest.drop size)
termination_by items => items.length
decreasing_by
  simp only [List.length_cons, List.length_drop]
  omega

def ofChunks (pieces : List (List String)) : List DeleteBatch :=
  pieces.zipIdx.map (fun piece => ⟨piece.2, piece.1⟩)

def partition
    (keys : List String)
    (batchSize : Int) : Except ArgumentError (List DeleteBatch) :=
  if batchSize <= 0 then .error .batchSize
  else .ok (ofChunks (chunks (batchSize.toNat - 1) keys))

end DeleteBatch

end BlobDepot
