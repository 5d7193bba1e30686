import BlobDepot.Failure

set_option autoImplicit false

namespace BlobDepot

abbrev BatchFailure : Type :=
  DeleteBatch × Failure

structure BulkResult where
  attempted : Int := 0
  failures : List BatchFailure := []
  deriving Repr

namespace BulkResult

def ok (result : BulkResult) : Bool :=
  result.failures.isEmpty

def primary (result : BulkResult) : Option BatchFailure :=
  result.failures.head?

def secondary (result : BulkResult) : List BatchFailure :=
  result.failures.tail

def attempt (result : BulkResult) : BulkResult :=
  { result with attempted := result.attempted + 1 }

def recordFailure (result : BulkResult) (batch : DeleteBatch) (failure : Failure) : BulkResult :=
  { result with failures := result.failures ++ [(batch, failure)] }

def summary (result : BulkResult) : String :=
  "BulkDeleteResult(batches=" ++ toString result.attempted ++ ", failed="
    ++ toString result.failures.length ++ ")"

def toFailure (result : BulkResult) (text : String) : Failure :=
  { problem := .bulkDeleteFailed text result.attempted
    suppressed := result.secondary.map Prod.snd
    batches := result.failures }

end BulkResult

end BlobDepot
