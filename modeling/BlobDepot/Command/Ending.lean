import BlobDepot.Command.Usage
import BlobDepot.Failure
import BlobDepot.Text.Lines
import BlobDepot.Text.Marks

set_option autoImplicit false

namespace BlobDepot.Command

inductive Ending where
  | finished (succeeded : Bool)
  | nothingAsked
  | refused (error : UsageError)
  | complaint (text : String)
  | failed (failure : Failure)
  deriving Repr

namespace Ending

def exitCode : Ending -> Nat
  | .finished succeeded => if succeeded then 0 else 1
  | .nothingAsked | .refused _ => 2
  | .complaint _ | .failed _ => 1

def errorLine : Ending -> Option String
  | .refused error => some ("Error: " ++ Text.firstLine (Text.dropMarks error.message))
  | .complaint text => some ("Error: " ++ Text.firstLine (Text.dropMarks text))
  | _ => none

def unexpected : Ending -> Option Failure
  | .failed failure =>
      if failure.isA .interrupt || failure.isA (.other "EOFError") then none else some failure
  | _ => none

end Ending

end BlobDepot.Command
