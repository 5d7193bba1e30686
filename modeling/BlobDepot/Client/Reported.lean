import BlobDepot.Failure

set_option autoImplicit false

namespace BlobDepot

namespace Rejection

def absentCodes : List String :=
  ["404", "NoSuchKey", "NotFound"]

def codeText (rejection : Rejection) : String :=
  match rejection.code with
  | some code => code.plain
  | none => ""

def statusNumber (rejection : Rejection) : Except ShapeError (Option Int) :=
  match rejection.status with
  | none | some .null => .ok none
  | some status => status.toInteger.map some

def meansAbsent (rejection : Rejection) : Except ShapeError Bool :=
  -- The status, which may be of a wrong kind, is looked at only if the code does not say so.
  if absentCodes.contains rejection.codeText then .ok true
  else rejection.statusNumber.map (fun status => status == some 404)

def reported (rejection : Rejection) (text : String) : Except ShapeError Problem := do
  if (<- rejection.meansAbsent) then
    return .objectNotFound text
  else
    return .backend text (<- rejection.statusNumber)

end Rejection

namespace Failure

def fromService (failure : Failure) : Bool :=
  failure.isA .rejected || failure.isA .transport

/-- What a client says of a failure from the service or the transport while it does something. -/
def reported (failure : Failure) (doing : String) : Failure :=
  let text := doing ++ ": " ++ failure.message
  match failure.problem with
  | .rejected rejection =>
      match rejection.reported text with
      | .ok problem => because problem failure
      | .error error => of (.shape error)
  | _ => because (.backend text none) failure

end Failure

end BlobDepot
