import BlobDepot.Batch
import BlobDepot.Failure.Kind
import BlobDepot.Template

set_option autoImplicit false

namespace BlobDepot

structure Rejection where
  operation : String
  code : Option Value := none
  reason : Option Value := none
  status : Option Value := none
  retries : Option Value := none
  deriving Repr

namespace Rejection

def partText (part : Option Value) : String :=
  match part with
  | some value => value.plain
  | none => "Unknown"

def message (rejection : Rejection) : String :=
  "An error occurred (" ++ partText rejection.code ++ ") when calling the " ++ rejection.operation
    ++ " operation"
    ++ (match rejection.retries with
        | some attempts => " (reached max retries: " ++ attempts.plain ++ ")"
        | none => "")
    ++ ": " ++ partText rejection.reason

def of (operation code reason : String) (status : Int) : Rejection :=
  { operation := operation
    code := some (.text code)
    reason := some (.text reason)
    status := some (.int status) }

/-- Read the answer to a rejected request: the error and the description of the response are
maps, and the number of attempts counts only when they were used up. -/
def ofAnswer (operation : String) (answer : Value) : Except ShapeError Rejection := do
  let details := (<- answer.findEntry "ResponseMetadata")
  let retries <-
    match details with
    | none => pure none
    | some response => do
        match <- response.findEntry "MaxAttemptsReached" with
        | some reached => if reached.isTruthy then response.findEntry "RetryAttempts" else pure none
        | none => pure none
  let error := ((<- answer.findEntry "Error").getD (.map []))
  return {
    operation := operation
    code := <- error.findEntry "Code"
    reason := <- error.findEntry "Message"
    status := <- (details.getD (.map [])).findEntry "HTTPStatusCode"
    retries := retries }

end Rejection

inductive TransportError where
  | unreachable (url : String)
  | connectTimeout (url : String)
  | readTimeout (url : String)
  | noCredentials
  | unspecified
  deriving Repr, DecidableEq

namespace TransportError

def kind : TransportError -> Kind
  | .unreachable _ => .unreachable
  | .connectTimeout _ => .connectTimeout
  | .readTimeout _ => .readTimeout
  | .noCredentials => .noCredentials
  | .unspecified => .transport

def message : TransportError -> String
  | .unreachable url => "Could not connect to the endpoint URL: \"" ++ url ++ "\""
  | .connectTimeout url => "Connect timeout on endpoint URL: \"" ++ url ++ "\""
  | .readTimeout url => "Read timeout on endpoint URL: \"" ++ url ++ "\""
  | .noCredentials => "Unable to locate credentials"
  | .unspecified => "An unspecified error occurred"

end TransportError

inductive StateError where
  | storeClosed
  | referenceClosed
  | overReleased
  | bucketUnset
  deriving Repr, DecidableEq

def StateError.message : StateError -> String
  | .storeClosed => "Blob store is closed"
  | .referenceClosed => "Backend client reference is already closed"
  | .overReleased => "Backend client reference released too many times"
  | .bucketUnset => "BLOBSTORE_BUCKET must be set"

/-- One complaint about one configuration field, or about the whole when the place is empty. -/
structure Issue where
  type : String
  place : List String
  message : String
  deriving Repr, DecidableEq

inductive FileError where
  | notFound (path : String)
  | isDirectory (path : String)
  | notDirectory (path : String)
  | nameTooLong (path : String)
  deriving Repr, DecidableEq

def FileError.kind : FileError -> Kind
  | .notFound _ => .fileNotFound
  | .isDirectory _ => .isDirectory
  | .notDirectory _ => .notDirectory
  | .nameTooLong _ => .operatingSystem

def FileError.message : FileError -> String
  | .notFound path => "[Errno 2] No such file or directory: " ++ Text.quote path
  | .isDirectory path => "[Errno 21] Is a directory: " ++ Text.quote path
  | .notDirectory path => "[Errno 20] Not a directory: " ++ Text.quote path
  | .nameTooLong path => "[Errno 36] File name too long: " ++ Text.quote path

inductive Problem where
  | existenceUnknown (blob : String)
  | contentMissing (blob reason : String)
  | blobMissing (blob : String)
  | unreadable (blob : String)
  | putFailed (key : String)
  | uploadFailed (key : String)
  | uploadNotInitialized (key : String)
  | sizeMismatch (key : String) (expected sent : Int)
  | deleteFailed (blob : String)
  | listingFailed (selection : Option String)
  | bulkDeleteFailed (text : String) (attempted : Int)
  | backend (text : String) (status : Option Int)
  | objectNotFound (text : String)
  | rejected (rejection : Rejection)
  | transport (error : TransportError)
  | argument (error : ArgumentError)
  | state (error : StateError)
  | shape (error : ShapeError)
  | template (error : TemplateError)
  | wrongType (text : String)
  | frozenField (field : String)
  | assertion (text : String)
  | invalid (issues : List Issue)
  | malformedDocument
  | undecodable (text : String)
  | unencodable (text : String)
  | file (error : FileError)
  | raised (kind : Kind) (arguments : List Value) (blob status : Value)
  deriving Repr

namespace Problem

def shapeKind : ShapeError -> Kind
  | .missingKey _ => .key
  | .noMember .. => .member
  | .literal _ => .value
  | .notFinite infinite => if infinite then .other "OverflowError" else .value
  | _ => .type

def templateKind : TemplateError -> Kind
  | .missingName _ | .firstMissing => .key
  | .unclosedName | .incomplete | .unknownLetter .. | .countUnreadable _ => .value
  | .noSuchCharacter | .countTooLarge _ | .tooManyDigits | .notRepresentable =>
      .other "OverflowError"
  | .outOfMemory => .other "MemoryError"
  | .shape error => shapeKind error
  | _ => .type

def kind : Problem -> Kind
  | .existenceUnknown _ => .blobStore
  | .contentMissing .. | .blobMissing _ => .blobNotFound
  | .unreadable _ | .putFailed _ | .uploadFailed _ | .uploadNotInitialized _ | .sizeMismatch ..
  | .deleteFailed _ | .listingFailed _ => .blobIO
  | .bulkDeleteFailed .. => .bulkDelete
  | .backend .. => .backend
  | .objectNotFound _ => .objectNotFound
  | .rejected _ => .rejected
  | .transport error => error.kind
  | .argument _ => .value
  | .state _ => .runtime
  | .shape error => shapeKind error
  | .template error => templateKind error
  | .wrongType _ => .type
  | .frozenField _ => .other "FrozenInstanceError"
  | .assertion _ => .assertion
  | .invalid _ => .validation
  | .malformedDocument => .document
  | .undecodable _ => .undecodable
  | .unencodable _ => .unencodable
  | .file error => error.kind
  | .raised kind .. => kind

def invalidHeadline (issues : List Issue) : String :=
  toString issues.length ++
    (if issues.length = 1 then " validation error" else " validation errors")
    ++ " for BlobStoreConfig"

def message : Problem -> String
  | .existenceUnknown blob => "Failed to check if blob [" ++ blob ++ "] exists"
  | .contentMissing blob reason => "Blob object [" ++ blob ++ "] not found: " ++ reason
  | .blobMissing blob => "Blob [" ++ blob ++ "] does not exist"
  | .unreadable blob => "Unable to read blob [" ++ blob ++ "]"
  | .putFailed key => "Unable to upload object [" ++ key ++ "] using a single upload"
  | .uploadFailed key => "Unable to upload object [" ++ key ++ "] using multipart upload"
  | .uploadNotInitialized key => "Failed to initialize multipart upload " ++ key
  -- Written in full whatever their length, as in the complaint about a short stream.
  | .sizeMismatch key expected sent =>
      "Failed to execute multipart upload for [" ++ key ++ "], expected " ++ toString expected
        ++ " bytes sent but got " ++ toString sent
  | .deleteFailed blob => "Exception when deleting blob [" ++ blob ++ "]"
  | .listingFailed selection =>
      "Exception when listing blobs by prefix [" ++ selection.getD "None" ++ "]"
  | .bulkDeleteFailed text _ => text
  | .backend text _ => text
  | .objectNotFound text => text
  | .rejected rejection => rejection.message
  | .transport error => error.message
  | .argument error => error.message
  | .state error => error.message
  | .shape error => error.message
  | .template error => error.message
  | .wrongType text => text
  | .frozenField field => "cannot assign to field '" ++ field ++ "'"
  | .assertion text => text
  | .invalid issues => invalidHeadline issues
  | .malformedDocument => ""
  | .undecodable text => text
  | .unencodable text => text
  | .file error => error.message
  | .raised .key [value] _ _ => value.quoted
  | .raised _ arguments _ _ => Value.argumentText arguments

def arguments : Problem -> List Value
  | .raised _ arguments _ _ => arguments
  | .shape (.missingKey key) => [.text key]
  | problem => [.text problem.message]

def blobName : Problem -> Value
  | .contentMissing blob _ | .blobMissing blob | .unreadable blob | .deleteFailed blob => .text blob
  | .putFailed key | .uploadFailed key | .uploadNotInitialized key | .sizeMismatch key _ _ =>
      .text key
  | .listingFailed selection => Value.ofText? selection
  | .raised _ _ blob _ => blob
  | _ => .null

def status : Problem -> Value
  | .backend _ (some status) => .int status
  | .objectNotFound _ => .int 404
  | .raised _ _ _ status => status
  | _ => .null

end Problem

/-- A failure.  The batches are those that a bulk deletion could not delete. -/
structure Failure where
  problem : Problem
  cause : Option Failure := none
  suppressed : List Failure := []
  notes : List String := []
  batches : List (DeleteBatch × Failure) := []
  deriving Repr

namespace Failure

def of (problem : Problem) : Failure :=
  { problem := problem }

def because (problem : Problem) (cause : Failure) : Failure :=
  { problem := problem, cause := some cause }

def kind (failure : Failure) : Kind :=
  failure.problem.kind

def isA (failure : Failure) (general : Kind) : Bool :=
  failure.kind.isA general

def message (failure : Failure) : String :=
  failure.problem.message

def quoted (failure : Failure) : String :=
  failure.kind.name ++ "(" ++ ", ".intercalate (Value.quotedItems failure.problem.arguments) ++ ")"

def suppress (failure other : Failure) : Failure :=
  { failure with suppressed := failure.suppressed ++ [other] }

def note (failure : Failure) (text : String) : Failure :=
  { failure with notes := failure.notes ++ [text] }

end Failure

end BlobDepot
