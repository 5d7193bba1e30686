import BlobDepot.Client.Reported
import BlobDepot.Depot.Lifecycle

set_option autoImplicit false

namespace BlobDepot

open BlobDepot.Action

structure ListingPage where
  bucket : String
  start : String
  entries : List (Value × Int)
  truncated : Bool
  token : Value
  deriving Repr

/-- The content of an object as the service hands it out, which should be a stream. -/
inductive Content where
  | stream (body : Body)
  | other (value : Value)
  deriving Repr

def Content.read : Content -> Action Body
  | .stream body => pure body
  | .other value => fail (.shape (.noMember value.kindName "read"))

def Answer.description : Answer -> Value
  | .data value => value
  | .content _ => .map []

namespace Client

def ask (request : Request) (doing : String) : Action Answer := do
  match <- attempt (send request) with
  | .ok answer => return answer
  | .error failure =>
      throw (if failure.fromService then failure.reported doing else failure)

def absent (failure : Failure) : Except ShapeError Bool :=
  match failure.problem with
  | .rejected rejection => rejection.meansAbsent
  | _ => .ok false

def objectExists (bucket key : String) : Action Bool := do
  match <- attempt (send (.headObject bucket key)) with
  | .ok _ => return true
  | .error failure =>
      if failure.fromService then
        if (<- shaped (absent failure)) then
          return false
        else
          throw (failure.reported "Failed to get object metadata")
      else
        throw failure

def getObject (bucket key : String) : Action Content := do
  match <- ask (.getObject bucket key) "Failed to get object" with
  | .content body => return .stream body
  -- The service hands out a description only where the schedule changes its answer.
  | .data value => return .other (<- shaped (value.entry "Body"))

def readSource (size : Int) : Action Body := do
  -- The stream may close the store before it gives anything.
  if (<- get).source.nextEvent.closesStore then
    Store.close
  let depot <- get
  let (outcome, source) := depot.source.read size
  set { depot with source := source }
  record (.read size outcome)
  settle outcome

/-- The complaint that a stream is shorter than it should be.  It writes both numbers in full, those
of more than `Number.digitLimit` digits too: streams of that length are not represented. -/
def shortStream (sent : Nat) (length : Int) : Problem :=
  .backend ("Stream ended after " ++ toString sent ++ " of " ++ toString length ++ " bytes") none

def putObject (bucket key : String) (length : Int) (settings : UploadSettings) : Action Unit := do
  let body <- readSource length
  if (body.length : Int) = length then
    let _ <- ask (.putObject bucket key body length settings.sent) "Failed to put object"
  else
    fail (shortStream body.length length)

def initiateUpload (bucket key : String) (settings : UploadSettings) : Action String := do
  let answer <-
    ask (.createUpload bucket key settings.sent) "Failed to create multipart upload"
  -- An answer without an identifier counts as one with an empty identifier.
  match <- shaped (answer.description.findEntry "UploadId") with
  | some value => return if value.isTruthy then value.plain else ""
  | none => return ""

def uploadPart
    (bucket key uploadId : String)
    (number size : Int) : Action UploadedPart := do
  let body <- readSource size
  let answer <-
    ask (.uploadPart bucket key uploadId number body)
      ("Failed to upload part " ++ toString number)
  let tag <- shaped (answer.description.entry "ETag")
  return ⟨⟨number, tag⟩, body.length⟩

def completeUpload (bucket key uploadId : String) (parts : List CompletedPart) : Action Unit := do
  let _ <-
    ask (.completeUpload bucket key uploadId parts) "Failed to complete multipart upload"

def abortUpload (bucket key uploadId : String) : Action Unit := do
  let _ <- ask (.abortUpload bucket key uploadId) "Failed to abort multipart upload"

def deleteObject (bucket key : String) : Action Unit := do
  let _ <- ask (.deleteObject bucket key) "Failed to delete object"

def complaintText (complaint : Value) : Except ShapeError String := do
  let key := (<- complaint.findEntry "Key").getD .null
  let code := (<- complaint.findEntry "Code").getD .null
  return key.plain ++ " (" ++ code.plain ++ ")"

def complaintsText (complaints : Value) : Except ShapeError String := do
  -- All complaints are counted, and the first ten of them are told in detail.
  let shown <- complaints.takeItems 10
  let details <- shown.mapM complaintText
  return "Failed to delete " ++ toString complaints.size ++ " objects: "
    ++ ", ".intercalate details

def bulkDelete (bucket : String) (keys : List String) (quiet : Bool) : Action Unit := do
  let answer <- ask (.deleteObjects bucket keys quiet) "Failed to delete objects"
  -- An answer may complain of single keys although the request did not fail.
  match <- shaped (answer.description.findEntry "Errors") with
  | some complaints =>
      if complaints.isTruthy then
        fail (.backend (<- shaped (complaintsText complaints)) none)
  | none => pure ()

def listed (entry : Value) : Except ShapeError (Value × Int) := do
  let key <- entry.entry "Key"
  let size <- ((<- entry.findEntry "Size").getD (.int 0)).toInteger
  return (key, size)

def pageOf (bucket start : String) (answer : Value) : Except ShapeError ListingPage := do
  let contents := (<- answer.findEntry "Contents").getD (.list [])
  let entries <- (<- contents.items).mapM listed
  return {
    bucket := bucket
    start := start
    entries := entries
    truncated := ((<- answer.findEntry "IsTruncated").getD .null).isTruthy
    token := (<- answer.findEntry "NextContinuationToken").getD .null }

def listPage (bucket start : String) (token : Option Value) : Action ListingPage := do
  let answer <- ask (.listObjects bucket start token) "Failed to list objects"
  shaped (pageOf bucket start answer.description)

def listObjects (bucket start : String) : Action ListingPage :=
  listPage bucket start none

def listNext (page : ListingPage) : Action ListingPage :=
  if page.truncated && page.token.isTruthy then
    listPage page.bucket page.start (some page.token)
  else
    fail (.argument .noContinuation)

end Client

end BlobDepot
