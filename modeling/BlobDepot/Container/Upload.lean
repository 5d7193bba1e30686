import BlobDepot.Container
import BlobDepot.Plan

set_option autoImplicit false

namespace BlobDepot

open BlobDepot.Action

inductive UploadProgress where
  | notStarted
  | active (session : ActiveSession)
  | completed
  deriving Repr

namespace Container

def bufferSize (container : Container) : Int :=
  container.store.config.bufferSize

def uploadSingle (container : Container) (key : String) (size : Int) : Action Unit := do
  let config := container.store.config
  if size > config.maxFileSize then
    fail (.argument (.singleTooLarge size config.maxFileSize))
  if size > config.bufferSize then
    fail (.argument (.aboveBuffer size))
  let put :=
    container.store.borrowing (Client.putObject config.bucket key size config.uploadSettings)
  match <- attempt put with
  | .ok () =>
      count (fun metrics => (metrics.countUpload .single .success).countBytes size .single)
      log "debug" "single_upload_completed"
        [("bucket", .text config.bucket), ("key", .text key), ("size", .int size)]
  | .error failure =>
      -- Only what the client reports is counted; a closed store, say, is not.
      if failure.isA .backend then
        count (fun metrics => metrics.countUpload .single .failure)
        throw (.because (.putFailed key) failure)
      else
        throw failure

def initiate (container : Container) (key : String) : Action ActiveSession := do
  let config := container.store.config
  let uploadId <- Client.initiateUpload config.bucket key config.uploadSettings
  if uploadId = "" then
    fail (.uploadNotInitialized key)
  else
    return { bucket := config.bucket, key := key, uploadId := uploadId }

def uploadNext (session : ActiveSession) (size : Int) : Action ActiveSession := do
  let uploaded <-
    Client.uploadPart session.bucket session.key session.uploadId session.nextNumber size
  count (fun metrics => { metrics with partSizes := metrics.partSizes ++ [uploaded.size] })
  checked (session.addPart uploaded)

def uploadParts
    (plan : PartPlan)
    (partSize : Int) : Nat -> ActiveSession -> Action (ActiveSession × Except Failure Unit)
  | 0, session => return (session, .ok ())
  | left + 1, session => do
      match <- attempt (uploadNext session (plan.partSizeFor session.nextNumber partSize)) with
      | .ok extended => uploadParts plan partSize left extended
      -- The session comes back as far as it got, for the abort.
      | .error failure => return (session, .error failure)

def complete (session : ActiveSession) (size : Int) : Action Unit := do
  if session.bytesSent = size then
    Client.completeUpload session.bucket session.key session.uploadId session.parts
  else
    fail (.sizeMismatch session.key size session.bytesSent)

/-- Upload a blob by a plan, and tell how far the upload came. -/
def followPlan
    (container : Container)
    (key : String)
    (size : Int)
    (plan : PartPlan) : Action (UploadProgress × Except Failure ActiveSession) := do
  match <- attempt (initiate container key) with
  | .error failure => return (.notStarted, .error failure)
  | .ok session =>
      log "info" "multipart_upload_started"
        [("bucket", .text session.bucket),
          ("key", .text key),
          ("upload_id", .text session.uploadId),
          ("parts", .int plan.partCount),
          ("size", .int size)]
      let (session, outcome) <-
        uploadParts plan container.bufferSize plan.partCount.toNat session
      match outcome with
      | .error failure => return (.active session, .error failure)
      | .ok () =>
          match <- attempt (complete session size) with
          | .error failure => return (.active session, .error failure)
          | .ok () => return (.completed, .ok session)

def borrowForPlan
    (container : Container)
    (key : String)
    (size : Int)
    (plan : PartPlan) : Action (UploadProgress × Except Failure ActiveSession) := do
  match <- attempt container.store.acquire with
  | .error failure => return (.notStarted, .error failure)
  | .ok reference =>
      -- The client is given back before an upload that failed is aborted.
      let (progress, outcome) <- followPlan container key size plan
      match <- attempt (Reference.release reference) with
      | .ok _ => return (progress, outcome)
      | .error failure => return (progress, .error failure)

def attachAbort (uploadId : String) (failure abort : Failure) : Failure :=
  if failure.isA .blobIO then
    failure.suppress abort
  else
    failure.note ("Failed to abort multipart upload " ++ uploadId ++ ": " ++ abort.quoted)

/-- Abort an upload that was started and not completed, and give the failure that led to this. -/
def abort
    (container : Container)
    (progress : UploadProgress)
    (failure : Failure) : Action Failure := do
  match progress with
  -- There is nothing to abort.
  | .notStarted | .completed => return failure
  | .active session =>
      let place :=
        [("bucket", Value.text session.bucket),
          ("key", .text session.key),
          ("upload_id", .text session.uploadId)]
      let work :=
        container.store.borrowing
          (Client.abortUpload session.bucket session.key session.uploadId)
      match <- attempt work with
      | .ok () =>
          count (fun metrics => metrics.countAbort .success)
          log "warning" "multipart_upload_aborted"
            (place ++
              [("parts_uploaded", .int session.parts.length), ("error", .text failure.message)])
          return failure
      | .error abort =>
          if abort.isA .ordinary then
            count (fun metrics => metrics.countAbort .failure)
            log "warning" "multipart_upload_abort_failed"
              (place ++ [("error", .text abort.message)])
            return attachAbort session.uploadId failure abort
          else
            throw abort

def uploadFailure (key : String) (failure : Failure) : Failure :=
  if failure.isA .backend then .of (.uploadFailed key) else failure

def withUploadCause (reported failure : Failure) : Failure :=
  if failure.isA .backend then { reported with cause := some failure } else reported

def uploadMultipart (container : Container) (key : String) (size : Int) : Action Unit := do
  let config := container.store.config
  if size > config.maxMultipartSize then
    fail (.argument (.multipartTooLarge size config.maxMultipartSize))
  if size < config.minMultipartSize then
    fail (.argument (.multipartTooSmall size config.minMultipartSize))
  let plan <- checked (PartPlan.ofSizes size container.bufferSize)
  -- The largest size that is allowed may still take too many parts of the buffer's size.
  if plan.partCount > Limits.partCount then
    fail (.argument .tooManyParts)
  if plan.totalSize container.bufferSize ≠ size then
    fail (.assertion "blob size does not match multipart sizes")
  let (progress, outcome) <- borrowForPlan container key size plan
  match outcome with
  | .ok session =>
      count (fun metrics =>
        (metrics.countUpload .multipart .success).countBytes size .multipart)
      log "info" "multipart_upload_completed"
        [("bucket", .text session.bucket),
          ("key", .text key),
          ("upload_id", .text session.uploadId)]
  | .error failure =>
      let reported <- abort container progress (uploadFailure key failure)
      count (fun metrics => metrics.countUpload .multipart .failure)
      throw (withUploadCause reported failure)

def writeBlob
    (container : Container)
    (name : String)
    (size : Int)
    (failIfExists : Bool) : Action Unit := do
  -- The service replaces objects in any case, so the wish is only logged.
  if failIfExists then
    log "debug" "fail_if_already_exists_ignored" [("blob", .text name)]
  let key := container.key name
  if size <= container.bufferSize then
    uploadSingle container key size
  else
    uploadMultipart container key size

def writeBlobBytes
    (container : Container)
    (name : String)
    (body : Body)
    (failIfExists : Bool) : Action Unit := do
  modify (fun depot => { depot with source := .ofBody body })
  writeBlob container name body.length failIfExists

end Container

end BlobDepot
