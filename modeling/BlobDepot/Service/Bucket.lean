import BlobDepot.Failure
import BlobDepot.Service.Request
import BlobDepot.Table

set_option autoImplicit false

namespace BlobDepot

inductive Answer where
  | data (value : Value)
  | content (body : Body)
  deriving Repr

structure Service where
  buckets : Table (Table Body) := .empty
  uploads : Table (List (Int × Body)) := .empty
  started : Nat := 0
  pageSize : Nat := 1000
  deriving Repr, Inhabited

namespace Service

def objects (service : Service) (bucket : String) : Table Body :=
  (service.buckets.get? bucket).getD .empty

def setObjects (service : Service) (bucket : String) (objects : Table Body) : Service :=
  { service with buckets := service.buckets.set bucket objects }

def get? (service : Service) (bucket key : String) : Option Body :=
  (service.objects bucket).get? key

def storePart (number : Int) (body : Body) : List (Int × Body) -> List (Int × Body)
  | [] => [(number, body)]
  | (other, old) :: rest =>
      -- A part takes the place of an older part of its number.
      if other = number then (number, body) :: rest
      else (other, old) :: storePart number body rest

def partBody? (parts : List (Int × Body)) (number : Int) : Option Body :=
  (parts.find? (fun part => part.1 == number)).map Prod.snd

def keysFrom (objects : Table Body) (start : String) : List String :=
  (objects.names.filter (fun key => start.toList.isPrefixOf key.toList)).mergeSort
    (fun left right => !(right < left))

def tokenIndex? : Option Value -> Option Nat
  -- The first page has no token.
  | none => some 0
  | some (.text token) =>
      let chars := token.toList
      if !chars.isEmpty && chars.all Text.isBasicDigit then
        some (Text.ofDigits (chars.filterMap Text.digitValue?))
      else none
  | some _ => none

def page (objects : Table Body) (start : String) (index pageSize : Nat) : Value :=
  let keys := keysFrom objects start
  let shown := (keys.drop index).take pageSize
  let describe (key : String) : Value :=
    .ofFields [("Key", .text key), ("Size", .int ((objects.get? key).map Body.length |>.getD 0))]
  let next := index + pageSize
  let more := next < keys.length
  .ofFields ([("Contents", .list (shown.map describe)), ("IsTruncated", .bool more)]
    ++ if more then [("NextContinuationToken", .text (toString next))] else [])

def noSuchUpload (method : Method) : Rejection :=
  .of method.operation "NoSuchUpload" "The specified upload does not exist." 404

def reach (service : Service) (bucket : String) : Service :=
  service.setObjects bucket (service.objects bucket)

def reachesBucket : Request -> Bool
  -- Parts belong to an upload, and to a bucket only once the upload is completed.
  | .createUpload .. | .uploadPart .. | .completeUpload .. | .abortUpload .. => false
  | _ => true

def perform (service : Service) (request : Request) : Except Rejection Answer × Service :=
  let service := if reachesBucket request then service.reach request.bucket else service
  let objects := service.objects request.bucket
  let operation := request.method.operation
  match request with
  | .headObject _ key =>
      match objects.get? key with
      | none => (.error (.of operation "404" "Not Found" 404), service)
      | some body => (.ok (.data (.ofFields [("ContentLength", .int body.length)])), service)
  | .getObject _ key =>
      match objects.get? key with
      | none =>
          (.error (.of operation "NoSuchKey" "The specified key does not exist." 404), service)
      | some body => (.ok (.content body), service)
  | .putObject bucket key body _ _ =>
      (.ok (.data (.map [])), service.setObjects bucket (objects.set key body))
  | .createUpload _ _ _ =>
      let uploadId := "upload-" ++ toString (service.started + 1)
      (.ok (.data (.ofFields [("UploadId", .text uploadId)])),
        { service with
          started := service.started + 1
          uploads := service.uploads.set uploadId [] })
  | .uploadPart _ _ uploadId number body =>
      match service.uploads.get? uploadId with
      | none => (.error (noSuchUpload request.method), service)
      | some parts =>
          (.ok (.data (.ofFields [("ETag", .text ("\"etag-" ++ toString number ++ "\""))])),
            { service with uploads := service.uploads.set uploadId (storePart number body parts) })
  | .completeUpload bucket key uploadId listed =>
      match service.uploads.get? uploadId with
      | none => (.error (noSuchUpload request.method), service)
      | some parts =>
          match listed.mapM (fun part => partBody? parts part.number) with
          | none => (.error (.of operation "InvalidPart" "A part could not be found." 400), service)
          | some bodies =>
              (.ok (.data (.map [])),
                { service.setObjects bucket (objects.set key (Body.join bodies)) with
                  uploads := service.uploads.erase uploadId })
  | .abortUpload _ _ uploadId =>
      match service.uploads.get? uploadId with
      | none => (.error (noSuchUpload request.method), service)
      | some _ =>
          (.ok (.data (.map [])), { service with uploads := service.uploads.erase uploadId })
  | .deleteObject bucket key =>
      (.ok (.data (.map [])), service.setObjects bucket (objects.erase key))
  | .deleteObjects bucket keys _ =>
      (.ok (.data (.map [])), service.setObjects bucket (objects.eraseAll keys))
  | .listObjects _ start token =>
      match tokenIndex? token with
      | none =>
          (.error (.of operation "InvalidArgument"
            "The continuation token provided is incorrect" 400), service)
      | some index => (.ok (.data (page objects start index service.pageSize)), service)

end Service

end BlobDepot
