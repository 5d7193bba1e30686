import BlobDepot.Service.Body
import BlobDepot.Session

set_option autoImplicit false

namespace BlobDepot

structure UploadSettings where
  storageClass : Option String := none
  cannedAcl : Option String := none
  encrypted : Bool := false
  deriving Repr, DecidableEq

namespace UploadSettings

def sent (settings : UploadSettings) : UploadSettings :=
  { settings with
    storageClass := settings.storageClass.filter (· != "")
    cannedAcl := settings.cannedAcl.filter (· != "") }

end UploadSettings

inductive Method where
  | headObject
  | getObject
  | putObject
  | createUpload
  | uploadPart
  | completeUpload
  | abortUpload
  | deleteObject
  | deleteObjects
  | listObjects
  | connect
  | factory
  | close
  deriving Repr, DecidableEq

namespace Method

def name : Method -> String
  | .headObject => "head_object"
  | .getObject => "get_object"
  | .putObject => "put_object"
  | .createUpload => "create_multipart_upload"
  | .uploadPart => "upload_part"
  | .completeUpload => "complete_multipart_upload"
  | .abortUpload => "abort_multipart_upload"
  | .deleteObject => "delete_object"
  | .deleteObjects => "delete_objects"
  | .listObjects => "list_objects_v2"
  | .connect => "connect"
  | .factory => "factory"
  | .close => "close"

def all : List Method :=
  [.headObject, .getObject, .putObject, .createUpload, .uploadPart, .completeUpload, .abortUpload,
    .deleteObject, .deleteObjects, .listObjects, .connect, .factory, .close]

def ofName? (name : String) : Option Method :=
  all.find? (fun method => method.name == name)

def operation : Method -> String
  | .headObject => "HeadObject"
  | .getObject => "GetObject"
  | .putObject => "PutObject"
  | .createUpload => "CreateMultipartUpload"
  | .uploadPart => "UploadPart"
  | .completeUpload => "CompleteMultipartUpload"
  | .abortUpload => "AbortMultipartUpload"
  | .deleteObject => "DeleteObject"
  | .deleteObjects => "DeleteObjects"
  | .listObjects => "ListObjectsV2"
  | .connect | .factory | .close => "Op"

end Method

inductive Request where
  | headObject (bucket key : String)
  | getObject (bucket key : String)
  | putObject (bucket key : String) (body : Body) (length : Int) (settings : UploadSettings)
  | createUpload (bucket key : String) (settings : UploadSettings)
  | uploadPart (bucket key uploadId : String) (number : Int) (body : Body)
  | completeUpload (bucket key uploadId : String) (parts : List CompletedPart)
  | abortUpload (bucket key uploadId : String)
  | deleteObject (bucket key : String)
  | deleteObjects (bucket : String) (keys : List String) (quiet : Bool)
  | listObjects (bucket start : String) (token : Option Value)
  deriving Repr

namespace Request

def method : Request -> Method
  | .headObject .. => .headObject
  | .getObject .. => .getObject
  | .putObject .. => .putObject
  | .createUpload .. => .createUpload
  | .uploadPart .. => .uploadPart
  | .completeUpload .. => .completeUpload
  | .abortUpload .. => .abortUpload
  | .deleteObject .. => .deleteObject
  | .deleteObjects .. => .deleteObjects
  | .listObjects .. => .listObjects

/-- The length that a request states for its body: that of an object is the length that was asked
for, and that of a part is the length of what was read. -/
def contentLength? : Request -> Option Int
  | .putObject _ _ _ length _ => some length
  | .uploadPart _ _ _ _ body => some body.length
  | _ => none

def bucket : Request -> String
  | .headObject bucket _ | .getObject bucket _ | .putObject bucket .. | .createUpload bucket ..
  | .uploadPart bucket .. | .completeUpload bucket .. | .abortUpload bucket ..
  | .deleteObject bucket _ | .deleteObjects bucket .. | .listObjects bucket .. => bucket

end Request

inductive Call where
  | connect (endpoint region : Option String) (addressingStyle : String)
  | factory (bucket : String)
  | request (request : Request)
  | close (client : Nat)
  deriving Repr

def Call.method : Call -> Method
  | .connect .. => .connect
  | .factory _ => .factory
  | .request asked => asked.method
  | .close _ => .close

end BlobDepot
