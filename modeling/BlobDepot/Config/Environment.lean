import BlobDepot.Config.Fields

set_option autoImplicit false

namespace BlobDepot.Config

def nonEmpty (environment : Table String) (name : String) : Option String :=
  (environment.get? name).filter (· != "")

def environmentFields (environment : Table String) (bucket : String) : List (String × Value) :=
  let setting (name fallback : String) : String := (environment.get? name).getD fallback
  [("bucket", .text bucket),
    ("base_path", .text (setting "BLOBSTORE_BASE_PATH" "")),
    ("endpoint_url", Value.ofText? (nonEmpty environment "BLOBSTORE_ENDPOINT_URL")),
    ("region", Value.ofText? (nonEmpty environment "BLOBSTORE_REGION")),
    ("addressing_style", .text (setting "BLOBSTORE_ADDRESSING_STYLE" "path")),
    ("storage_class", .text (setting "BLOBSTORE_STORAGE_CLASS" "STANDARD")),
    ("canned_acl", .text (setting "BLOBSTORE_CANNED_ACL" "private")),
    ("server_side_encryption",
      .bool (Text.lower (setting "BLOBSTORE_SERVER_SIDE_ENCRYPTION" "false") == "true"))]
    ++ match nonEmpty environment "BLOBSTORE_BUFFER_SIZE" with
       | some size => [("buffer_size", .text size)]
       | none => []

def ofEnvironment (environment : Table String) : Except Failure Config :=
  match nonEmpty environment "BLOBSTORE_BUCKET" with
  | none => .error (.of (.state .bucketUnset))
  | some bucket => ofFields (.ofList (environmentFields environment bucket))

end BlobDepot.Config
