import BlobDepot.Limits
import BlobDepot.Path
import BlobDepot.Service.Request

set_option autoImplicit false

namespace BlobDepot

inductive AddressingStyle where
  | path
  | virtual
  deriving Repr, DecidableEq

namespace AddressingStyle

def name : AddressingStyle -> String
  | .path => "path"
  | .virtual => "virtual"

def ofName? (name : String) : Option AddressingStyle :=
  [path, virtual].find? (fun style => style.name == name)

end AddressingStyle

inductive StorageClass where
  | intelligentTiering
  | oneZoneInfrequent
  | reducedRedundancy
  | standard
  | standardInfrequent
  deriving Repr, DecidableEq

namespace StorageClass

def name : StorageClass -> String
  | .intelligentTiering => "INTELLIGENT_TIERING"
  | .oneZoneInfrequent => "ONEZONE_IA"
  | .reducedRedundancy => "REDUCED_REDUNDANCY"
  | .standard => "STANDARD"
  | .standardInfrequent => "STANDARD_IA"

def all : List StorageClass :=
  [intelligentTiering, oneZoneInfrequent, reducedRedundancy, standard, standardInfrequent]

def ofName? (name : String) : Option StorageClass :=
  all.find? (fun storageClass => storageClass.name == name)

end StorageClass

inductive CannedAcl where
  | authenticatedRead
  | bucketOwnerFullControl
  | bucketOwnerRead
  | logDeliveryWrite
  | onlyOwner
  | publicRead
  | publicReadWrite
  deriving Repr, DecidableEq

namespace CannedAcl

def name : CannedAcl -> String
  | .authenticatedRead => "authenticated-read"
  | .bucketOwnerFullControl => "bucket-owner-full-control"
  | .bucketOwnerRead => "bucket-owner-read"
  | .logDeliveryWrite => "log-delivery-write"
  | .onlyOwner => "private"
  | .publicRead => "public-read"
  | .publicReadWrite => "public-read-write"

def all : List CannedAcl :=
  [authenticatedRead, bucketOwnerFullControl, bucketOwnerRead, logDeliveryWrite, onlyOwner,
    publicRead, publicReadWrite]

def ofName? (name : String) : Option CannedAcl :=
  all.find? (fun acl => acl.name == name)

end CannedAcl

/-- The fields of a configuration, each in order by itself; all sizes are positive. -/
structure ConfigDraft where
  bucket : String
  basePath : String := ""
  endpointUrl : Option String := none
  region : Option String := none
  addressingStyle : AddressingStyle := .path
  bufferSize : Nat := Limits.defaultBufferSize
  maxFileSize : Nat := Limits.maxFileSize
  maxMultipartSize : Nat := Limits.maxMultipartSize
  minMultipartSize : Nat := Limits.minPartSize
  storageClass : StorageClass := .standard
  cannedAcl : CannedAcl := .onlyOwner
  serverSideEncryption : Bool := false
  bufferSize_pos : 0 < bufferSize := by decide
  maxFileSize_pos : 0 < maxFileSize := by decide
  maxMultipartSize_pos : 0 < maxMultipartSize := by decide
  minMultipartSize_pos : 0 < minMultipartSize := by decide
  deriving Repr, DecidableEq

structure Config extends ConfigDraft where
  minMultipartSize_le : minMultipartSize <= bufferSize
  bufferSize_le : bufferSize <= maxFileSize
  deriving Repr, DecidableEq

namespace Config

def fields (config : Config) : List (String × Value) :=
  [("bucket", .text config.bucket),
    ("base_path", .text config.basePath),
    ("endpoint_url", Value.ofText? config.endpointUrl),
    ("region", Value.ofText? config.region),
    ("addressing_style", .text config.addressingStyle.name),
    ("buffer_size", .int config.bufferSize),
    ("max_file_size", .int config.maxFileSize),
    ("max_multipart_size", .int config.maxMultipartSize),
    ("min_multipart_size", .int config.minMultipartSize),
    ("storage_class", .text config.storageClass.name),
    ("canned_acl", .text config.cannedAcl.name),
    ("server_side_encryption", .bool config.serverSideEncryption)]

def basePathSegments (config : Config) : BlobPath :=
  .ofText config.basePath

def uploadSettings (config : Config) : UploadSettings :=
  { storageClass := some config.storageClass.name
    cannedAcl := some config.cannedAcl.name
    encrypted := config.serverSideEncryption }

end Config

end BlobDepot
