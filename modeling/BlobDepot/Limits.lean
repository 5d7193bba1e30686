import BlobDepot.Value

set_option autoImplicit false

namespace BlobDepot.Limits

def kilobyte : Nat := 1024

def megabyte : Nat := 1024 * kilobyte

def gigabyte : Nat := 1024 * megabyte

def terabyte : Nat := 1024 * gigabyte

def bulkDeletes : Nat := 1000

def minPartSize : Nat := 5 * megabyte

def maxPartSize : Nat := 5 * gigabyte

def maxMultipartSize : Nat := 5 * terabyte

def maxFileSize : Nat := 5 * gigabyte

def defaultBufferSize : Nat := 100 * megabyte

/-- The most parts of an upload: part numbers fit a signed word of 32 bits. -/
def partCount : Nat := Nat.pow 2 31 - 1

theorem defaultBufferSize_pos : 0 < defaultBufferSize := by decide

theorem maxFileSize_pos : 0 < maxFileSize := by decide

theorem maxMultipartSize_pos : 0 < maxMultipartSize := by decide

theorem minPartSize_pos : 0 < minPartSize := by decide

def encryptionAlgorithm : String := "AES256"

def supportedStorageClasses : List String :=
  ["INTELLIGENT_TIERING", "ONEZONE_IA", "REDUCED_REDUNDANCY", "STANDARD", "STANDARD_IA"]

def unsupportedStorageClasses : List String :=
  ["DEEP_ARCHIVE", "GLACIER"]

def cannedAcls : List String :=
  ["authenticated-read", "bucket-owner-full-control", "bucket-owner-read", "log-delivery-write",
    "private", "public-read", "public-read-write"]

def nameList (names : List String) : Value :=
  .list (names.map .text)

def named? : String -> Option Value
  | "KB" => some (.int kilobyte)
  | "MB" => some (.int megabyte)
  | "GB" => some (.int gigabyte)
  | "TB" => some (.int terabyte)
  | "MAX_BULK_DELETES" => some (.int bulkDeletes)
  | "MIN_PART_SIZE_USING_MULTIPART" => some (.int minPartSize)
  | "MAX_PART_SIZE_USING_MULTIPART" => some (.int maxPartSize)
  | "MAX_FILE_SIZE_USING_MULTIPART" => some (.int maxMultipartSize)
  | "MAX_FILE_SIZE" => some (.int maxFileSize)
  | "DEFAULT_BUFFER_SIZE" => some (.int defaultBufferSize)
  | "MAX_PART_COUNT" => some (.int partCount)
  | "SSE_ALGORITHM" => some (.text encryptionAlgorithm)
  | "SUPPORTED_STORAGE_CLASSES" => some (nameList supportedStorageClasses)
  | "UNSUPPORTED_STORAGE_CLASSES" => some (nameList unsupportedStorageClasses)
  | "CANNED_ACLS" => some (nameList cannedAcls)
  | _ => none

end BlobDepot.Limits
