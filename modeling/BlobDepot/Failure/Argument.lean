import BlobDepot.Number.Literal

set_option autoImplicit false

namespace BlobDepot

inductive ArgumentError where
  | partSize
  | batchSize
  | segment (text : String)
  | partOrder (number expected : Int)
  | singleTooLarge (size limit : Int)
  | aboveBuffer (size : Int)
  | multipartTooLarge (size limit : Int)
  | multipartTooSmall (size limit : Int)
  | tooManyParts
  | noContinuation
  | byteSize (text : String)
  | sizeNotPositive
  | unsupportedStorageClass (name : String)
  | unknownStorageClass (text : String)
  | unknownCannedAcl (text : String)
  | addressingStyle (text : String)
  | bufferRange (buffer least most : Int)
  | notMapping (document : String)
  | logLevel (level : String)
  | dateField (reason : String)
  | codePoint
  | literal (error : Number.LiteralError)
  deriving Repr, DecidableEq

def ArgumentError.message : ArgumentError -> String
  | .partSize => "Part size must be greater than zero"
  | .batchSize => "Batch size must be greater than zero"
  | .segment text => "Invalid path segment: " ++ Text.quote text
  | .partOrder number expected =>
      "Out of order part " ++ toString number ++ " (expected " ++ toString expected ++ ")"
  | .singleTooLarge size limit =>
      "Upload request size [" ++ toString size ++ "] can't be larger than " ++ toString limit
  | .aboveBuffer size =>
      "Upload request size [" ++ toString size ++ "] can't be larger than buffer size"
  | .multipartTooLarge size limit =>
      "Multipart upload request size [" ++ toString size ++ "] can't be larger than "
        ++ toString limit
  | .multipartTooSmall size limit =>
      "Multipart upload request size [" ++ toString size ++ "] can't be smaller than "
        ++ toString limit
  | .tooManyParts => "Too many multipart upload requests, maybe try a larger buffer size?"
  | .noContinuation => "Listing page has no continuation"
  | .byteSize text => "Invalid byte size: " ++ Text.quote text
  | .sizeNotPositive => "size must be positive"
  | .unsupportedStorageClass name => "Storage class " ++ name ++ " is not supported"
  | .unknownStorageClass text => "Unknown storage class: " ++ text
  | .unknownCannedAcl text => "Unknown canned ACL: " ++ text
  | .addressingStyle text => "Invalid addressing style: " ++ text
  | .bufferRange buffer least most =>
      "buffer_size " ++ toString buffer ++ " must be between " ++ toString least ++ " and "
        ++ toString most
  | .notMapping document => "Expected a mapping in " ++ document
  | .logLevel level => "Invalid log level: " ++ level
  | .dateField reason => reason
  | .codePoint => "chr() arg not in range(0x110000)"
  | .literal error => error.message

end BlobDepot
