import BlobDepot.Failure.Argument
import BlobDepot.Value

set_option autoImplicit false

namespace BlobDepot

structure CompletedPart where
  number : Int
  tag : Value
  deriving Repr

structure UploadedPart where
  part : CompletedPart
  size : Int
  deriving Repr

structure ActiveSession where
  bucket : String
  key : String
  uploadId : String
  parts : List CompletedPart := []
  bytesSent : Int := 0
  deriving Repr

namespace ActiveSession

def nextNumber (session : ActiveSession) : Int :=
  (session.parts.length : Int) + 1

def addPart
    (session : ActiveSession)
    (uploaded : UploadedPart) : Except ArgumentError ActiveSession :=
  if uploaded.part.number = session.nextNumber then
    .ok { session with
      parts := session.parts ++ [uploaded.part]
      bytesSent := session.bytesSent + uploaded.size }
  else
    .error (.partOrder uploaded.part.number session.nextNumber)

end ActiveSession

end BlobDepot
