import BlobDepot.Config.Fields
import BlobDepot.Document
import BlobDepot.Text.Encoding

set_option autoImplicit false

namespace BlobDepot.Config

def fieldsOfEntries : List (Value × Value) -> Except Failure (List (String × Value))
  | [] => .ok []
  | (.text name, value) :: rest => do return (name, value) :: (<- fieldsOfEntries rest)
  | _ => .error (.of (.wrongType "keywords must be strings"))

def ofDocument (name : String) (content : List UInt8) : Except Failure Config := do
  let text <- (Text.decode content).mapError (fun error => .of (.undecodable error.message))
  let value <- (Document.read text).mapError Failure.of
  if value.isTruthy then
    match value with
    | .map entries => ofFields (.ofList (<- fieldsOfEntries entries))
    | _ => throw (.of (.argument (.notMapping name)))
  else
    ofFields .empty

end BlobDepot.Config
