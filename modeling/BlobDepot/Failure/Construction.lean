import BlobDepot.Failure

set_option autoImplicit false

namespace BlobDepot.Failure

def raised (kind : Kind) (arguments : List Value) (blob status : Value) : Failure :=
  .of (.raised kind arguments blob status)

def nameList : List String -> String
  | [] => ""
  | [name] => Text.quote name
  | [first, second] => Text.quote first ++ " and " ++ Text.quote second
  | first :: rest => Text.quote first ++ ", " ++ nameList rest

def argumentsMissing (kind : Kind) (names : List String) : Failure :=
  .of (.wrongType (kind.name ++ ".__init__() missing " ++ toString names.length
    ++ " required positional argument" ++ (if names.length = 1 then "" else "s") ++ ": "
    ++ nameList names))

/-- The complaint that there are too many arguments.  The failure itself counts as one. -/
def argumentsTooMany (kind : Kind) (least most given : Nat) : Failure :=
  let range :=
    if least = most then toString (most + 1)
    else "from " ++ toString (least + 1) ++ " to " ++ toString (most + 1)
  .of (.wrongType (kind.name ++ ".__init__() takes " ++ range ++ " positional arguments but "
    ++ toString (given + 1) ++ " were given"))

def construct (kind : Kind) (arguments : List Value) : Failure :=
  match kind, arguments with
  | .blobIO, [] | .blobNotFound, [] | .backend, [] | .objectNotFound, [] =>
      argumentsMissing kind ["message"]
  | .blobIO, [message] | .blobNotFound, [message] => raised kind [message] .null .null
  | .blobIO, [message, blob] | .blobNotFound, [message, blob] => raised kind [message] blob .null
  | .backend, [message] => raised kind [message] .null .null
  | .backend, [message, status] => raised kind [message] .null status
  | .blobIO, values | .blobNotFound, values | .backend, values =>
      argumentsTooMany kind 1 2 values.length
  | .objectNotFound, [message] => raised kind [message] .null (.int 404)
  | .objectNotFound, values => argumentsTooMany kind 1 1 values.length
  | .bulkDelete, [] => argumentsMissing kind ["message", "result"]
  | .bulkDelete, [_] => argumentsMissing kind ["result"]
  | .bulkDelete, [_, result] => .of (.shape (.noMember result.kindName "secondary"))
  | .bulkDelete, values => argumentsTooMany kind 2 2 values.length
  | kind, values => raised kind values .null .null

end BlobDepot.Failure
