import BlobDepot.Command.Options
import BlobDepot.Command.Request
import BlobDepot.Config.Environment
import BlobDepot.Config.File
import BlobDepot.Log.Level

set_option autoImplicit false

namespace BlobDepot.Command

structure Surroundings where
  environment : Table String := .empty
  givesOptions : Bool := false
  deriving Repr

structure Settings where
  bucket : Option String := none
  basePath : Option String := none
  endpointUrl : Option String := none
  document : Option String := none
  logLevel : String := "WARNING"
  deriving Repr, DecidableEq

namespace Settings

def forms : List OptionForm :=
  [⟨"--bucket", true⟩, ⟨"--base-path", true⟩, ⟨"--endpoint-url", true⟩, ⟨"--config", true⟩,
    ⟨"--log-level", true⟩, helpOption]

def value (surroundings : Surroundings) (words : Words) (option variableName : String) :
    Option String :=
  match words.values.get? option with
  | some given => some given
  | none =>
      if surroundings.givesOptions then
        Config.nonEmpty surroundings.environment ("BLOBSTORE_" ++ variableName)
      else none

def ofWords (surroundings : Surroundings) (words : Words) : Settings :=
  let value := value surroundings words
  { bucket := value "--bucket" "BUCKET"
    basePath := value "--base-path" "BASE_PATH"
    endpointUrl := value "--endpoint-url" "ENDPOINT_URL"
    document := value "--config" "CONFIG_FILE"
    logLevel :=
      (value "--log-level" "LOG_LEVEL").getD
        ((surroundings.environment.get? "LOG_LEVEL").getD "WARNING") }

def nonEmpty (text : Option String) : Option String :=
  text.filter (· != "")

def base (settings : Settings) (surroundings : Surroundings) (folder : Folder) :
    Except Failure Config :=
  match nonEmpty settings.document, nonEmpty settings.bucket with
  | some path, _ =>
      match folder.look path with
      | .file _ body => Config.ofDocument path (body.content?.getD [])
      | _ => .error (.of (.file (.notFound path)))
  | none, some bucket => Config.ofFields (.ofList [("bucket", .text bucket)])
  | none, none => Config.ofEnvironment surroundings.environment

/-- The fields that options set anew.  An empty base path is set, other empty texts are not. -/
def changes (settings : Settings) : List (String × Value) :=
  let field (name : String) (text : Option String) : List (String × Value) :=
    match text with
    | some content => [(name, .text content)]
    | none => []
  field "bucket" (nonEmpty settings.bucket) ++ field "base_path" settings.basePath
    ++ field "endpoint_url" (nonEmpty settings.endpointUrl)

def config (settings : Settings) (surroundings : Surroundings) (folder : Folder) :
    Except Failure Config := do
  let base <- settings.base surroundings folder
  if settings.changes.isEmpty then return base else base.override settings.changes

end Settings

end BlobDepot.Command
