import BlobDepot.Command.Settings
import BlobDepot.Container.Upload

set_option autoImplicit false

namespace BlobDepot.Command

structure Shell where
  depot : Depot := {}
  folder : Folder := {}
  output : List UInt8 := []
  deriving Inhabited

abbrev Step (α : Type) : Type :=
  ExceptT Ending (StateM Shell) α

namespace Step

variable {α : Type}

def attempt (action : Action α) : Step (Except Failure α) :=
  fun shell =>
    let (outcome, depot) := action shell.depot
    (.ok outcome, { shell with depot := depot })

def orFail : Except Failure α -> Step α
  | .ok result => pure result
  | .error failure => throw (.failed failure)

def act (action : Action α) : Step α := do
  orFail (<- attempt action)

def orRefuse : Except UsageError α -> Step α
  | .ok result => pure result
  | .error error => throw (.refused error)

def orEnd : Except Ending α -> Step α
  | .ok result => pure result
  | .error ending => throw ending

def print (bytes : List UInt8) : Step Unit :=
  modify (fun shell => { shell with output := shell.output ++ bytes })

/-- Print lines, without marks for a terminal.  What the service and the arguments name is whole
text, so no line holds half a character. -/
def printLines (lines : List String) : Step Unit :=
  print (Text.encode (String.join (lines.map (fun line => Text.dropMarks line ++ "\n"))))

end Step

open Step

def aligned (width : Nat) (number : Int) : String :=
  let digits := toString number
  String.ofList (List.replicate (width - digits.length) ' ') ++ digits

def listingLines (listing : Container.Listing) : List String :=
  let sorted := listing.entries.mergeSort (fun left right => !(right.1 < left.1))
  sorted.map (fun entry => aligned 14 entry.2 ++ "  " ++ entry.1)

def contentBytes : Content -> Except Failure (List UInt8)
  | .stream (.bytes content) => .ok content
  | .stream (.virtual length _) =>
      if length = 0 then .ok []
      else .error (.of (.wrongType "a bytes-like object is required, not 'Virtual'"))
  | .other value => .error (.of (.shape (.noMember value.kindName "close")))

def makeFile (path : String) : Step (Except Failure String) :=
  fun shell =>
    match shell.folder.make path with
    | .ok (name, folder) => (.ok (.ok name), { shell with folder := folder })
    | .error error => (.ok (.error (.of (.file error))), shell)

/-- Copy a content to a file.  The file is made first, and that a content is no stream shows only
when it should be closed. -/
def copyToFile (content : Content) (path : String) : Step Unit := do
  let made <- makeFile path
  match content, made with
  | .other _, _ | _, .ok _ => do
      let bytes <- orFail (contentBytes content)
      let name <- orFail made
      modify (fun shell => { shell with folder := shell.folder.fill name bytes })
  | _, .error failure => throw (.failed failure)

def perform (container : Container) : Request -> Step Unit
  | .list start => do
      printLines (listingLines (<- act (container.listBlobs start)))
  | .put blob source => do
      match (<- get).folder.look source with
      | .file _ body => do
          modify (fun shell => { shell with depot := { shell.depot with source := .ofBody body } })
          act (container.writeBlob blob body.length false)
          printLines ["uploaded " ++ blob ++ " (" ++ toString body.length ++ " bytes)"]
      | _ => throw (.failed (.of (.file (.notFound source))))
  | .get blob target => do
      match <- attempt (container.readBlob blob) with
      | .error failure =>
          if failure.isA .blobNotFound then throw (.complaint failure.message)
          else throw (.failed failure)
      | .ok content =>
          match target with
          | some path => copyToFile content path
          | none => print (<- orFail (contentBytes content))
  | .remove blobs => do
      match <- attempt (container.deleteBlobsIfExist blobs) with
      | .error failure =>
          if failure.isA .blobStore then throw (.complaint failure.message)
          else throw (.failed failure)
      | .ok () => printLines ["deleted " ++ toString blobs.length ++ " blob(s)"]
  | .check blob => do
      let found <- act (container.blobExists blob)
      printLines [if found then "yes" else "no"]
      throw (.finished found)

def readSettings (surroundings : Surroundings) (arguments : List String) :
    Step (Settings × List String) := do
  let words <- orRefuse (readWords Settings.forms false {} arguments)
  if words.help then
    throw (.finished true)
  let settings := Settings.ofWords surroundings words
  match settings.document with
  | some path => orEnd (requireFile (<- get).folder "--config" path)
  | none => pure ()
  return (settings, words.others)

def readVerb (surroundings : Surroundings) (words : List String) : Step (Verb × List String) :=
  match words with
  | [] => throw (.refused .commandMissing)
  | name :: rest =>
      match Verb.ofName? name with
      | some verb => return (verb, rest)
      | none => do
          let _ <- readSettings surroundings words
          throw (.refused
            (.unknownCommand name (Text.similarWords name (Verb.all.map Verb.name))))

def readConfig (surroundings : Surroundings) (settings : Settings) : Step Config := do
  let _ <- orFail (Log.readLevelName settings.logLevel)
  match settings.config surroundings (<- get).folder with
  | .ok config => return config
  | .error failure =>
      if failure.isA .runtime || failure.isA .value then
        throw (.refused (.configuration failure.message))
      else throw (.failed failure)

def runVerb (container : Container) (verb : Verb) (arguments : List String) : Step Unit := do
  let words <- orRefuse (readWords [helpOption] true {} arguments)
  if words.help then
    throw (.finished true)
  let request <- orEnd (Request.ofWords (<- get).folder verb words.others)
  perform container request

def withStore (config : Config) (work : Container -> Step Unit) : Step Unit :=
  fun shell =>
    let context : Table Value :=
      .ofList [("bucket", .text config.bucket), ("base_path", .text config.basePath)]
    let opened : Depot :=
      { shell.depot with
        current := none
        closed := false
        journal := { shell.depot.journal with context := context } }
    let store : Store := { config := config }
    let (ending, worked) := work (Container.ofStore store none) { shell with depot := opened }
    let (closing, depot) := Store.close worked.depot
    let left : Depot := { depot with journal := { depot.journal with context := .empty } }
    (match closing with
      | .ok () => ending
      | .error failure => .error (.failed failure), { worked with depot := left })

def runLine (surroundings : Surroundings) (arguments : List String) : Step Unit := do
  if arguments.isEmpty then
    throw .nothingAsked
  let (settings, words) <- readSettings surroundings arguments
  let (verb, rest) <- readVerb surroundings words
  let config <- readConfig surroundings settings
  withStore config (fun container => runVerb container verb rest)

def run (surroundings : Surroundings) (arguments : List String) (shell : Shell) :
    Ending × Shell :=
  match runLine surroundings arguments { shell with output := [] } with
  | (.ok (), left) => (.finished true, left)
  | (.error ending, left) => (ending, left)

end BlobDepot.Command
