import BlobDepot.Command.Run

set_option autoImplicit false

namespace BlobDepot.Main

def variableNames : List String :=
  ["BUCKET", "BASE_PATH", "ENDPOINT_URL", "REGION", "ADDRESSING_STYLE", "STORAGE_CLASS",
    "CANNED_ACL", "SERVER_SIDE_ENCRYPTION", "BUFFER_SIZE", "CONFIG_FILE", "LOG_LEVEL"].map
      ("BLOBSTORE_" ++ ·) ++ ["LOG_LEVEL"]

def readEnvironment : IO (Table String) :=
  variableNames.foldlM (fun known name => do
    match <- IO.getEnv name with
    | some value => return known.set name value
    | none => return known) .empty

def pathsOf (word : String) : List String :=
  let parts := Folder.parts (Folder.tidy ((Command.splitOption word).2.getD word))
  ((List.range parts.length).map (fun count => Folder.nameOf (parts.take (count + 1)))).filter
    (fun path => path != "" && path != "." && path != "..")

def readEntry (path : String) : IO (Option FolderEntry) := do
  try
    let content <- IO.FS.readBinFile path
    return some (.file (.bytes content.data.toList))
  catch error =>
    match error with
    | .noFileOrDirectory .. => return none
    | _ => return some .directory

def readFolder (words : List String) : IO Folder := do
  let entries <- (words.flatMap pathsOf).foldlM (fun known path => do
    match <- readEntry path with
    | some entry => return known.set path entry
    | none => return known) Table.empty
  return ⟨entries⟩

def writeFiles (files : List (String × Body)) : IO Unit :=
  files.forM (fun file =>
    IO.FS.writeBinFile file.1 ⟨(file.2.content?.getD []).toArray⟩)

def report (ending : Command.Ending) : IO Unit := do
  let errors <- IO.getStderr
  match ending.errorLine, ending.unexpected with
  | some line, _ => errors.putStrLn line
  | none, some failure => errors.putStrLn (failure.kind.name ++ ": " ++ failure.message)
  | none, none => pure ()

end BlobDepot.Main

open BlobDepot in
def main (arguments : List String) : IO UInt32 := do
  let environment <- Main.readEnvironment
  let document := (environment.get? "BLOBSTORE_CONFIG_FILE").toList
  let folder <- Main.readFolder (arguments ++ document)
  let (ending, left) := Command.run ⟨environment, true⟩ arguments { folder := folder }
  Main.writeFiles (left.folder.changedSince folder)
  let output <- IO.getStdout
  output.write ⟨left.output.toArray⟩
  output.flush
  Main.report ending
  return UInt32.ofNat ending.exitCode
