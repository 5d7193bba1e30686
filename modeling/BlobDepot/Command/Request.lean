import BlobDepot.Command.Ending
import BlobDepot.Folder

set_option autoImplicit false

namespace BlobDepot.Command

inductive Verb where
  | list
  | put
  | get
  | remove
  | check
  deriving Repr, DecidableEq

namespace Verb

def name : Verb -> String
  | .list => "ls"
  | .put => "put"
  | .get => "get"
  | .remove => "rm"
  | .check => "exists"

def all : List Verb :=
  [check, get, list, put, remove]

def ofName? (name : String) : Option Verb :=
  all.find? (fun verb => verb.name == name)

end Verb

inductive Request where
  | list (start : Option String)
  | put (blob source : String)
  | get (blob : String) (target : Option String)
  | remove (blobs : List String)
  | check (blob : String)
  deriving Repr, DecidableEq

abbrev Checked (α : Type) : Type :=
  Except Ending α

def refuse {α : Type} (error : UsageError) : Checked α :=
  .error (.refused error)

def required (parameter : String) (words : List String) (index : Nat) : Checked String :=
  match words[index]? with
  | some word => .ok word
  | none => refuse (.argumentMissing parameter)

def noMore (words : List String) : Checked Unit :=
  if words.isEmpty then .ok () else refuse (.argumentsLeft words)

def lookAt (folder : Folder) (path : String) : Checked Place :=
  if path.toList.contains (Char.ofNat 0) then
    .error (.failed (.of (.raised .value [.text "embedded null byte"] .null .null)))
  else
    .ok (folder.look path)

def refuseDirectory (folder : Folder) (parameter path : String) : Checked Unit := do
  match <- lookAt folder path with
  | .directory _ => refuse (.fileIsDirectory parameter path)
  | _ => return ()

def requireFile (folder : Folder) (parameter path : String) : Checked Unit := do
  match <- lookAt folder path with
  | .directory _ => refuse (.fileIsDirectory parameter path)
  | .file .. => return ()
  | _ => refuse (.fileMissing parameter path)

def Request.ofWords (folder : Folder) (verb : Verb) (words : List String) :
    Checked Request :=
  match verb with
  | .list => do
      noMore (words.drop 1)
      return .list words.head?
  | .put => do
      let blob <- required "NAME" words 0
      let source <- required "SOURCE" words 1
      requireFile folder "SOURCE" source
      noMore (words.drop 2)
      return .put blob source
  | .get => do
      let blob <- required "NAME" words 0
      match words[1]? with
      | some target => refuseDirectory folder "[TARGET]" target
      | none => pure ()
      noMore (words.drop 2)
      return .get blob words[1]?
  | .remove => do
      let _ <- required "NAMES..." words 0
      return .remove words
  | .check => do
      let blob <- required "NAME" words 0
      noMore (words.drop 1)
      return .check blob

end BlobDepot.Command
