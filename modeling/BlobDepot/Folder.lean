import BlobDepot.Failure
import BlobDepot.Service.Body
import BlobDepot.Table
import BlobDepot.Text.Pieces

set_option autoImplicit false

namespace BlobDepot

inductive FolderEntry where
  | file (body : Body)
  | directory
  deriving Repr, DecidableEq

structure Folder where
  entries : Table FolderEntry := .empty
  deriving Repr, Inhabited

inductive Place where
  | directory (names : List String)
  | file (name : String) (body : Body)
  | vacant (name : String)
  | lost
  | blocked
  | overlong
  deriving Repr, DecidableEq

namespace Folder

def nameOf (names : List String) : String :=
  "/".intercalate names

def isAbove (folder : Folder) (name : String) : Bool :=
  let start := (name ++ "/").toList
  folder.entries.names.any (fun other => start.isPrefixOf other.toList)

def enter (folder : Folder) (names : List String) (part : String) : Place :=
  let inner := names ++ [part]
  let name := nameOf inner
  match folder.entries.get? name with
  | some (.file body) => .file name body
  | some .directory => .directory inner
  | none => if folder.isAbove name then .directory inner else .vacant name

/-- The directory above a directory.  The root is above itself, and above the working directory
names are not known. -/
def up (names : List String) : List String :=
  match names.getLast? with
  | none => [".."]
  | some ".." => names ++ [".."]
  | some "" => names
  | some _ => names.dropLast

def nameLimit : Nat :=
  255

def pathLimit : Nat :=
  4095

def step (folder : Folder) (place : Place) (part : String) : Place :=
  match place with
  | .directory names =>
      if part = "" || part = "." then place
      else if part = ".." then .directory (up names)
      else if nameLimit < part.utf8ByteSize then .overlong
      else folder.enter names part
  | .file .. | .blocked => .blocked
  | .vacant _ | .lost => .lost
  | .overlong => .overlong

def parts (path : String) : List String :=
  (Text.pieces '/' path.toList).map String.ofList

def look (folder : Folder) (path : String) : Place :=
  if path = "" then .lost
  else if pathLimit < path.utf8ByteSize then .overlong
  else
    let start := if path.toList.head? = some '/' then [""] else []
    (parts path).foldl folder.step (.directory start)

/-- The slashes that a path begins with.  Exactly two of them may mean something else than one,
but more do not. -/
def rootOf (path : String) : String :=
  match (path.toList.takeWhile (· == '/')).length with
  | 0 => ""
  | 2 => "//"
  | _ => "/"

def tidy (path : String) : String :=
  let kept := (parts path).filter (fun part => part != "" && part != ".")
  let root := rootOf path
  let text := root ++ "/".intercalate kept
  if text = "" then "." else text

def make (folder : Folder) (path : String) : Except FileError (String × Folder) :=
  let path := tidy path
  match folder.look path with
  | .directory _ => .error (.isDirectory path)
  | .file name _ | .vacant name =>
      .ok (name, ⟨folder.entries.set name (.file (.bytes []))⟩)
  | .lost => .error (.notFound path)
  | .blocked => .error (.notDirectory path)
  | .overlong => .error (.nameTooLong path)

def fill (folder : Folder) (name : String) (content : List UInt8) : Folder :=
  ⟨folder.entries.set name (.file (.bytes content))⟩

/-- The files of the working directory itself that are not in an earlier folder as they are in
this one. -/
def changedSince (folder earlier : Folder) : List (String × Body) :=
  folder.entries.entries.filterMap (fun entry =>
    match entry.2 with
    | .file body =>
        if entry.1.toList.contains '/' || earlier.entries.get? entry.1 = some (.file body) then none
        else some (entry.1, body)
    | .directory => none)

end Folder

end BlobDepot
