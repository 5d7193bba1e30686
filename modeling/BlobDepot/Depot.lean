import BlobDepot.Journal
import BlobDepot.Service.Disruption
import BlobDepot.Source

/-!
# The depot

All that an action on blobs can change: the object service, the shared client with its holders,
the stream being uploaded and the journal.  An action gives a result or fails, and the depot it
leaves behind counts in both cases.
-/

set_option autoImplicit false

namespace BlobDepot

/-- A shared client and how many hold it; nobody holds a client that is closed. -/
structure Reference where
  client : Nat
  holders : Nat
  deriving Repr, DecidableEq

/-- The state that actions change. -/
structure Depot where
  service : Service := {}
  schedule : Schedule := .calm
  closable : Bool := true
  clients : Nat := 0
  references : List Reference := []
  current : Option Nat := none
  closed : Bool := false
  source : Source := .ofBody (.bytes [])
  journal : Journal := {}
  deriving Inhabited

abbrev Action (α : Type) : Type :=
  ExceptT Failure (StateM Depot) α

namespace Action

variable {α : Type}

def attempt (action : Action α) : Action (Except Failure α) :=
  fun depot =>
    let (outcome, next) := action depot
    (.ok outcome, next)

def settle : Except Failure α -> Action α
  | .ok result => pure result
  | .error failure => throw failure

def fail (problem : Problem) : Action α :=
  throw (Failure.of problem)

def shaped : Except ShapeError α -> Action α
  | .ok result => pure result
  | .error error => fail (.shape error)

def checked : Except ArgumentError α -> Action α
  | .ok result => pure result
  | .error error => fail (.argument error)

def write (change : Journal -> Journal) : Action Unit :=
  modify (fun depot => { depot with journal := change depot.journal })

def record (event : Event) : Action Unit :=
  write (fun journal => journal.record event)

def log (level event : String) (fields : List (String × Value)) : Action Unit :=
  write (fun journal => journal.log level event fields)

def count (change : Metrics -> Metrics) : Action Unit :=
  write (fun journal => journal.count change)

end Action

end BlobDepot
