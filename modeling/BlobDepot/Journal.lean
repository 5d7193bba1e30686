import BlobDepot.Metrics
import BlobDepot.Service.Bucket

set_option autoImplicit false

namespace BlobDepot

/-- What happens at the border of a run: calls, what came of the requests, reads of the stream
that is uploaded, and who holds the shared client.  Holders are counted when it has happened; a
store that is closed may have a client to let go of. -/
inductive Event where
  | called (call : Call)
  | answered (request : Request) (outcome : Except Failure Answer)
  | read (size : Int) (outcome : Except Failure Body)
  | clientMade (client : Nat)
  | borrowed (reference holders : Nat)
  | returned (reference holders : Nat)
  | storeClosed (holders : Option Nat)

namespace Event

def call? : Event -> Option Call
  | .called call => some call
  | _ => none

def isCall (event : Event) (method : Method) : Bool :=
  match event with
  | .called call => call.method == method
  | _ => false

end Event

structure LogEntry where
  level : String
  event : String
  fields : List (String × Value)
  deriving Repr

/-- The record of a run.  The events are kept with the newest one first; the entries are in the
order of time.  The context is added to every entry. -/
structure Journal where
  events : List Event := []
  entries : List LogEntry := []
  context : Table Value := .empty
  metrics : Metrics := {}
  deriving Inhabited

namespace Journal

def record (journal : Journal) (event : Event) : Journal :=
  { journal with events := event :: journal.events }

def history (journal : Journal) : List Event :=
  journal.events.reverse

def calls (journal : Journal) : List Call :=
  journal.history.filterMap Event.call?

def callCount (journal : Journal) (method : Method) : Nat :=
  journal.events.countP (fun event => event.isCall method)

def log
    (journal : Journal)
    (level event : String)
    (fields : List (String × Value)) : Journal :=
  let merged := journal.context.update (Table.ofList fields)
  { journal with entries := journal.entries ++ [⟨level, event, merged.entries⟩] }

def count (journal : Journal) (change : Metrics -> Metrics) : Journal :=
  { journal with metrics := change journal.metrics }

end Journal

end BlobDepot
