import BlobDepot.Depot.Call

/-!
# The life of the shared client

The store holds the client from the moment it is made, and so does everyone who acquired it.
Whoever lets go last closes it.  Closing the store gives up the store's own hold, so the client
lives on until those who still use it are done.

The store can be closed in the middle of a call, also of the call that closes the client.  By
then it has no client to let go of, and this is where the nesting ends.
-/

set_option autoImplicit false

namespace BlobDepot

open BlobDepot.Action

namespace Depot

def holders (depot : Depot) (reference : Nat) : Nat :=
  match depot.references[reference]? with
  | some entry => entry.holders
  | none => 0

def setHolders (depot : Depot) (reference holders : Nat) : Depot :=
  { depot with
    references := depot.references.modify reference (fun entry =>
      { entry with holders := holders }) }

def addReference (depot : Depot) (client : Nat) : Depot :=
  { depot with references := depot.references ++ [⟨client, 1⟩] }

def clientOf (depot : Depot) (reference : Nat) : Nat :=
  match depot.references[reference]? with
  | some entry => entry.client
  | none => 0

end Depot

namespace Reference

def tryAcquire (reference : Nat) : Action Bool := do
  let depot <- get
  let holders := depot.holders reference
  if holders = 0 then
    return false
  else
    set (depot.setHolders reference (holders + 1))
    record (.borrowed reference (holders + 1))
    return true

def acquire (reference : Nat) : Action Unit := do
  unless (<- tryAcquire reference) do
    fail (.state .referenceClosed)

def endClient (shut : Action Unit) (client : Nat) : Action Unit := do
  if (<- get).closable then
    call shut (.close client) (pure ()) (fun _ => pure ())

def closeClient (shut : Action Unit) (client : Nat) : Action Unit := do
  endClient shut client
  log "debug" "backend_client_closed" []

def releaseThrough
    (close : Nat -> Action Unit)
    (seen : Nat -> Event)
    (reference : Nat) : Action Bool := do
  let depot <- get
  match depot.holders reference with
  | 0 => fail (.state .overReleased)
  | others + 1 =>
      -- The hold is given up first, so it is given up even if closing fails.
      set (depot.setHolders reference others)
      record (seen others)
      if others = 0 then
        close (depot.clientOf reference)
        return true
      else
        return false

end Reference

namespace Store

def closeThrough (close : Nat -> Action Unit) : Action Unit := do
  let depot <- get
  unless depot.closed do
    -- Closing the client may close the store again, which then finds it closed already.
    set { depot with closed := true, current := none }
    match depot.current with
    | some reference =>
        let _ <- Reference.releaseThrough close (fun left => .storeClosed (some left)) reference
    | none => record (.storeClosed none)

/-- Close the store while a client is being closed. -/
def closeWithin : Action Unit :=
  closeThrough (Reference.closeClient (pure ()))

def close : Action Unit :=
  closeThrough (Reference.closeClient closeWithin)

end Store

namespace Reference

def release (reference : Nat) : Action Bool :=
  releaseThrough (closeClient Store.closeWithin) (.returned reference) reference

def after {α : Type} (reference : Nat) (work : Action α) : Action α := do
  let outcome <- attempt work
  -- A failure to let go takes the place of the result and of any other failure.
  let _ <- release reference
  settle outcome

end Reference

def Action.send (request : Request) : Action Answer := do
  let outcome <- attempt (call Store.close (.request request) (serve request) pure)
  record (.answered request outcome)
  settle outcome

end BlobDepot
