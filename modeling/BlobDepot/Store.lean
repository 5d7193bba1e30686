import BlobDepot.Config
import BlobDepot.Depot.Lifecycle

set_option autoImplicit false

namespace BlobDepot

open BlobDepot.Action

inductive ClientSource where
  | connection
  | factory
  deriving Repr, DecidableEq

structure Store where
  config : Config
  clientSource : ClientSource := .connection
  deriving Repr

namespace Store

def clientCall (store : Store) : Call :=
  match store.clientSource with
  | .connection =>
      .connect store.config.endpointUrl store.config.region store.config.addressingStyle.name
  | .factory => .factory store.config.bucket

def newClient : Action Nat :=
  fun depot => (.ok (depot.clients + 1), { depot with clients := depot.clients + 1 })

def makeClient (store : Store) : Action Nat := do
  -- Only a call that does not fail makes a client.
  call close store.clientCall (pure ()) (fun _ => pure ())
  newClient

def openReference (store : Store) : Action Nat := do
  let client <- makeClient store
  let depot <- get
  let reference := depot.references.length
  set { depot.addReference client with current := some reference }
  record (.clientMade client)
  log "debug" "backend_client_created"
    [("bucket", .text store.config.bucket),
      ("endpoint", Value.ofText? store.config.endpointUrl)]
  -- The store holds its client already; this is the hold of the caller.
  Reference.acquire reference
  return reference

def acquire (store : Store) : Action Nat := do
  let depot <- get
  if depot.closed then
    fail (.state .storeClosed)
  else
    match depot.current with
    | none => openReference store
    | some reference =>
        -- A client that is closed already is replaced.
        if (<- Reference.tryAcquire reference) then return reference
        else openReference store

def borrowing {α : Type} (store : Store) (work : Action α) : Action α := do
  let reference <- acquire store
  Reference.after reference work

def display (store : Store) : String :=
  "S3BlobStore(bucket=" ++ Text.quote store.config.bucket ++ ", base_path="
    ++ Text.quote store.config.basePath ++ ")"

end Store

end BlobDepot
