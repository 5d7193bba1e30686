import BlobDepot.BulkResult
import BlobDepot.Client
import BlobDepot.Store

set_option autoImplicit false

namespace BlobDepot

open BlobDepot.Action

structure Container where
  store : Store
  path : BlobPath
  deriving Repr

namespace Container

def ofStore (store : Store) (path : Option BlobPath) : Container :=
  ⟨store, path.getD store.config.basePathSegments⟩

def bucket (container : Container) : String :=
  container.store.config.bucket

def keyPath (container : Container) : String :=
  container.path.toText

def key (container : Container) (name : String) : String :=
  container.keyPath ++ name

def display (container : Container) : String :=
  "S3BlobContainer(bucket=" ++ Text.quote container.bucket ++ ", path="
    ++ Text.quote container.keyPath ++ ")"

def reporting {α : Type} (kind : Kind) (problem : Problem) (work : Action α) : Action α := do
  match <- attempt work with
  | .ok result => return result
  | .error failure =>
      throw (if failure.isA kind then .because problem failure else failure)

def blobExists (container : Container) (name : String) : Action Bool :=
  reporting .ordinary (.existenceUnknown name)
    (container.store.borrowing (Client.objectExists container.bucket (container.key name)))

def readFailure (name : String) (failure : Failure) : Failure :=
  if failure.isA .objectNotFound then
    .because (.contentMissing name failure.message) failure
  else if failure.isA .backend then
    .because (.unreadable name) failure
  else
    failure

def readBlob (container : Container) (name : String) : Action Content :=
  container.store.borrowing do
    match <- attempt (Client.getObject container.bucket (container.key name)) with
    | .ok content => return content
    | .error failure => throw (readFailure name failure)

def deleteBlobIfExists (container : Container) (name : String) : Action Unit := do
  reporting .backend (.deleteFailed name)
    (container.store.borrowing (Client.deleteObject container.bucket (container.key name)))
  count (fun metrics => { metrics with deletedSingly := metrics.deletedSingly + 1 })

def deleteBlob (container : Container) (name : String) : Action Unit := do
  if (<- blobExists container name) then
    deleteBlobIfExists container name
  else
    fail (.blobMissing name)

def deleteBatch
    (container : Container)
    (result : BulkResult)
    (batch : DeleteBatch) : Action BulkResult := do
  let result := result.attempt
  match <- attempt (Client.bulkDelete container.bucket batch.keys true) with
  | .ok () =>
      count (fun metrics =>
        { metrics with deletedInBulk := metrics.deletedInBulk + batch.keys.length })
      return result
  | .error failure =>
      if failure.isA .backend then
        count (fun metrics => { metrics with failedBatches := metrics.failedBatches + 1 })
        log "warning" "bulk_delete_batch_failed"
          [("bucket", .text container.bucket),
            ("batch", .int batch.index),
            ("keys", .int batch.keys.length),
            ("error", .text failure.message)]
        return result.recordFailure batch failure
      else
        throw failure

def deleteBatches
    (container : Container)
    (result : BulkResult) : List DeleteBatch -> Action BulkResult
  | [] => return result
  | batch :: rest => do
      -- A batch that failed does not keep the later ones from being tried.
      deleteBatches container (<- deleteBatch container result batch) rest

def deleteBlobsIfExist (container : Container) (names : List String) : Action Unit := do
  unless names.isEmpty do
    let batches <- checked (DeleteBatch.partition (names.map container.key) Limits.bulkDeletes)
    let result <- container.store.borrowing (deleteBatches container {} batches)
    match result.primary with
    | none => pure ()
    | some (_, cause) =>
        -- All failures are reported together, the first one as the cause.
        let text := "Exception when deleting blobs " ++ Text.quoteList names
        throw { result.toFailure text with cause := some cause }

abbrev Listing : Type :=
  Table Int

def addEntries (pathLength : Nat) : List (Value × Int) -> Listing -> Except ShapeError Listing
  | [], listing => .ok listing
  | (key, size) :: rest, listing => do
      -- The name of a blob is its key without the container's path.
      let name <- key.dropName pathLength
      addEntries pathLength rest (listing.set name size)

/-- Add a page to a listing, and all pages after it, of which there are at most so many. -/
def drain (container : Container) : Nat -> ListingPage -> Listing -> Action Listing
  | pagesAtMost, page, listing => do
      count (fun metrics => { metrics with listingPages := metrics.listingPages + 1 })
      let listing <- shaped (addEntries container.keyPath.length page.entries listing)
      if page.truncated then
        match pagesAtMost with
        -- A listing begins with a bound that it does not use up.
        | 0 => fail (.assertion "listing does not end")
        | others + 1 => drain container others (<- Client.listNext page) listing
      else
        return listing

/-- How many pages a listing can have: those that are disrupted, and one for every object. -/
def pagesAtMost (depot : Depot) (bucket : String) : Nat :=
  depot.schedule.horizon + (depot.service.objects bucket).entries.length + 1

def listBlobs (container : Container) (selection : Option String) : Action Listing :=
  reporting .backend (.listingFailed selection) <|
    container.store.borrowing do
      let page <- Client.listObjects container.bucket (container.key (selection.getD ""))
      let bound := pagesAtMost (<- get) container.bucket
      drain container bound page .empty

end Container

end BlobDepot
