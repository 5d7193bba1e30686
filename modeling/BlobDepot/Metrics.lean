set_option autoImplicit false

namespace BlobDepot

inductive UploadRoute where
  | single
  | multipart
  deriving Repr, DecidableEq

inductive Outcome where
  | success
  | failure
  deriving Repr, DecidableEq

/-- The counters.  The part sizes are kept one by one; their histogram is read off them. -/
structure Metrics where
  singleSuccesses : Nat := 0
  singleFailures : Nat := 0
  multipartSuccesses : Nat := 0
  multipartFailures : Nat := 0
  singleBytes : Int := 0
  multipartBytes : Int := 0
  partSizes : List Int := []
  abortSuccesses : Nat := 0
  abortFailures : Nat := 0
  deletedSingly : Nat := 0
  deletedInBulk : Nat := 0
  failedBatches : Nat := 0
  listingPages : Nat := 0
  deriving Repr, DecidableEq, Inhabited

namespace Metrics

def countUpload (metrics : Metrics) : UploadRoute -> Outcome -> Metrics
  | .single, .success => { metrics with singleSuccesses := metrics.singleSuccesses + 1 }
  | .single, .failure => { metrics with singleFailures := metrics.singleFailures + 1 }
  | .multipart, .success => { metrics with multipartSuccesses := metrics.multipartSuccesses + 1 }
  | .multipart, .failure => { metrics with multipartFailures := metrics.multipartFailures + 1 }

def countBytes (metrics : Metrics) (size : Int) : UploadRoute -> Metrics
  | .single => { metrics with singleBytes := metrics.singleBytes + size }
  | .multipart => { metrics with multipartBytes := metrics.multipartBytes + size }

def countAbort (metrics : Metrics) : Outcome -> Metrics
  | .success => { metrics with abortSuccesses := metrics.abortSuccesses + 1 }
  | .failure => { metrics with abortFailures := metrics.abortFailures + 1 }

def partSizeBounds : List Int :=
  [5, 16, 64, 128, 512, 1024, 5 * 1024].map (fun mebibytes => mebibytes * (1024 * 1024))

def partSizeSamples (sizes : List Int) : List (String × Int) :=
  let name := "blobstore_upload_part_size_bytes"
  partSizeBounds.map (fun bound =>
      (name ++ "_bucket\x7ble=" ++ toString bound ++ "\x7d",
        ((sizes.countP (fun size => decide (size <= bound)) : Nat) : Int)))
    ++ [(name ++ "_bucket\x7ble=+Inf\x7d", (sizes.length : Int)),
      (name ++ "_count", (sizes.length : Int)), (name ++ "_sum", sizes.foldl (· + ·) 0)]

def samples (metrics : Metrics) : List (String × Int) :=
  [("blobstore_uploads_total\x7bmethod=single,outcome=success\x7d",
      (metrics.singleSuccesses : Int)),
    ("blobstore_uploads_total\x7bmethod=single,outcome=failure\x7d",
      (metrics.singleFailures : Int)),
    ("blobstore_uploads_total\x7bmethod=multipart,outcome=success\x7d",
      (metrics.multipartSuccesses : Int)),
    ("blobstore_uploads_total\x7bmethod=multipart,outcome=failure\x7d",
      (metrics.multipartFailures : Int)),
    ("blobstore_uploaded_bytes_total\x7bmethod=single\x7d", metrics.singleBytes),
    ("blobstore_uploaded_bytes_total\x7bmethod=multipart\x7d", metrics.multipartBytes),
    ("blobstore_multipart_aborts_total\x7boutcome=success\x7d", (metrics.abortSuccesses : Int)),
    ("blobstore_multipart_aborts_total\x7boutcome=failure\x7d", (metrics.abortFailures : Int)),
    ("blobstore_deleted_keys_total\x7bmethod=single\x7d", (metrics.deletedSingly : Int)),
    ("blobstore_deleted_keys_total\x7bmethod=bulk\x7d", (metrics.deletedInBulk : Int)),
    ("blobstore_bulk_delete_failed_batches_total", (metrics.failedBatches : Int)),
    ("blobstore_listing_pages_total", (metrics.listingPages : Int))]
    ++ partSizeSamples metrics.partSizes

def growth (earlier later : Metrics) : List (String × Int) :=
  ((later.samples.zip earlier.samples).map (fun pair => (pair.1.1, pair.1.2 - pair.2.2))).filter
    (fun sample => sample.2 ≠ 0)

end Metrics

end BlobDepot
