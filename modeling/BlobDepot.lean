import BlobDepot.Failure.Construction
import BlobDepot.Log.Setup
import BlobDepot.Main
import BlobDepot.Proofs.Actions
import BlobDepot.Proofs.Batches
import BlobDepot.Proofs.Calls
import BlobDepot.Proofs.Sessions
import BlobDepot.Proofs.Work
import BlobDepot.Proofs.Operations
import BlobDepot.Proofs.ClientLife
import BlobDepot.Proofs.Lifecycle
import BlobDepot.Proofs.Tenancy
import BlobDepot.Proofs.Aloof
import BlobDepot.Proofs.Exchange
import BlobDepot.Proofs.Closings
import BlobDepot.Proofs.Requests
import BlobDepot.Proofs.Uploads
import BlobDepot.Proofs.Writes
import BlobDepot.Proofs.FailedWrites
import BlobDepot.Proofs.Answers
import BlobDepot.Proofs.Faults
import BlobDepot.Proofs.Reports
import BlobDepot.Proofs.Parts
import BlobDepot.Proofs.Transfers
import BlobDepot.Proofs.UploadOutcomes
import BlobDepot.Proofs.Calm
import BlobDepot.Proofs.Dispatch
import BlobDepot.Proofs.AcceptedWrites
import BlobDepot.Proofs.ClosedStore
import BlobDepot.Proofs.Orphans
import BlobDepot.Proofs.UploadTraces
import BlobDepot.Proofs.Blobs
import BlobDepot.Proofs.FailedRequests
import BlobDepot.Proofs.Pages
import BlobDepot.Proofs.Deletions
import BlobDepot.Proofs.PageRequests
import BlobDepot.Proofs.Drains
import BlobDepot.Proofs.Taxonomy
import BlobDepot.Proofs.Listing
import BlobDepot.Proofs.Holdings
import BlobDepot.Proofs.Loans
import BlobDepot.Proofs.Troubles
import BlobDepot.Proofs.UploadTroubles
import BlobDepot.Proofs.FailedUploads
import BlobDepot.Proofs.WriteOutcomes
import BlobDepot.Proofs.Paths
import BlobDepot.Proofs.Changes
import BlobDepot.Proofs.Isolation
import BlobDepot.Proofs.SharedClients
import BlobDepot.Proofs.Configs
import BlobDepot.Proofs.Settings
import BlobDepot.Proofs.Sizes
import BlobDepot.Proofs.Overrides
import BlobDepot.Proofs.HalfCharacters
import BlobDepot.Proofs.Readings
import BlobDepot.Proofs.Ordinary
import BlobDepot.Proofs.UploadCounts
import BlobDepot.Proofs.FittingAnswers
import BlobDepot.Proofs.Tallies
import BlobDepot.Proofs.TalliedWork
import BlobDepot.Proofs.TalliedListings
import BlobDepot.Proofs.TalliedUploads
import BlobDepot.Proofs.Reconciliation
import BlobDepot.Proofs.FailFast
import BlobDepot.Proofs.Folders
import BlobDepot.Proofs.CommandClients
import BlobDepot.Proofs.ListingLines
import BlobDepot.Proofs.Desks
import BlobDepot.Proofs.CommandLines
import BlobDepot.Proofs.Plans
import BlobDepot.Proofs.PathTexts
import BlobDepot.Proofs.ReferenceUses
