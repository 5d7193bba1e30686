import BlobDepot.Proofs.Tenancy
import BlobDepot.Proofs.Writes

set_option autoImplicit false

namespace BlobDepot

open BlobDepot.Action

/-- How a write ends that leaves nothing half done: with the object or with what was there before.
A failed write has asked for the abort of the upload that it started, if it started one, and what
it started is gone when this was granted. -/
inductive CleanEnd
    (container : Container)
    (name : String)
    (size : Int)
    (depot final : Depot)
    (events : List Event) : Except Failure Unit -> Prop
  | untouched (failure : Failure)
      (objects : final.service.objects = depot.service.objects)
      (steps : uploadSteps events = []) :
      CleanEnd container name size depot final events (.error failure)
  | takenBack (failure : Failure) (upload : Upload)
      (bucket : upload.bucket = container.bucket) (object : upload.key = container.key name)
      (objects : final.service.objects = depot.service.objects)
      (abort : uploadSteps events = [.started upload, .abortAsked upload] ∨
        uploadSteps events = [.started upload, .abortAsked upload, .aborted upload] ∧
          forall uploadId, final.service.uploads.get? uploadId =
            if uploadId = upload.uploadId then none
            else depot.service.uploads.get? uploadId) :
      CleanEnd container name size depot final events (.error failure)
  | storedAtOnce
      (object : Replaced depot container.bucket (container.key name) size final)
      (uploads : final.service.uploads = depot.service.uploads)
      (steps : uploadSteps events = []) :
      CleanEnd container name size depot final events (.ok ())
  | assembled (upload : Upload)
      (object : Replaced depot container.bucket (container.key name) size final)
      (uploads : forall uploadId, final.service.uploads.get? uploadId =
        if uploadId = upload.uploadId then none else depot.service.uploads.get? uploadId)
      (steps : uploadSteps events = [.started upload, .completed upload]) :
      CleanEnd container name size depot final events (.ok ())

theorem Written.clean
    {container : Container}
    {name : String}
    {size : Int}
    {depot final : Depot}
    {outcome : Except Failure Unit}
    {events : List Event}
    (written : Written container (container.key name) size depot outcome final)
    (history : final.journal.history = depot.journal.history ++ events)
    (early : depot.schedule.FailsEarly)
    (stayed : final.closed = false) :
    CleanEnd container name size depot final events outcome := by
  -- Only a store that was closed meanwhile keeps a failed write from its abort, or a client that
  -- could not be given back from the result.
  have isOpen : Not (final.closed = true) := by simp [stayed]
  cases written with
  | refused failure _ refused =>
    refine .untouched failure (refused.objects early) (steps_of_grown history ?_)
    rw [refused.steps, List.append_nil]
  | aborted upload failure _ bucket object aborted =>
    refine .takenBack failure upload bucket object (aborted.objects early) ?_
    obtain asked | ⟨granted, gone⟩ := aborted.ended
    · exact .inl (steps_of_grown history asked)
    · exact .inr ⟨steps_of_grown history granted, gone early⟩
  | orphaned _ _ _ _ _ _ closed => exact absurd closed isOpen
  | lost _ _ _ _ closed => exact absurd closed isOpen
  | lostAtOnce _ _ _ closed => exact absurd closed isOpen
  | stored _ stored =>
    refine .storedAtOnce (stored.object early) (stored.uploads early) (steps_of_grown history ?_)
    rw [stored.steps, List.append_nil]
  | finished upload _ bucket object finished =>
    have replaced := finished.object early
    rw [bucket, object] at replaced
    exact .assembled upload replaced (finished.gone early) (steps_of_grown history finished.steps)

theorem writeBlob_grown
    (container : Container)
    (name : String)
    (size : Int)
    (failIfExists : Bool)
    (depot : Depot) :
    Grown depot (container.writeBlob name size failIfExists depot).2 := by
  have lending := (aloof_grown depot).lending container.store
  exact lending.writeBlob (fun _ => lasting_grown depot) name size failIfExists depot
    (Grown.refl depot)

/-- Whatever was done with a store before, a write leaves nothing half done, if the store stays
open and calls that fail do so before they take effect. -/
theorem writeBlob_clean
    (container : Container)
    (origin : Depot)
    (steps : List StoreStep)
    (name : String)
    (source : Source)
    (size : Int)
    (failIfExists : Bool)
    (leavesOpen : LeavesOpen container.store origin.schedule)
    (opened : origin.closed = false)
    (unmade : origin.current = none)
    (early : origin.schedule.FailsEarly) :
    let depot := { (Tenancy.run container.store origin steps).depot with source := source }
    let ran := container.writeBlob name size failIfExists depot
    ran.2.closed = false ->
      exists events, ran.2.journal.history = depot.journal.history ++ events ∧
        CleanEnd container name size depot ran.2 events ran.1 := by
  intro depot ran stayed
  have lent : Lent origin _ depot := Tenancy.lent_sourced leavesOpen opened unmade steps source
  obtain ⟨events, history⟩ := writeBlob_grown container name size failIfExists depot
  have written := writeBlob_written lent leavesOpen name size failIfExists
  exact ⟨events, history, written.clean history (lent.sameSchedule ▸ early) stayed⟩

theorem writeBlob_clean_second_part :
    let container : Container := ⟨.small, {}⟩
    let schedule := Schedule.calm.add .uploadPart [2]
      { outcome := some (.error (.of (.transport .noCredentials))) }
    let origin : Depot := { schedule := schedule }
    let steps := [StoreStep.operate {} (.writeBytes "x" [1, 2] false)]
    let depot := { (Tenancy.run container.store origin steps).depot with
      source := .ofBody (.bytes [1, 2, 3, 4, 5]) }
    let ran := container.writeBlob "x" 5 true depot
    LeavesOpen container.store origin.schedule ∧ origin.closed = false ∧ origin.current = none ∧
      origin.schedule.FailsEarly ∧ ran.2.closed = false ∧
      exists events, ran.2.journal.history = depot.journal.history ++ events ∧
        CleanEnd container "x" 5 depot ran.2 events ran.1 := by
  intro container schedule origin steps depot ran
  have leavesOpen : LeavesOpen container.store origin.schedule :=
    (leavesOpen_calm .small).add (by decide) [2]
  have isEarly : Disruption.IsEarly { outcome := some (.error (.of (.transport .noCredentials))) }
      .uploadPart := rfl
  have early : origin.schedule.FailsEarly := Schedule.failsEarly_calm.add isEarly [2]
  have clean := writeBlob_clean container origin steps "x" (.ofBody (.bytes [1, 2, 3, 4, 5])) 5 true
    leavesOpen rfl rfl early
  have stayed : ran.2.closed = false := by decide +kernel
  exact ⟨leavesOpen, rfl, rfl, early, stayed, clean stayed⟩

end BlobDepot
