import BlobDepot.Proofs.ClosedStore
import BlobDepot.Proofs.FailedWrites
import Mathlib.Data.List.TakeWhile

set_option autoImplicit false

namespace BlobDepot

open BlobDepot.Action

/-- Tell whether the store was closed before an abort was asked for, or without one. -/
def closedBeforeAbort (events : List Event) : Bool :=
  (events.takeWhile (fun event => !event.isCall .abortUpload)).any Event.isStoreClosed

structure Abandoned (upload : Upload) (depot final : Depot) (events : List Event) : Prop where
  asked : closedBeforeAbort events = false ->
    uploadSteps events = [.started upload, .abortAsked upload] ∨
    uploadSteps events = [.started upload, .abortAsked upload, .aborted upload] ∧
      (depot.schedule.FailsEarly -> final.service.uploads.get? upload.uploadId = none)
  orphaned : closedBeforeAbort events = true ->
    uploadSteps events = [.started upload] ∧
      (depot.schedule.FailsEarly ->
        (final.service.uploads.get? upload.uploadId).isSome = true)

theorem not_isCall_of_steps
    {events : List Event}
    (unasked : forall upload, UploadStep.abortAsked upload ∉ uploadSteps events)
    {event : Event}
    (listed : event ∈ events) :
    event.isCall .abortUpload = false := by
  by_contra isCall
  rw [Bool.not_eq_false] at isCall
  have shown : exists upload, event.uploadStep? = some (.abortAsked upload) := by
    cases event with
    | called call =>
      cases call with
      | request request =>
        cases request with
        | abortUpload bucket key uploadId => exact ⟨⟨bucket, key, uploadId⟩, rfl⟩
        | _ => cases isCall
      | _ => cases isCall
    | _ => cases isCall
  obtain ⟨upload, shown⟩ := shown
  exact unasked upload (List.mem_filterMap.mpr ⟨event, listed, shown⟩)

theorem closedBeforeAbort_of_unasked
    {events : List Event}
    (unasked : forall upload, UploadStep.abortAsked upload ∉ uploadSteps events) :
    closedBeforeAbort events = events.any Event.isStoreClosed := by
  have all : events.takeWhile (fun event => !event.isCall .abortUpload) = events := by
    rw [List.takeWhile_eq_self_iff]
    intro event listed
    rw [not_isCall_of_steps unasked listed]
    rfl
  rw [closedBeforeAbort, all]

theorem AskedInTime.open
    {upload : Upload}
    {events : List Event}
    (asked : AskedInTime upload events) :
    closedBeforeAbort events = false := by
  obtain ⟨before, later, rfl, unclosed, steps⟩ := asked
  have unasked : forall other, UploadStep.abortAsked other ∉ uploadSteps before := by
    intro other
    simp [steps]
  have earlier : (before ++ upload.abortCall :: later).takeWhile
      (fun event => !event.isCall .abortUpload) = before := by
    rw [List.takeWhile_append_of_pos (fun event listed => by
      rw [not_isCall_of_steps unasked listed]
      rfl)]
    simp [Upload.abortCall, Event.isCall, Call.method, Request.method]
  rw [closedBeforeAbort, earlier]
  exact unclosed

theorem Written.abandoned
    {container : Container}
    {name : String}
    {size : Int}
    {depot final : Depot}
    {outcome : Except Failure Unit}
    {events : List Event}
    {upload : Upload}
    (written : Written container (container.key name) size depot outcome final)
    (history : final.journal.history = depot.journal.history ++ events)
    (closed : final.closed = events.any Event.isStoreClosed)
    (started : .started upload ∈ uploadSteps events)
    (incomplete : .completed upload ∉ uploadSteps events) :
    (exists failure, outcome = .error failure) ∧ upload.bucket = container.bucket ∧
      upload.key = container.key name ∧ Abandoned upload depot final events := by
  -- An upload was started and not completed, which leaves two ways for the write to end.
  have none_of_quiet (same : uploadSteps final.exchange = uploadSteps depot.exchange) : False := by
    have steps : uploadSteps events = [] :=
      steps_of_grown history (same.trans (List.append_nil _).symm)
    simp [steps] at started
  have not_finished {other : Upload} (steps : uploadSteps final.exchange =
      uploadSteps depot.exchange ++ [.started other, .completed other]) : False := by
    have steps := steps_of_grown history steps
    simp only [steps, List.mem_cons, UploadStep.started.injEq, reduceCtorEq, List.not_mem_nil,
      or_false] at started
    simp [steps, started] at incomplete
  cases written with
  | refused failure _ refused => exact (none_of_quiet refused.steps).elim
  | stored _ stored => exact (none_of_quiet stored.steps).elim
  | lostAtOnce _ _ stored _ => exact (none_of_quiet stored.steps).elim
  | finished _ _ _ _ finished => exact (not_finished finished.steps).elim
  | lost _ _ _ finished _ => exact (not_finished finished.steps).elim
  | orphaned other failure _ bucket object begun isClosed =>
    have steps := steps_of_grown history begun.steps
    have unasked : forall other, UploadStep.abortAsked other ∉ uploadSteps events := by
      intro other
      simp [steps]
    have same : upload = other := by simpa [steps] using started
    subst same
    have closedBefore : closedBeforeAbort events = true := by
      rw [closedBeforeAbort_of_unasked unasked, <- closed, isClosed]
    refine ⟨⟨failure, rfl⟩, bucket, object, fun isOpen => ?_, fun _ => ⟨steps, begun.pending⟩⟩
    cases isOpen.symm.trans closedBefore
  | aborted other failure _ bucket object aborted =>
    obtain ⟨all, allHistory, inTime⟩ := aborted.inTime
    have all_events : all = events := List.append_cancel_left (allHistory.symm.trans history)
    subst all_events
    have isOpen := inTime.open
    have same : upload = other := by
      obtain asked | ⟨granted, _⟩ := aborted.ended
      · simpa [steps_of_grown history asked] using started
      · simpa [steps_of_grown history granted] using started
    subst same
    refine ⟨⟨failure, rfl⟩, bucket, object, fun _ => ?_, fun isClosed => ?_⟩
    · obtain asked | ⟨granted, gone⟩ := aborted.ended
      · exact .inl (steps_of_grown history asked)
      · refine .inr ⟨steps_of_grown history granted, fun early => ?_⟩
        rw [gone early, if_pos rfl]
    · cases isOpen.symm.trans isClosed

theorem writeBlob_of_closed
    (container : Container)
    (name : String)
    (size : Int)
    (failIfExists : Bool)
    {depot : Depot}
    (closed : depot.closed = true) :
    (container.writeBlob name size failIfExists depot).2.journal.history =
      depot.journal.history := by
  have shut := (Shut.lending container.store).writeBlob (fun _ => Shut.lasting) name size
    failIfExists depot ⟨closed, rfl⟩
  exact congrArg List.reverse shut.2

/-- A write that started an upload and did not complete it asks for its abort exactly if the store
was not closed before.  An upload whose abort is not asked for stays with the service. -/
theorem writeBlob_abandons
    (container : Container)
    (origin : Depot)
    (steps : List StoreStep)
    (name : String)
    (source : Source)
    (size : Int)
    (failIfExists : Bool)
    (leavesOpen : LeavesOpen container.store origin.schedule)
    (opened : origin.closed = false)
    (unmade : origin.current = none) :
    let depot := { (Tenancy.run container.store origin steps).depot with source := source }
    let ran := container.writeBlob name size failIfExists depot
    exists events, ran.2.journal.history = depot.journal.history ++ events ∧
      forall upload, .started upload ∈ uploadSteps events ->
        .completed upload ∉ uploadSteps events ->
          (exists failure, ran.1 = .error failure) ∧ upload.bucket = container.bucket ∧
            upload.key = container.key name ∧ Abandoned upload depot ran.2 events := by
  intro depot ran
  have lent : Lent origin _ depot := Tenancy.lent_sourced leavesOpen opened unmade steps source
  have lentFinal : Lent origin _ ran.2 := (Lent.lending leavesOpen _).writeBlob
    (fun _ => (Lent.lasting origin _).given) name size failIfExists depot lent
  obtain ⟨events, history⟩ := writeBlob_grown container name size failIfExists depot
  refine ⟨events, history, fun upload started incomplete => ?_⟩
  have closed := lent.closed_since lentFinal history
  -- A store that was closed before the write uploads nothing that could be abandoned.
  cases isOpen : depot.closed with
  | false =>
    rw [isOpen, Bool.false_or] at closed
    have written := writeBlob_written lent leavesOpen name size failIfExists
    exact written.abandoned history closed started incomplete
  | true =>
    have nothing := writeBlob_of_closed container name size failIfExists isOpen
    have none : events = [] := by
      rw [history] at nothing
      simpa using nothing
    simp [none, uploadSteps] at started

theorem writeBlob_abandons_closed_midway :
    let container : Container := ⟨.small, {}⟩
    let schedule := Schedule.calm.add .uploadPart [2]
      { closesStore := true, outcome := some (.error (.of (.transport .noCredentials))) }
    let origin : Depot := { schedule := schedule }
    let depot := { (Tenancy.run container.store origin []).depot with
      source := .ofBody (.bytes [97, 98, 99, 100, 101]) }
    let ran := container.writeBlob "x" 5 false depot
    LeavesOpen container.store origin.schedule ∧ origin.closed = false ∧ origin.current = none ∧
      exists events, ran.2.journal.history = depot.journal.history ++ events ∧
        forall upload, .started upload ∈ uploadSteps events ->
          .completed upload ∉ uploadSteps events ->
            (exists failure, ran.1 = .error failure) ∧ upload.bucket = container.bucket ∧
              upload.key = container.key "x" ∧ Abandoned upload depot ran.2 events := by
  intro container schedule origin depot ran
  have leavesOpen : LeavesOpen container.store origin.schedule :=
    (leavesOpen_calm .small).add (by decide) [2]
  have abandons := writeBlob_abandons container origin [] "x"
    (.ofBody (.bytes [97, 98, 99, 100, 101])) 5 false leavesOpen rfl rfl
  exact ⟨leavesOpen, rfl, rfl, abandons⟩

/-- An upload that was started before the store was closed is neither completed nor asked to be
aborted, though calls fail early and no abort would be refused. -/
theorem closed_midway_orphans :
    let container : Container := ⟨.small, {}⟩
    let schedule := Schedule.calm.add .uploadPart [2]
      { closesStore := true, outcome := some (.error (.of (.transport .noCredentials))) }
    let origin : Depot := { schedule := schedule }
    let depot := { origin with source := .ofBody (.bytes [97, 98, 99, 100, 101]) }
    let ran := container.writeBlob "x" 5 false depot
    schedule.FailsEarly ∧ ran.1.toOption.isSome = false ∧ ran.2.closed = true ∧
      uploadSteps ran.2.journal.history = [.started ⟨"b", "x", "upload-1"⟩] ∧
      (ran.2.service.uploads.get? "upload-1").isSome = true := by
  have isEarly : Disruption.IsEarly
      { closesStore := true, outcome := some (.error (.of (.transport .noCredentials))) }
      .uploadPart := rfl
  refine ⟨Schedule.failsEarly_calm.add isEarly [2], ?_⟩
  decide +kernel

end BlobDepot
