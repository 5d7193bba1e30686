import BlobDepot.Proofs.Changes
import BlobDepot.Proofs.ClosedStore
import BlobDepot.Proofs.Reconciliation

set_option autoImplicit false

namespace BlobDepot

open BlobDepot.Action

structure Operation.IsCalm (operation : Operation) : Prop where
  keepsOpen : operation.KeepsOpen
  reads : forall problem, Not (operation.Raises problem)

theorem Failure.isReport_not_value {failure : Failure} (isReport : failure.isReport = true) :
    failure.isA .value = false := by
  have reports : forall kind : Kind,
      [Kind.blobStore, .blobIO, .blobNotFound, .bulkDelete].contains kind = true ->
        kind.isA .value = false := by
    intro kind isReport
    simp only [List.contains_eq_mem, List.mem_cons, List.not_mem_nil, or_false,
      decide_eq_true_eq] at isReport
    obtain rfl | rfl | rfl | rfl := isReport <;> decide
  exact reports _ isReport

/-- What an operation asked of the service, and how it fails: as a listing that is stalled, for its
arguments before anything is asked, or as the container reports it. -/
structure FailsFast
    (operation : Operation)
    (depot : Depot)
    (events : List Event)
    (outcome : Except Failure Reply)
    (next : Depot) : Prop where
  exchange : next.exchange = depot.exchange ++ events
  stalled : operation.stalls events = true -> outcome = .error (.of (.argument .noContinuation))
  early : operation.stalls events = false -> forall failure, outcome = .error failure ->
    failure.isA .value = true -> events = []
  reported : operation.stalls events = false -> forall failure, outcome = .error failure ->
    events ≠ [] -> failure.isReport = true

namespace FailsFast

variable {operation : Operation} {depot next : Depot} {events : List Event}
variable {outcome : Except Failure Reply}

theorem of_idle (exchange : next.exchange = depot.exchange) :
    FailsFast operation depot [] outcome next where
  exchange := exchange.trans (List.append_nil _).symm
  stalled stalls := by cases operation <;> cases stalls
  early _ _ _ _ := rfl
  reported _ _ _ some := absurd rfl some

theorem of_ended
    {container : Container}
    (exchange : next.exchange = depot.exchange ++ events)
    (paged : 0 < depot.service.pageSize)
    (calm : operation.IsCalm)
    (ended : operation.Ended container.store depot events outcome) :
    FailsFast operation depot events outcome next := by
  have reported : operation.stalls events = false -> forall failure, outcome = .error failure ->
      events ≠ [] -> failure.isReport = true := by
    intro goes failure fails some
    rcases ended.fails paged goes failure fails with none | isReport | raises
    next => exact absurd none some
    next => exact isReport
    next => exact absurd raises (calm.reads _)
  refine ⟨exchange, ended.stalled paged, ?_, reported⟩
  intro goes failure fails isValue
  by_contra some
  rw [Failure.isReport_not_value (reported goes failure fails some)] at isValue
  cases isValue

end FailsFast

namespace Tenancy

/-- Whatever a store was used for before, its operations fail fast.  A stream that ends early is
reported whatever the numbers are, for messages write them in full. -/
theorem operate_failsFast
    (store : Store)
    (origin : Depot)
    (steps : List StoreStep)
    (path : BlobPath)
    (operation : Operation)
    (leavesOpen : LeavesOpen store origin.schedule)
    (opened : origin.closed = false)
    (unmade : origin.current = none)
    (fitting : origin.schedule.AnswersFit)
    (paged : 0 < origin.service.pageSize)
    (calm : operation.IsCalm) :
    let depot := (run store origin steps).depot
    exists events, Yields (operation.run ⟨store, path⟩) depot
      (FailsFast operation depot events) := by
  intro depot
  cases isClosed : depot.closed with
  | true =>
    have kept := (operation.run_of_closed ⟨store, path⟩ isClosed).2
    exact ⟨[], .of_idle (by rw [Depot.exchange, kept, Depot.exchange])⟩
  | false =>
    have attended : Attended origin (run store origin steps).held.length depot :=
      ⟨(sound_run leavesOpen opened unmade steps).lent, isClosed⟩
    have tallies : Yields (operation.run ⟨store, path⟩) depot
        (Tallies origin _ ⟨store, path⟩ operation depot) :=
      attended.tallies_operation leavesOpen fitting calm.keepsOpen
    obtain ⟨source, events, dealt, ended⟩ := tallies
    have pagedHere : 0 < depot.service.pageSize := run_pageSize store origin steps ▸ paged
    exact ⟨events, .of_ended dealt.exchange pagedHere calm ended⟩

theorem operate_failsFast_refused :
    let first := Answer.data (.ofFields [("Contents", .list []), ("IsTruncated", .bool true),
      ("NextContinuationToken", .text "t")])
    let schedule := Schedule.calm.add .listObjects [1] { outcome := some (.ok first) }
    let origin : Depot := { schedule := schedule }
    let depot := (run .small origin [.borrow]).depot
    LeavesOpen .small schedule ∧ schedule.AnswersFit ∧ (Operation.list none).IsCalm ∧
      (exists events, Yields ((Operation.list none).run ⟨.small, {}⟩) depot
        (FailsFast (.list none) depot events)) ∧
      ((Operation.list none).run ⟨.small, {}⟩ depot).1.mapError Failure.kind =
        .error .blobIO := by
  intro first schedule origin depot
  have leavesOpen : LeavesOpen .small schedule := (leavesOpen_calm .small).add (by decide) [1]
  have fitting : schedule.AnswersFit := by
    refine Schedule.answersFit_calm.add rfl ?_ [1]
    rintro _ ⟨⟩
    exact .answered _ ⟨_, rfl, .inr ⟨[], [], rfl, .nil⟩⟩
  have calm : (Operation.list none).IsCalm := ⟨trivial, fun _ => id⟩
  exact ⟨leavesOpen, fitting, calm,
    operate_failsFast .small origin [.borrow] {} (.list none) leavesOpen rfl rfl fitting
      (by decide) calm, rfl⟩

end Tenancy

/-- A page that is truncated without naming the next one fails a listing for its arguments, after
it was asked for. -/
theorem stalled_listing_fails_late :
    let unfinished := Answer.data (.ofFields [("Contents", .list []), ("IsTruncated", .bool true)])
    let schedule := Schedule.calm.add .listObjects [1] { outcome := some (.ok unfinished) }
    let failure := Failure.of (.argument .noContinuation)
    let ended := (Operation.list none).run ⟨.small, {}⟩ { schedule := schedule }
    unfinished.Fits .listObjects ∧ ended.1 = .error failure ∧ failure.isA .value = true ∧
      failure.isReport = false ∧ ended.2.journal.callCount .listObjects = 1 := by
  exact ⟨⟨_, rfl, .inr ⟨[], [], rfl, .nil⟩⟩, rfl, rfl, rfl, rfl⟩

end BlobDepot
