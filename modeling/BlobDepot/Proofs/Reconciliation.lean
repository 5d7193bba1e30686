import BlobDepot.Proofs.Holdings
import BlobDepot.Proofs.TalliedListings
import BlobDepot.Proofs.TalliedUploads

set_option autoImplicit false

namespace BlobDepot

open BlobDepot.Action

namespace Operation

def KeepsOpen : Operation -> Prop
  | .write _ source _ _ => source.KeepsOpen
  | _ => True

def Raises : Operation -> Problem -> Prop
  | .write _ source _ _, problem => source.Raises problem
  | _, _ => False

def stalls : Operation -> List Event -> Bool
  | .list _, events => stalled events
  | _, _ => false

def reportedBatches : Operation -> Except Failure Reply -> Nat
  | .deleteMany _, .error failure =>
      if failure.kind = .bulkDelete then failure.batches.length else 0
  | _, _ => 0

/-- How an operation ends, given what was exchanged.  Once something was, it fails only as it
reports, as its stream does, or as it is stalled, if pages of listings have keys. -/
structure Ended
    (operation : Operation)
    (store : Store)
    (depot : Depot)
    (events : List Event)
    (outcome : Except Failure Reply) : Prop where
  stalled : 0 < depot.service.pageSize -> operation.stalls events = true ->
    outcome = .error (.of (.argument .noContinuation))
  fails : 0 < depot.service.pageSize -> operation.stalls events = false ->
    forall failure, outcome = .error failure ->
      events = [] ∨ failure.isReport = true ∨ operation.Raises failure.problem
  batches : (forall failure, (store.makeClient depot).1 = .error failure ->
      failure.kind ≠ .bulkDelete) ->
    (tallied events).failedBatches = operation.reportedBatches outcome

end Operation

theorem Source.not_raises_ofBody (content : List UInt8) (problem : Problem) :
    Not ((Source.ofBody (.bytes content)).Raises problem) := by
  rintro ⟨_, _, _, fails, _⟩
  cases fails

theorem Source.keepsOpen_ofBody (content : List UInt8) :
    (Source.ofBody (.bytes content)).KeepsOpen :=
  fun _ _ => rfl

def Tallies
    (origin : Depot)
    (borrowers : Nat)
    (container : Container)
    (operation : Operation)
    (depot : Depot)
    (outcome : Except Failure Reply)
    (next : Depot) : Prop :=
  exists source events,
    Dealt origin borrowers (fun _ => True) { depot with source := source } events (tallied events)
        next ∧
      operation.Ended container.store depot events outcome

section Single

variable {α : Type} {origin depot next : Depot} {borrowers : Nat} {container : Container}
variable {operation : Operation} {source : Source} {events : List Event}

theorem Dealt.tallies
    {outcome : Except Failure Reply}
    (dealt : Dealt origin borrowers Request.IsSingle { depot with source := source } events
      (tallied events) next)
    (unlisted : operation.stalls events = false)
    (single : operation.reportedBatches outcome = 0)
    (fails : forall failure, outcome = .error failure ->
      events = [] ∨ failure.isReport = true ∨ operation.Raises failure.problem) :
    Tallies origin borrowers container operation depot outcome next := by
  refine ⟨source, events, { dealt with sorted := fun _ _ _ => trivial }, ?_, fun _ _ => fails, ?_⟩
  · intro _ stalls
    rw [unlisted] at stalls
    cases stalls
  · intro _
    rw [single]
    exact dealt.failedBatches (fun _ isSingle => isSingle)

theorem Deals.replies
    {work : Action α}
    {reply : α -> Reply}
    {expected : List Event -> Except Failure α -> Prop}
    (deals : Deals origin borrowers Request.IsSingle work { depot with source := source } expected)
    (unlisted : forall events, operation.stalls events = false)
    (single : forall outcome, operation.reportedBatches outcome = 0)
    (fails : forall events failure, expected events (.error failure) ->
      events = [] ∨ failure.isReport = true ∨ operation.Raises failure.problem) :
    Yields (work >>= fun result => pure (reply result)) { depot with source := source }
      (Tallies origin borrowers container operation depot) := by
  refine Yields.bind deals (fun result left done => ?_) (fun failure left done => ?_)
  · obtain ⟨events, dealt, _⟩ := done
    exact dealt.tallies (unlisted events) (single _) nofun
  · obtain ⟨events, dealt, holds⟩ := done
    refine dealt.tallies (unlisted events) (single _) ?_
    rintro _ ⟨⟩
    exact fails events failure holds

end Single

theorem Complains.fails
    {α : Type}
    {events : List Event}
    {failure : Failure}
    (complains : Complains events (.error failure : Except Failure α))
    (operation : Operation) :
    events = [] ∨ failure.isReport = true ∨ operation.Raises failure.problem :=
  (complains failure rfl).imp_right .inl

namespace Attended

variable {origin depot : Depot} {borrowers : Nat} {container : Container}

theorem tallies_deleteMany
    (attended : Attended origin borrowers depot)
    (leavesOpen : LeavesOpen container.store origin.schedule)
    (fitting : origin.schedule.AnswersFit)
    (names : List String) :
    Yields ((Operation.deleteMany names).run container) depot
      (Tallies origin borrowers container (.deleteMany names) depot) := by
  refine Yields.bind (attended.tallies_deleteBlobsIfExist leavesOpen fitting names)
    (fun _ left done => ?_) (fun failure left done => ?_)
  · obtain ⟨events, dealt, none⟩ := done
    exact ⟨depot.source, events, dealt, fun _ => nofun, fun _ _ => nofun, fun _ => none⟩
  · obtain ⟨events, dealt, failed⟩ := done
    refine ⟨depot.source, events, dealt, fun _ => nofun, fun _ _ => ?_, fun connects => ?_⟩
    · rintro _ ⟨⟩
      refine failed.imp And.left (fun reported => .inl ?_)
      rw [Failure.isReport, Problem.isReport, show failure.problem.kind = _ from reported.1]
      rfl
    · rcases failed with ⟨rfl, unmade⟩ | ⟨kind, count⟩
      next => exact (if_neg (connects failure unmade)).symm
      next => exact count.symm.trans (if_pos kind).symm

theorem tallies_list
    (attended : Attended origin borrowers depot)
    (leavesOpen : LeavesOpen container.store origin.schedule)
    (fitting : origin.schedule.AnswersFit)
    (selection : Option String) :
    Yields ((Operation.list selection).run container) depot
      (Tallies origin borrowers container (.list selection) depot) := by
  refine Yields.bind (attended.tallies_listBlobs leavesOpen fitting selection)
    (fun listing left done => ?_) (fun failure left done => ?_)
  all_goals obtain ⟨events, dealt, ends⟩ := done
  all_goals
    have batches := dealt.failedBatches (fun _ isSingle => isSingle)
    refine ⟨depot.source, events, { dealt with sorted := fun _ _ _ => trivial }, ?_, ?_,
      fun _ => batches⟩
  · intro paged (stalls : stalled events = true)
    have ended := ends paged
    rw [if_pos stalls] at ended
    cases ended
  · exact fun _ _ => nofun
  · intro paged (stalls : stalled events = true)
    have ended := ends paged
    rw [if_pos stalls] at ended
    cases ended
    rfl
  · intro paged goes
    have ended := ends paged
    rw [if_neg (by simpa [Operation.stalls] using goes)] at ended
    rintro _ ⟨⟩
    exact Complains.fails ended _

theorem tallies_operation
    {operation : Operation}
    (attended : Attended origin borrowers depot)
    (leavesOpen : LeavesOpen container.store origin.schedule)
    (fitting : origin.schedule.AnswersFit)
    (keepsOpen : operation.KeepsOpen) :
    Yields (operation.run container) depot
      (Tallies origin borrowers container operation depot) := by
  cases operation with
  | write name source size failIfExists =>
    refine .after (run_modify _ depot) ?_
    exact ((attended.sourced source).tallies_writeBlob leavesOpen fitting keepsOpen name size
      failIfExists).replies (fun _ => rfl) (fun _ => rfl) (fun _ failure fails => fails failure rfl)
  | writeBytes name content failIfExists =>
    rw [Operation.run, Container.writeBlobBytes, bind_assoc]
    refine .after (run_modify _ depot) ?_
    refine ((attended.sourced (.ofBody (.bytes content))).tallies_writeBlob leavesOpen fitting
      (Source.keepsOpen_ofBody content) name content.length failIfExists).replies (fun _ => rfl)
      (fun _ => rfl) (fun _ failure fails => ?_)
    refine (fails failure rfl).imp_right (fun reported => .inl ?_)
    exact reported.resolve_right (Source.not_raises_ofBody content _)
  | read name =>
    refine Yields.bind (attended.tallies_readBlob leavesOpen fitting name)
      (fun content left done => ?_) (fun failure left done => ?_)
    · obtain ⟨events, dealt, _, stream⟩ := done
      obtain ⟨body, rfl⟩ := stream content rfl
      exact Dealt.tallies dealt rfl rfl nofun
    · obtain ⟨events, dealt, complains, _⟩ := done
      refine Dealt.tallies dealt rfl rfl ?_
      rintro _ ⟨⟩
      exact complains.fails _
  | check name =>
    exact (attended.tallies_blobExists leavesOpen fitting name).replies (fun _ => rfl)
      (fun _ => rfl) (fun _ failure fails => fails.1.fails _)
  | delete name =>
    exact (attended.tallies_deleteBlob leavesOpen fitting name).replies (fun _ => rfl)
      (fun _ => rfl) (fun _ failure fails => Complains.fails fails _)
  | deleteIfExists name =>
    exact (attended.tallies_deleteBlobIfExists leavesOpen fitting name).replies (fun _ => rfl)
      (fun _ => rfl) (fun _ failure fails => (fails failure rfl).imp And.left .inl)
  | deleteMany names => exact attended.tallies_deleteMany leavesOpen fitting names
  | list selection => exact attended.tallies_list leavesOpen fitting selection

end Attended

def Schedule.ConnectsFit (schedule : Schedule) (store : Store) : Prop :=
  forall number disruption failure,
    disruption ∈ schedule.disruptions store.clientCall.method number ->
      disruption.outcome = some (.error failure) -> Failure.IsFault failure

theorem Failure.IsFault.not_bulkDelete {failure : Failure} (fault : failure.IsFault) :
    failure.kind ≠ .bulkDelete := by
  intro isBulk
  have ours := fault.fromService
  rw [Failure.fromService, isA, isA, isBulk] at ours
  cases ours

theorem raised_of_disrupted
    {disruptions : List Disruption}
    {failure : Failure}
    (leavesOpen : forall disruption, disruption ∈ disruptions -> disruption.closesStore = false)
    (depot : Depot)
    (failed : (disrupted Store.close (pure () : Action Unit) (fun _ => pure ()) disruptions
      depot).1 = .error failure) :
    exists disruption, disruption ∈ disruptions ∧ disruption.outcome = some (.error failure) := by
  induction disruptions with
  | nil => cases failed
  | cons disruption rest ih =>
    have harmless := leavesOpen disruption List.mem_cons_self
    have later := ih (fun other listed => leavesOpen other (.tail _ listed))
    have first : (disrupted Store.close (pure () : Action Unit) (fun _ => pure ())
        (disruption :: rest) depot).1 =
          (disruption.outcome.map (Except.map fun _ => ())).getD
            (disrupted Store.close (pure ()) (fun _ => pure ()) rest depot).1 := by
      rw [disrupted]
      cases disruption.effectFirst <;> cases given : disruption.outcome with
        | none => simp [harmless, run_bind]
        | some outcome => cases outcome <;> simp [harmless, run_bind] <;> rfl
    rw [first] at failed
    cases given : disruption.outcome with
    | none =>
      rw [given] at failed
      obtain ⟨other, listed, isOther⟩ := later failed
      exact ⟨other, .tail _ listed, isOther⟩
    | some outcome =>
      rw [given] at failed
      cases outcome with
      | ok _ => cases failed
      | error raised =>
        cases failed
        exact ⟨disruption, List.mem_cons_self, given⟩

theorem makeClient_isFault
    {store : Store}
    {depot : Depot}
    {failure : Failure}
    (leavesOpen : LeavesOpen store depot.schedule)
    (connects : depot.schedule.ConnectsFit store)
    (failed : (store.makeClient depot).1 = .error failure) :
    failure.IsFault := by
  let number := (depot.recorded (.called store.clientCall)).journal.callCount
    store.clientCall.method
  have making : (disrupted Store.close (pure () : Action Unit) (fun _ => pure ())
      (depot.schedule.disruptions store.clientCall.method number)
      (depot.recorded (.called store.clientCall))).1 = .error failure := by
    simp only [Store.makeClient, call, run_bind, run_record, run_get,
      Depot.schedule_recorded] at failed
    split at failed
    next left made => cases failed
    next _ left made =>
      cases failed
      exact congrArg Prod.fst made
  obtain ⟨disruption, listed, isFailure⟩ := raised_of_disrupted (leavesOpen number) _ making
  exact connects number disruption failure listed isFailure

def Store.reportedBatches
    (operations : List (BlobPath × Operation))
    (outcomes : List (Except Failure Reply)) : Nat :=
  (List.zipWith (fun issued outcome => issued.2.reportedBatches outcome) operations outcomes).sum

/-- What was exchanged from one depot to another is what was entered in the counters. -/
structure Reconciled (depot : Depot) (reported : Nat) (next : Depot) (events : List Event) :
    Prop where
  exchange : next.exchange = depot.exchange ++ events
  entered : next.journal.metrics.tally = depot.journal.metrics.tally + tallied events
  batches : (tallied events).failedBatches = reported

theorem Reconciled.trans
    {depot middle next : Depot}
    {reported further : Nat}
    {events later : List Event}
    (before : Reconciled depot reported middle events)
    (after : Reconciled middle further next later) :
    Reconciled depot (reported + further) next (events ++ later) where
  exchange := by rw [after.exchange, before.exchange, List.append_assoc]
  entered := by rw [after.entered, before.entered, tallied_append, add_assoc]
  batches := by rw [tallied_append, Tally.failedBatches_add, before.batches, after.batches]

theorem Attended.reconciles
    {store : Store}
    {origin depot : Depot}
    (leavesOpen : LeavesOpen store origin.schedule)
    (connects : origin.schedule.ConnectsFit store)
    (fitting : origin.schedule.AnswersFit)
    {operations : List (BlobPath × Operation)}
    (attended : Attended origin 0 depot)
    (keepsOpen : forall issued, issued ∈ operations -> issued.2.KeepsOpen) :
    exists events, Reconciled depot
      (Store.reportedBatches operations (store.operate operations depot).1)
      (store.operate operations depot).2 events := by
  induction operations generalizing depot with
  | nil => exact ⟨[], (List.append_nil _).symm, (add_zero _).symm, rfl⟩
  | cons issued rest ih =>
    obtain ⟨path, operation⟩ := issued
    have tallies : Yields (operation.run ⟨store, path⟩) depot
        (Tallies origin 0 ⟨store, path⟩ operation depot) :=
      attended.tallies_operation leavesOpen fitting
        (keepsOpen (path, operation) List.mem_cons_self)
    obtain ⟨source, events, dealt, ended⟩ := tallies
    -- A client that cannot be made does not make a deletion report its batches.
    have reported := ended.batches (fun failure failed =>
      (makeClient_isFault (attended.lent.sameSchedule ▸ leavesOpen)
        (attended.lent.sameSchedule ▸ connects) failed).not_bulkDelete)
    have first : Reconciled depot _ _ events := ⟨dealt.exchange, dealt.entered, reported⟩
    obtain ⟨later, after⟩ := ih dealt.attended
      (fun other listed => keepsOpen other (.tail _ listed))
    exact ⟨events ++ later, first.trans after⟩

namespace Store

/-- What a run of operations adds to the counters is what its answers add up to, and the batches
that failed are those that bulk deletions report. -/
theorem operate_reconciled
    (store : Store)
    (origin : Depot)
    (operations : List (BlobPath × Operation))
    (leavesOpen : LeavesOpen store origin.schedule)
    (connects : origin.schedule.ConnectsFit store)
    (fitting : origin.schedule.AnswersFit)
    (opened : origin.closed = false)
    (unmade : origin.current = none)
    (keepsOpen : forall issued, issued ∈ operations -> issued.2.KeepsOpen) :
    exists events, Reconciled origin
      (reportedBatches operations (store.operate operations origin).1)
      (store.operate operations origin).2 events := by
  have attended : Attended origin 0 origin :=
    ⟨(Tenancy.sound_fresh opened unmade).lent, opened⟩
  exact attended.reconciles leavesOpen connects fitting keepsOpen

theorem operate_reconciled_complaint :
    let complaint := Value.ofFields [("Key", .text "a"), ("Code", .text "InternalError")]
    let complained : Answer := .data (.map [(.text "Errors", .list [complaint])])
    let schedule := (Schedule.calm.add .uploadPart [2]
      { outcome := some (.error (.of (.transport .noCredentials))) }).add .deleteObjects [1]
      { outcome := some (.ok complained) }
    let origin : Depot := { schedule := schedule }
    let operations : List (BlobPath × Operation) :=
      [({}, .writeBytes "a" [97, 98, 99, 100, 101] true), ({}, .deleteMany ["a", "b"]),
        ({}, .list none)]
    let ran := small.operate operations origin
    LeavesOpen small schedule ∧ schedule.ConnectsFit small ∧ schedule.AnswersFit ∧
      origin.closed = false ∧ origin.current = none ∧
      (forall issued, issued ∈ operations -> issued.2.KeepsOpen) ∧
      (exists events, Reconciled origin (reportedBatches operations ran.1) ran.2 events) ∧
      ran.2.journal.metrics.tally =
        { failedBatches := 1, listingPages := 1, partSizes := [2], abortSuccesses := 1 } := by
  intro complaint complained schedule origin operations ran
  have leavesOpen : LeavesOpen small schedule :=
    ((leavesOpen_calm small).add (by decide) [2]).add (by decide) [1]
  have connects : schedule.ConnectsFit small := by
    intro number disruption failure listed
    cases listed
  have fitting : schedule.AnswersFit := by
    refine (Schedule.answersFit_calm.add rfl ?_ [2]).add rfl ?_ [1]
    · rintro _ ⟨⟩
      exact .failed _ (.unanswered rfl)
    · rintro _ ⟨⟩
      exact .answered _ (.answered _ _ rfl (.inr ⟨[complaint], rfl, by
        simp [complaint, Value.ofFields]⟩))
  have keepsOpen : forall issued, issued ∈ operations -> issued.2.KeepsOpen := by
    simp only [operations, List.forall_mem_cons]
    exact ⟨trivial, trivial, trivial, by rintro _ ⟨⟩⟩
  have counted : ran.2.journal.metrics.tally =
      { failedBatches := 1, listingPages := 1, partSizes := [2], abortSuccesses := 1 } := by
    decide +kernel
  exact ⟨leavesOpen, connects, fitting, rfl, rfl, keepsOpen,
    operate_reconciled small origin operations leavesOpen connects fitting rfl rfl keepsOpen,
    counted⟩

end Store

end BlobDepot
