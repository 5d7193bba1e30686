import BlobDepot.Proofs.Batches
import BlobDepot.Proofs.Blobs
import BlobDepot.Proofs.Faults
import BlobDepot.Proofs.Pages
import BlobDepot.Proofs.Tenancy

set_option autoImplicit false

namespace BlobDepot

open BlobDepot.Action

def Schedule.deletion (schedule : Schedule) (number : Nat) : Except Failure Answer :=
  (schedule.outcome? .deleteObjects number).getD (.ok (.data (.map [])))

def Value.field (value : Value) (name : String) : Value :=
  match value with
  | .map entries => (lookup name entries).getD .null
  | _ => .null

def Answer.complaints (answer : Answer) : List Value :=
  match answer.description.field "Errors" with
  | .list complaints => complaints
  | _ => []

def complaintReport (complaints : List Value) : String :=
  "Failed to delete " ++ toString complaints.length ++ " objects: "
    ++ ", ".intercalate ((complaints.take 10).map (fun complaint =>
      (complaint.field "Key").plain ++ " (" ++ (complaint.field "Code").plain ++ ")"))

/-- A request fails with a fault or is answered with a description, in which there may be
complaints, each of them a description. -/
inductive IsDeletion : Except Failure Answer -> Prop
  | failed (failure : Failure) (fault : failure.IsFault) : IsDeletion (.error failure)
  | answered (answer : Answer) (entries : List (Value × Value))
      (described : answer.description = .map entries)
      (complaints : Value.lookup "Errors" entries = none ∨ exists items,
        Value.lookup "Errors" entries = some (.list items) ∧
          forall item, item ∈ items -> exists fields, item = .map fields) :
      IsDeletion (.ok answer)

def batchFailure? : Except Failure Answer -> Option Failure
  | .error failure => some (failure.reported "Failed to delete objects")
  | .ok answer =>
      match answer.complaints with
      | [] => none
      | complaints => some (.of (.backend (complaintReport complaints) none))

theorem batchFailure_backend
    {given : Except Failure Answer}
    {failure : Failure}
    (deletion : IsDeletion given)
    (fails : batchFailure? given = some failure) :
    failure.isA .backend = true := by
  cases deletion with
  | failed fault isFault =>
    cases fails
    exact isFault.reported_backend _
  | answered answer entries described complaints =>
    simp only [batchFailure?] at fails
    split at fails
    next => cases fails
    next =>
      cases fails
      rfl

theorem complaintsText_of_maps
    {complaints : List Value}
    (maps : forall item, item ∈ complaints -> exists fields, item = .map fields) :
    Client.complaintsText (.list complaints) = .ok (complaintReport complaints) := by
  have shown : (complaints.take 10).mapM Client.complaintText =
      .ok ((complaints.take 10).map (fun complaint =>
        (complaint.field "Key").plain ++ " (" ++ (complaint.field "Code").plain ++ ")")) := by
    apply mapM_of_forall₂
    rw [List.forall₂_map_right_iff, List.forall₂_same]
    intro item listed
    obtain ⟨fields, rfl⟩ := maps item (List.mem_of_mem_take listed)
    rfl
  -- The entries of a list are its items, so the first ten of them are taken as they are.
  change ((complaints.take 10).mapM Client.complaintText >>= fun details => _) = _
  rw [shown]
  rfl

theorem bulkDelete_of_answer
    {bucket : String}
    {keys : List String}
    {quiet : Bool}
    {answer : Answer}
    {depot next : Depot}
    (deletion : IsDeletion (.ok answer))
    (asked : Client.ask (.deleteObjects bucket keys quiet) "Failed to delete objects" depot =
      (.ok answer, next)) :
    Client.bulkDelete bucket keys quiet depot =
      (match batchFailure? (.ok answer) with
        | none => .ok ()
        | some failure => .error failure, next) := by
  rw [Client.bulkDelete, run_bind_ok _ asked]
  cases deletion with
  | answered _ entries described complaints =>
    simp only [described, Value.findEntry, batchFailure?, Answer.complaints, Value.field]
    -- Without complaints, also with an empty list of them, nothing fails.
    rcases complaints with absent | ⟨items, listed, maps⟩
    next =>
      rw [absent]
      rfl
    next =>
      rw [listed]
      cases items with
      | nil => rfl
      | cons item rest =>
        have text := complaintsText_of_maps maps
        simp [run_bind, shaped, Value.isTruthy, text]

/-- Tell whether a call takes effect, before it is answered in another way or to be answered. -/
def takesEffect : List Disruption -> Bool
  | [] => true
  | disruption :: rest => disruption.effectFirst || disruption.outcome.isNone && takesEffect rest

namespace Table

theorem eraseAll_nil {α : Type} (table : Table α) : table.eraseAll [] = table := by
  simp [eraseAll]

theorem eraseAll_append {α : Type} (table : Table α) (first second : List String) :
    table.eraseAll (first ++ second) = (table.eraseAll first).eraseAll second := by
  simp only [eraseAll, List.filter_filter, List.mem_append, not_or, Bool.decide_and]
  congr 1
  apply List.filter_congr
  intro entry _
  exact Bool.and_comm _ _

theorem eraseAll_eraseAll {α : Type} (table : Table α) (names : List String) :
    (table.eraseAll names).eraseAll names = table.eraseAll names := by
  simp [eraseAll]

end Table

namespace Service

theorem perform_deleteObjects
    (service : Service)
    (bucket : String)
    (keys : List String)
    (quiet : Bool) :
    exists next, service.perform (.deleteObjects bucket keys quiet) =
        (.ok (.data (.map [])), next) ∧
      next.objects =
        Function.update service.objects bucket ((service.objects bucket).eraseAll keys) := by
  refine ⟨_, rfl, ?_⟩
  rw [objects_setObjects]
  simp only [reachesBucket, if_true, objects_reach, Request.bucket]

theorem answer_deleteObjects (service : Service) (bucket : String) (keys : List String) :
    (service.answer (.deleteObjects bucket keys true)).1 = .ok (.data (.map [])) ∧
      (service.answer (.deleteObjects bucket keys true)).2.objects =
        Function.update service.objects bucket ((service.objects bucket).eraseAll keys) := by
  obtain ⟨next, performed, objects⟩ := service.perform_deleteObjects bucket keys true
  rw [answer, performed]
  exact ⟨rfl, objects⟩

theorem objects_deletion
    (bucket : String)
    (keys : List String)
    (disruptions : List Disruption)
    (service : Service) :
    (respond (.deleteObjects bucket keys true) service disruptions).2.objects =
      if takesEffect disruptions then
        Function.update service.objects bucket ((service.objects bucket).eraseAll keys)
      else service.objects := by
  induction disruptions generalizing service with
  | nil => exact (service.answer_deleteObjects bucket keys).2
  | cons disruption rest ih =>
    obtain ⟨answered, objects⟩ := service.answer_deleteObjects bucket keys
    rw [respond, prepare, takesEffect]
    by_cases first : disruption.effectFirst = true
    next =>
      simp only [first, if_true, answered, Except.map, Bool.true_or]
      cases disruption.outcome with
      | some outcome => exact objects
      | none =>
        -- The effect took place already, and deleting keys once more changes nothing.
        rw [ih, objects]
        split <;> simp [Table.eraseAll_eraseAll]
    next =>
      simp only [first, Bool.false_eq_true, if_false, Bool.false_or]
      cases disruption.outcome with
      | some outcome => rfl
      | none => exact ih service

end Service

def Schedule.deletions
    (schedule : Schedule)
    (calls : Nat)
    (batches : List DeleteBatch) : List (DeleteBatch × Except Failure Answer) :=
  (batches.zipIdx (calls + 1)).map (fun numbered => (numbered.1, schedule.deletion numbered.2))

/-- The batches whose requests take effect. -/
def Schedule.reached
    (schedule : Schedule)
    (calls : Nat)
    (batches : List DeleteBatch) : List DeleteBatch :=
  ((batches.zipIdx (calls + 1)).filter (fun numbered =>
    takesEffect (schedule.disruptions .deleteObjects numbered.2))).map Prod.fst

def batchFailures (ended : List (DeleteBatch × Except Failure Answer)) : List BatchFailure :=
  ended.filterMap (fun batch => (batchFailure? batch.2).map (fun failure => (batch.1, failure)))

def deletionEvents
    (bucket : String)
    (ended : List (DeleteBatch × Except Failure Answer)) : List Event :=
  ended.flatMap (fun batch => (Request.deleteObjects bucket batch.1.keys true).events batch.2)

namespace Attended

variable {origin depot : Depot} {borrowers : Nat}

theorem bulkDelete
    (attended : Attended origin (borrowers + 1) depot)
    (keepsOpen : origin.schedule.KeepsOpen .deleteObjects)
    (deletions : forall number, IsDeletion (origin.schedule.deletion number))
    (bucket : String)
    (keys : List String) :
    Yields (Client.bulkDelete bucket keys true) depot (fun outcome next => exists given,
      given = origin.schedule.deletion (depot.journal.callCount .deleteObjects + 1) ∧
        Responded origin (borrowers + 1) (.deleteObjects bucket keys true) depot given next ∧
        outcome = match batchFailure? given with
          | none => .ok ()
          | some failure => .error failure) := by
  have asked := attended.ask (.deleteObjects bucket keys true) keepsOpen "Failed to delete objects"
  obtain ⟨given, responded, isOutcome⟩ := asked
  have accepted : forall service : Service,
      (service.perform (.deleteObjects bucket keys true)).1 = .ok (.data (.map [])) := by
    intro service
    obtain ⟨next, performed, _⟩ := service.perform_deleteObjects bucket keys true
    rw [performed]
  -- The service accepts the request, so the schedule alone decides what comes of it.
  have isGiven : given =
      origin.schedule.deletion (depot.journal.callCount .deleteObjects + 1) := by
    have response := Service.respond_of_accepted accepted (origin.schedule.disruptions
      .deleteObjects (depot.journal.callCount .deleteObjects + 1)) depot.service
    exact (congrArg Prod.fst responded.response).symm.trans response
  have deletion : IsDeletion given := isGiven ▸ deletions _
  cases given with
  | ok answer =>
    have ran : Client.ask (.deleteObjects bucket keys true) "Failed to delete objects" depot =
        (.ok answer, _) := Prod.ext isOutcome rfl
    rw [Yields, bulkDelete_of_answer deletion ran]
    exact ⟨.ok answer, isGiven, responded, rfl⟩
  | error failure =>
    cases deletion with
    | failed _ fault =>
      have ran : Client.ask (.deleteObjects bucket keys true) "Failed to delete objects" depot =
          (.error (failure.reported "Failed to delete objects"), _) :=
        Prod.ext (isOutcome.trans (congrArg Except.error (fault.told _))) rfl
      have failed : Client.bulkDelete bucket keys true depot = _ := run_bind_error _ ran
      rw [Yields, failed]
      exact ⟨.error failure, isGiven, responded, rfl⟩

end Attended

theorem deleteBatch_of_outcome
    {container : Container}
    {batch : DeleteBatch}
    {depot next : Depot}
    {failure? : Option Failure}
    (deleted : Client.bulkDelete container.bucket batch.keys true depot =
      (match failure? with
        | none => .ok ()
        | some failure => .error failure, next))
    (backend : forall failure, failure? = some failure -> failure.isA .backend = true)
    (result : BulkResult) :
    exists journal, journal.events = next.journal.events ∧
      container.deleteBatch result batch depot =
        (.ok
          { attempted := result.attempted + 1
            failures := result.failures ++
              (failure?.map (fun failure => (batch, failure))).toList },
          { next with journal := journal }) := by
  simp only [Container.deleteBatch, run_bind, run_attempt, deleted]
  cases failure? with
  | none =>
    simp only [Option.map_none, Option.toList_none, List.append_nil]
    refine ⟨_, ?_, rfl⟩
    rfl
  | some failure =>
    simp only [backend failure rfl, if_true]
    refine ⟨_, ?_, rfl⟩
    rfl

structure Deleted
    (origin : Depot)
    (borrowers : Nat)
    (bucket : String)
    (result : BulkResult)
    (batches : List DeleteBatch)
    (depot : Depot)
    (outcome : Except Failure BulkResult)
    (next : Depot) : Prop where
  attended : Attended origin borrowers next
  calls : next.journal.callCount .deleteObjects =
    depot.journal.callCount .deleteObjects + batches.length
  result : outcome = .ok
    { attempted := result.attempted + batches.length
      failures := result.failures ++ batchFailures
        (origin.schedule.deletions (depot.journal.callCount .deleteObjects) batches) }
  exchange : next.exchange = depot.exchange ++ deletionEvents bucket
    (origin.schedule.deletions (depot.journal.callCount .deleteObjects) batches)
  objects : next.service.objects = Function.update depot.service.objects bucket
    ((depot.service.objects bucket).eraseAll ((origin.schedule.reached
      (depot.journal.callCount .deleteObjects) batches).flatMap DeleteBatch.keys))
  pageSize : next.service.pageSize = depot.service.pageSize

namespace Attended

variable {origin depot : Depot} {borrowers : Nat}

theorem deleteBatch
    (attended : Attended origin (borrowers + 1) depot)
    (keepsOpen : origin.schedule.KeepsOpen .deleteObjects)
    (deletions : forall number, IsDeletion (origin.schedule.deletion number))
    (container : Container)
    (result : BulkResult)
    (batch : DeleteBatch) :
    Yields (container.deleteBatch result batch) depot
      (Deleted origin (borrowers + 1) container.bucket result [batch] depot) := by
  have deleted := attended.bulkDelete keepsOpen deletions container.bucket batch.keys
  obtain ⟨given, isGiven, responded, outcome⟩ := deleted
  obtain ⟨journal, events, ran⟩ := deleteBatch_of_outcome (Prod.ext outcome rfl)
    (fun failure fails => batchFailure_backend (isGiven ▸ deletions _) fails) result
  rw [Yields, ran]
  have same := SameWork.logs (SameWork.refl _) events
  have effect := Service.objects_deletion container.bucket batch.keys (origin.schedule.disruptions
    .deleteObjects (depot.journal.callCount .deleteObjects + 1)) depot.service
  have response := responded.response
  simp only [Request.method] at response
  rw [response] at effect
  exact {
    attended := responded.attended.logs events
    calls := (same.callCount (.deleteObjects "" [] true)).trans
      (responded.sent.callCount (.deleteObjects "" [] true))
    result := by
      simp only [batchFailures, Schedule.deletions, List.zipIdx_singleton, List.map_singleton,
        List.filterMap_cons, List.filterMap_nil, <- isGiven]
      cases batchFailure? given <;> rfl
    exchange := by
      rw [same.exchange, responded.sent.exchange, isGiven]
      simp [deletionEvents, Schedule.deletions, Request.events]
    objects := by
      rw [same.service, effect, Schedule.reached, List.zipIdx_singleton, List.filter_singleton]
      by_cases reaches : takesEffect (origin.schedule.disruptions .deleteObjects
          (depot.journal.callCount .deleteObjects + 1)) = true
      next => simp [reaches]
      next => simp [reaches, Table.eraseAll_nil]
    pageSize := by
      have kept := Service.respond_pageSize (.deleteObjects container.bucket batch.keys true)
        (origin.schedule.disruptions .deleteObjects
          (depot.journal.callCount .deleteObjects + 1)) depot.service
      rw [response] at kept
      exact (congrArg Service.pageSize same.service).trans kept }

end Attended

theorem Schedule.deletions_cons
    (schedule : Schedule)
    (calls : Nat)
    (batch : DeleteBatch)
    (rest : List DeleteBatch) :
    schedule.deletions calls (batch :: rest) =
      schedule.deletions calls [batch] ++ schedule.deletions (calls + 1) rest := by
  simp [deletions]

theorem Schedule.reached_cons
    (schedule : Schedule)
    (calls : Nat)
    (batch : DeleteBatch)
    (rest : List DeleteBatch) :
    schedule.reached calls (batch :: rest) =
      schedule.reached calls [batch] ++ schedule.reached (calls + 1) rest := by
  simp only [reached, List.zipIdx_cons, List.zipIdx_nil]
  rw [<- List.map_append, <- List.filter_append, List.singleton_append]

namespace Deleted

variable {origin depot middle next : Depot} {borrowers : Nat} {bucket : String}
variable {result first : BulkResult} {batch : DeleteBatch} {batches : List DeleteBatch}
variable {outcome : Except Failure BulkResult}

theorem nil (attended : Attended origin borrowers depot) (result : BulkResult) :
    Deleted origin borrowers bucket result [] depot (.ok result) depot where
  attended := attended
  calls := rfl
  result := by simp [batchFailures, Schedule.deletions]
  exchange := (List.append_nil _).symm
  objects := by simp [Schedule.reached, Table.eraseAll_nil]
  pageSize := rfl

theorem since
    (deleted : Deleted origin borrowers bucket result batches middle outcome next)
    (same : SameWork depot middle) :
    Deleted origin borrowers bucket result batches depot outcome next := by
  have calls : middle.journal.callCount .deleteObjects = depot.journal.callCount .deleteObjects :=
    same.callCount (.deleteObjects "" [] true)
  obtain ⟨attended, laterCalls, kept, exchange, objects, pageSize⟩ := deleted
  rw [calls] at laterCalls kept exchange objects
  rw [same.exchange] at exchange
  rw [same.service] at objects pageSize
  exact ⟨attended, laterCalls, kept, exchange, objects, pageSize⟩

theorem cons
    (one : Deleted origin borrowers bucket result [batch] depot (.ok first) middle)
    (rest : Deleted origin borrowers bucket first batches middle outcome next) :
    Deleted origin borrowers bucket result (batch :: batches) depot outcome next := by
  have calls := one.calls
  rw [List.length_singleton] at calls
  -- The later batches start from the failures that the first one left.
  have kept := one.result
  cases kept
  exact {
    attended := rest.attended
    calls := by
      rw [rest.calls, calls, List.length_cons]
      omega
    result := by
      rw [rest.result, calls, Schedule.deletions_cons _ _ batch batches]
      simp only [batchFailures, List.filterMap_append, List.append_assoc, List.length_cons,
        List.length_nil]
      congr 2
      push_cast
      omega
    exchange := by
      rw [rest.exchange, calls, one.exchange, Schedule.deletions_cons _ _ batch batches]
      simp [deletionEvents]
    objects := by
      -- The later batches are deleted from what the first one left.
      rw [rest.objects, calls, one.objects, Schedule.reached_cons _ _ batch batches,
        List.flatMap_append, Table.eraseAll_append, Function.update_self, Function.update_idem]
    pageSize := rest.pageSize.trans one.pageSize }

end Deleted

namespace Attended

variable {origin depot : Depot} {borrowers : Nat}

theorem deleteBatches
    (attended : Attended origin (borrowers + 1) depot)
    (keepsOpen : origin.schedule.KeepsOpen .deleteObjects)
    (deletions : forall number, IsDeletion (origin.schedule.deletion number))
    (container : Container)
    (result : BulkResult)
    (batches : List DeleteBatch) :
    Yields (container.deleteBatches result batches) depot
      (Deleted origin (borrowers + 1) container.bucket result batches depot) := by
  -- The result so far and the depot change from batch to batch.
  induction batches generalizing depot result with
  | nil => exact .nil attended result
  | cons batch rest ih =>
    have first := attended.deleteBatch keepsOpen deletions container result batch
    refine first.bind (fun kept middle one => ?_) (fun failure middle one => ?_)
    · exact (ih one.attended kept).mono (fun outcome next later => one.cons later)
    · cases one.result

end Attended

namespace DeleteBatch

/-- Batches that are numbered from zero and have all the keys in order, as few of them as can be. -/
structure Cover (keys : List String) (batches : List DeleteBatch) : Prop where
  count : batches.length = (keys.length + 999) / 1000
  sizes : forall batch, batch ∈ batches -> 1 <= batch.keys.length ∧ batch.keys.length <= 1000
  numbers : batches.map DeleteBatch.index =
    (List.range batches.length).map (fun number : Nat => (number : Int))
  keys : batches.flatMap DeleteBatch.keys = keys

theorem cover_of_partition
    {keys : List String}
    {batches : List DeleteBatch}
    (parted : partition keys Limits.bulkDeletes = .ok batches) :
    Cover keys batches := by
  have greedy : Greedy keys 1000 batches := (partition_eq_ok_iff.mp parted).2
  constructor
  case count => exact greedy.count (by decide)
  case sizes =>
    intro batch listed
    exact greedy.filled.bounds (by decide) (List.mem_map_of_mem listed)
  case numbers =>
    refine List.ext_getElem (by simp) (fun number within _ => ?_)
    have listed : number < batches.length := by simpa using within
    simpa using greedy.numbers number _ (List.getElem?_eq_getElem listed)
  case keys => exact greedy.keys

end DeleteBatch

def Schedule.DeletesOrFails (schedule : Schedule) : Prop :=
  forall number disruption, disruption ∈ schedule.disruptions .deleteObjects number ->
    disruption.effectFirst = false ∧
      forall answer, disruption.outcome = some (.ok answer) -> answer.complaints ≠ []

theorem takesEffect_eq_unfailed
    {disruptions : List Disruption}
    (early : forall disruption, disruption ∈ disruptions ->
      disruption.effectFirst = false ∧
        forall answer, disruption.outcome = some (.ok answer) -> answer.complaints ≠ []) :
    takesEffect disruptions = (batchFailure?
      ((disruptions.findSome? Disruption.outcome).getD (.ok (.data (.map []))))).isNone := by
  induction disruptions with
  | nil => rfl
  | cons disruption rest ih =>
    obtain ⟨late, complains⟩ := early disruption List.mem_cons_self
    rw [takesEffect, late, List.findSome?_cons]
    -- Whatever answers the call before the service does is a failure of the batch.
    cases outcome : disruption.outcome with
    | none =>
      simpa using ih (fun other listed => early other (List.mem_cons_of_mem _ listed))
    | some given =>
      cases given with
      | error failure => rfl
      | ok answer =>
        simp only [Option.getD_some, batchFailure?]
        split
        next clean => exact absurd clean (complains answer outcome)
        next => rfl

def cleanBatches (ended : List (DeleteBatch × Except Failure Answer)) : List DeleteBatch :=
  (ended.filter (fun batch => (batchFailure? batch.2).isNone)).map Prod.fst

theorem Schedule.reached_eq_clean
    {schedule : Schedule}
    (early : schedule.DeletesOrFails)
    (calls : Nat)
    (batches : List DeleteBatch) :
    schedule.reached calls batches = cleanBatches (schedule.deletions calls batches) := by
  rw [reached, cleanBatches, deletions, List.filter_map, List.map_map]
  apply congrArg
  apply List.filter_congr
  intro numbered _
  exact takesEffect_eq_unfailed (early numbered.2)

/-- What a bulk deletion reports: nothing if no batch failed, and otherwise all that failed, with
the first failure as the cause and the later ones attached. -/
def bulkReport
    (names : List String)
    (ended : List (DeleteBatch × Except Failure Answer)) : Except Failure Unit :=
  match batchFailures ended with
  | [] => .ok ()
  | (batch, first) :: later => .error
      { problem := .bulkDeleteFailed
          ("Exception when deleting blobs " ++ Text.quoteList names) ended.length
        cause := some first
        suppressed := later.map Prod.snd
        batches := (batch, first) :: later }

/-- A bulk deletion accounts for all of its batches: it sends their requests one after the other,
reports those that failed, and the keys of those that took effect are gone. -/
structure Accounted
    (container : Container)
    (names : List String)
    (depot : Depot)
    (batches : List DeleteBatch)
    (outcome : Except Failure Unit)
    (next : Depot) : Prop where
  cover : DeleteBatch.Cover (names.map container.key) batches
  exchange : next.exchange = depot.exchange ++ deletionEvents container.bucket
    (depot.schedule.deletions (depot.journal.callCount .deleteObjects) batches)
  report : outcome = bulkReport names
    (depot.schedule.deletions (depot.journal.callCount .deleteObjects) batches)
  objects : next.service.objects = Function.update depot.service.objects container.bucket
    ((depot.service.objects container.bucket).eraseAll ((depot.schedule.reached
      (depot.journal.callCount .deleteObjects) batches).flatMap DeleteBatch.keys))
  spared : depot.schedule.DeletesOrFails ->
    next.service.objects = Function.update depot.service.objects container.bucket
      ((depot.service.objects container.bucket).eraseAll ((cleanBatches (depot.schedule.deletions
        (depot.journal.callCount .deleteObjects) batches)).flatMap DeleteBatch.keys))

theorem Deleted.accounted
    {origin depot left next : Depot}
    {borrowers : Nat}
    {container : Container}
    {names : List String}
    {batches : List DeleteBatch}
    {outcome : Except Failure BulkResult}
    (deleted : Deleted origin borrowers container.bucket {} batches depot outcome left)
    (cover : DeleteBatch.Cover (names.map container.key) batches)
    (schedule : depot.schedule = origin.schedule)
    (same : SameWork left next) :
    Accounted container names depot batches (bulkReport names
      (depot.schedule.deletions (depot.journal.callCount .deleteObjects) batches)) next := by
  have objects := deleted.objects
  have exchange := deleted.exchange
  rw [<- same.service, <- schedule] at objects
  rw [<- same.exchange, <- schedule] at exchange
  refine ⟨cover, exchange, rfl, objects, fun early => ?_⟩
  rw [objects, Schedule.reached_eq_clean early]

theorem Attended.borrowsBatches
    {origin depot : Depot}
    {borrowers : Nat}
    (attended : Attended origin borrowers depot)
    (container : Container)
    (leavesOpen : LeavesOpen container.store origin.schedule)
    (canLend : container.store.CanLend depot)
    (keepsOpen : origin.schedule.KeepsOpen .deleteObjects)
    (deletions : forall number, IsDeletion (origin.schedule.deletion number))
    (batches : List DeleteBatch) :
    Yields (container.store.borrowing (container.deleteBatches {} batches)) depot
      (fun outcome next => Attended origin borrowers next ∧ exists left, Idle left next ∧
        Deleted origin (borrowers + 1) container.bucket {} batches depot outcome left) := by
  have works : forall middle, Attended origin (borrowers + 1) middle -> Idle depot middle ->
      Yields (container.deleteBatches {} batches) middle (fun outcome left =>
        Attended origin (borrowers + 1) left ∧
          Deleted origin (borrowers + 1) container.bucket {} batches depot outcome left) := by
    intro middle attendedMiddle same
    exact (attendedMiddle.deleteBatches keepsOpen deletions container {} batches).mono
      (fun outcome left deleted => ⟨deleted.attended, deleted.since same.toSameWork⟩)
  refine (attended.borrowing leavesOpen canLend works).mono (fun outcome next borrowed => ?_)
  obtain ⟨attendedNext, _, left, deleted, same⟩ := borrowed
  exact ⟨attendedNext, left, same, deleted⟩

theorem Attended.deleteBlobsIfExist
    {origin depot : Depot}
    {borrowers : Nat}
    (attended : Attended origin borrowers depot)
    (container : Container)
    (leavesOpen : LeavesOpen container.store origin.schedule)
    (canLend : container.store.CanLend depot)
    (keepsOpen : origin.schedule.KeepsOpen .deleteObjects)
    (deletions : forall number, IsDeletion (origin.schedule.deletion number))
    (names : List String) :
    exists batches, Yields (container.deleteBlobsIfExist names) depot (fun outcome next =>
      Attended origin borrowers next ∧ next.service.pageSize = depot.service.pageSize ∧
        Accounted container names depot batches outcome next) := by
  have schedule := attended.lent.sameSchedule
  obtain ⟨batches, parted⟩ : exists batches,
      DeleteBatch.partition (names.map container.key) Limits.bulkDeletes = .ok batches := ⟨_, rfl⟩
  have cover := DeleteBatch.cover_of_partition parted
  refine ⟨batches, ?_⟩
  rw [Container.deleteBlobsIfExist]
  by_cases some : names = []
  next =>
    -- Without names there is nothing to ask for.
    subst some
    have none : batches = [] := by simpa using cover.count
    subst none
    exact ⟨attended, rfl, (Deleted.nil attended {}).accounted cover schedule (SameWork.refl depot)⟩
  next =>
    have filled : names.isEmpty = false := by simpa using some
    simp only [filled, Bool.false_eq_true, if_false, parted]
    have deletes := attended.borrowsBatches container leavesOpen canLend keepsOpen deletions batches
    refine deletes.bind (fun result next borrowed => ?_) (fun failure next borrowed => ?_)
    · obtain ⟨attendedNext, left, same, deleted⟩ := borrowed
      have pageSize : next.service.pageSize = depot.service.pageSize :=
        same.service ▸ deleted.pageSize
      have accounted := deleted.accounted cover schedule same.toSameWork
      have kept := deleted.result
      rw [<- schedule, List.nil_append, Except.ok.injEq] at kept
      subst kept
      -- What is reported depends on whether there is a first failure.
      rw [bulkReport] at accounted
      cases failed : batchFailures (depot.schedule.deletions
          (depot.journal.callCount .deleteObjects) batches) with
      | nil =>
        rw [failed] at accounted
        exact ⟨attendedNext, pageSize, accounted⟩
      | cons first later =>
        rw [failed] at accounted
        have attempts : ((0 : Int) + batches.length) = (depot.schedule.deletions
            (depot.journal.callCount .deleteObjects) batches).length := by
          simp [Schedule.deletions]
        simp only [<- attempts, Int.zero_add] at accounted
        refine ⟨attendedNext, pageSize, ?_⟩
        simpa [BulkResult.primary, BulkResult.toFailure, BulkResult.secondary] using accounted
    · obtain ⟨_, left, _, deleted⟩ := borrowed
      cases deleted.result

/-- In every state that a run of a store reaches, as long as the store is open and has a client or
can make one, a bulk deletion accounts for all of its batches, whatever comes of their requests. -/
theorem deleteBlobsIfExist_accounted
    (store : Store)
    (origin : Depot)
    (steps : List StoreStep)
    (path : BlobPath)
    (names : List String)
    (leavesOpen : LeavesOpen store origin.schedule)
    (opened : origin.closed = false)
    (unmade : origin.current = none)
    (keepsOpen : origin.schedule.KeepsOpen .deleteObjects)
    (deletions : forall number, IsDeletion (origin.schedule.deletion number))
    (isOpen : (Tenancy.run store origin steps).depot.closed = false)
    (canLend : store.CanLend (Tenancy.run store origin steps).depot) :
    exists batches, Yields (Container.deleteBlobsIfExist ⟨store, path⟩ names)
      (Tenancy.run store origin steps).depot
      (Accounted ⟨store, path⟩ names (Tenancy.run store origin steps).depot batches) := by
  have sound := Tenancy.sound_run leavesOpen opened unmade steps
  have attended : Attended origin _ _ := ⟨sound.lent, isOpen⟩
  obtain ⟨batches, deleted⟩ :=
    attended.deleteBlobsIfExist ⟨store, path⟩ leavesOpen canLend keepsOpen deletions names
  exact ⟨batches, deleted.mono (fun outcome next done => done.2.2)⟩

theorem deleteBlobsIfExist_accounted_thrice :
    let complaint := Value.ofFields [("Key", .text "x"), ("Code", .text "AccessDenied")]
    let schedule := (Schedule.calm.add .deleteObjects [1]
      { outcome := some (.error (.of (.transport .noCredentials))) }).add .deleteObjects [2]
        { outcome := some (.ok (.data (.ofFields [("Errors", .list [complaint])]))) }
    let origin : Depot := { schedule := schedule }
    let names := List.replicate 2001 "x"
    let depot := (Tenancy.run .small origin [.borrow]).depot
    schedule.KeepsOpen .deleteObjects ∧ (forall number, IsDeletion (schedule.deletion number)) ∧
      Store.CanLend .small depot ∧ exists batches,
        Yields (Container.deleteBlobsIfExist ⟨.small, {}⟩ names) depot
          (Accounted ⟨.small, {}⟩ names depot batches) := by
  intro complaint schedule origin names depot
  have leavesOpen : LeavesOpen .small schedule :=
    ((leavesOpen_calm .small).add (by decide) [1]).add (by decide) [2]
  have keepsOpen : schedule.KeepsOpen .deleteObjects :=
    ((Schedule.keepsOpen_calm .deleteObjects).add rfl .deleteObjects [1]).add rfl .deleteObjects [2]
  have deletions : forall number, IsDeletion (schedule.deletion number) := by
    intro number
    by_cases first : number = 1
    next =>
      subst first
      exact .failed _ (.unanswered rfl)
    next =>
      by_cases second : number = 2
      next =>
        subst second
        exact .answered _ _ rfl (.inr ⟨[complaint], rfl, by simp [complaint, Value.ofFields]⟩)
      next =>
        have plain : schedule.deletion number = .ok (.data (.map [])) := by
          simp [schedule, Schedule.deletion, Schedule.outcome?, Schedule.add, first, second]
        rw [plain]
        exact .answered _ [] rfl (.inl rfl)
  have canLend : Store.CanLend .small depot := .inl (by decide)
  exact ⟨keepsOpen, deletions, canLend, deleteBlobsIfExist_accounted .small origin [.borrow] {}
    names leavesOpen rfl rfl keepsOpen deletions rfl canLend⟩

theorem Steady.deleteBlobsIfExist
    {origin depot : Depot}
    {borrowers : Nat}
    (steady : Steady origin borrowers depot)
    (container : Container)
    (names : List String) :
    Serves origin borrowers (container.deleteBlobsIfExist names) depot (fun outcome service =>
      outcome = .ok () ∧ service.objects =
        Function.update depot.service.objects container.bucket
          ((depot.service.objects container.bucket).eraseAll (names.map container.key))) := by
  have plain : forall number, origin.schedule.deletion number = .ok (.data (.map [])) := by
    intro number
    rw [Schedule.deletion, Schedule.outcome?, steady.calm]
    rfl
  obtain ⟨batches, deleted⟩ := steady.attended.deleteBlobsIfExist container
    (steady.calm.leavesOpen container.store) (steady.canLend container.store)
    (steady.keepsOpen .deleteObjects)
    (fun number => plain number ▸ .answered _ [] rfl (.inl rfl)) names
  refine deleted.mono (fun outcome next done => ?_)
  obtain ⟨attended, pageSize, accounted⟩ := done
  refine ⟨⟨attended.lent, attended.opened, steady.calm, pageSize ▸ steady.paged⟩, ?_, ?_⟩
  · have none : batchFailures (depot.schedule.deletions
        (depot.journal.callCount .deleteObjects) batches) = [] := by
      apply List.filterMap_eq_nil_iff.mpr
      intro ended listed
      obtain ⟨numbered, _, rfl⟩ := List.mem_map.mp listed
      simp only [steady.lent.sameSchedule, plain]
      rfl
    rw [accounted.report, bulkReport, none]
  · have all : depot.schedule.reached (depot.journal.callCount .deleteObjects) batches =
        batches := by
      simp [Schedule.reached, steady.isCalm .deleteObjects _, takesEffect]
    rw [accounted.objects, all, accounted.cover.keys]

end BlobDepot
