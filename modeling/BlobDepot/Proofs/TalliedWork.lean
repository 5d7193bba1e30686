import BlobDepot.Proofs.Tallies

set_option autoImplicit false

namespace BlobDepot

open BlobDepot.Action

def Problem.isReport (problem : Problem) : Bool :=
  [.blobStore, .blobIO, .blobNotFound, .bulkDelete].contains problem.kind

def Failure.isReport (failure : Failure) : Bool :=
  failure.problem.isReport

def Complains {α : Type} (events : List Event) (outcome : Except Failure α) : Prop :=
  forall failure, outcome = .error failure -> events = [] ∨ failure.isReport = true

namespace Complains

variable {α : Type}

theorem ok (events : List Event) (result : α) : Complains events (.ok result) := by
  rintro failure ⟨⟩

theorem at_once (outcome : Except Failure α) : Complains [] outcome :=
  fun _ _ => .inl rfl

theorem report {failure : Failure} (isReport : failure.isReport = true) (events : List Event) :
    Complains events (.error failure : Except Failure α) := by
  rintro _ ⟨⟩
  exact .inr isReport

end Complains

def Request.IsSingle (request : Request) : Prop :=
  request.method ≠ .deleteObjects

namespace Attended

variable {origin depot : Depot} {borrowers : Nat}

theorem tallies_objectExists
    (attended : Attended origin (borrowers + 1) depot)
    (fitting : origin.schedule.AnswersFit)
    (bucket key : String) :
    Deals origin (borrowers + 1) Request.IsSingle (Client.objectExists bucket key) depot
      (fun events outcome => events ≠ [] ∧
        forall failure, outcome = .error failure -> failure.isA .ordinary = true) := by
  refine (attended.send (.headObject bucket key) (fitting.keepsOpen _)).attempt_bind
    (fun given next responded => ?_)
  have dealt : Dealt origin (borrowers + 1) Request.IsSingle depot
      ((Request.headObject bucket key).events given) 0 next := responded.dealt nofun
  cases responded.fits fitting with
  | answered answer _ => exact ⟨_, dealt, nofun, nofun⟩
  | failed failure fault =>
    simp only [fault.fromService, if_true, fault.absent]
    -- A rejection may say that the object is not there, which is no failure.
    cases failure.isAbsent with
    | true => exact ⟨_, dealt, nofun, nofun⟩
    | false =>
      refine ⟨_, dealt, nofun, ?_⟩
      rintro _ ⟨⟩
      exact fault.reported_ordinary _

theorem tallies_blobExists
    {container : Container}
    (attended : Attended origin borrowers depot)
    (leavesOpen : LeavesOpen container.store origin.schedule)
    (fitting : origin.schedule.AnswersFit)
    (name : String) :
    Deals origin borrowers Request.IsSingle (container.blobExists name) depot
      (fun events outcome => Complains events outcome ∧
        forall found, outcome = .ok found -> events ≠ []) := by
  have borrows : Deals origin borrowers Request.IsSingle
      (container.store.borrowing (Client.objectExists container.bucket (container.key name))) depot
      (fun events outcome => (forall failure, outcome = .error failure ->
        events = [] ∨ failure.isA .ordinary = true) ∧
          forall found, outcome = .ok found -> events ≠ []) := by
    refine attended.deals_borrowing leavesOpen (fun middle attendedMiddle _ => ?_)
      (fun _ _ _ => ⟨fun _ _ => .inl rfl, nofun⟩)
    exact (attendedMiddle.tallies_objectExists fitting _ _).mono (fun _ _ done =>
      ⟨fun failure failed => .inr (done.2 failure failed), fun _ _ => done.1⟩)
  refine borrows.attempt_bind (fun outcome events left done dealt => ?_)
  cases outcome with
  | ok found =>
    refine .at_once dealt.attended rfl ⟨.ok _ _, ?_⟩
    rw [List.append_nil]
    exact fun _ _ => done.2 found rfl
  | error failure =>
    refine .at_once dealt.attended rfl ⟨?_, nofun⟩
    rw [List.append_nil]
    rintro _ ⟨⟩
    refine (done.1 failure rfl).imp_right (fun ordinary => ?_)
    rw [if_pos ordinary]
    rfl

theorem tallies_getObject
    (attended : Attended origin (borrowers + 1) depot)
    (fitting : origin.schedule.AnswersFit)
    (bucket key : String) :
    Deals origin (borrowers + 1) Request.IsSingle (Client.getObject bucket key) depot
      (fun _ outcome => match outcome with
        | .ok content => exists body, content = .stream body
        | .error failure => failure.isA .backend = true) := by
  refine (attended.asksUncounted fitting (.getObject bucket key) nofun (fun _ => rfl)
    "Failed to get object").bind (fun answer events left fits dealt => ?_)
    (fun failure events backend => backend)
  obtain ⟨body, rfl⟩ : exists body, answer = .content body := fits
  exact .at_once dealt.attended rfl ⟨body, rfl⟩

theorem tallies_readBlob
    {container : Container}
    (attended : Attended origin borrowers depot)
    (leavesOpen : LeavesOpen container.store origin.schedule)
    (fitting : origin.schedule.AnswersFit)
    (name : String) :
    Deals origin borrowers Request.IsSingle (container.readBlob name) depot
      (fun events outcome => Complains events outcome ∧
        forall content, outcome = .ok content -> exists body, content = .stream body) := by
  refine attended.deals_borrowing leavesOpen (fun middle attendedMiddle _ => ?_)
    (fun _ _ _ => ⟨.at_once _, nofun⟩)
  refine (attendedMiddle.tallies_getObject fitting _ _).attempt_bind
    (fun outcome events left done dealt => ?_)
  cases outcome with
  | ok content =>
    refine .at_once dealt.attended rfl ⟨.ok _ _, ?_⟩
    rintro _ ⟨⟩
    exact done
  | error failure =>
    refine .at_once dealt.attended rfl ⟨.report ?_ _, nofun⟩
    have backend : failure.isA .backend = true := done
    simp only [Container.readFailure, backend, if_true]
    split
    next => rfl
    next => rfl

inductive DeletionTallied (depot : Depot) (events : List Event) (entered : Tally) :
    Except Failure Unit -> Prop
  | deleted (counted : tallied events = entered + { deletedSingly := 1 }) :
      DeletionTallied depot events entered (.ok ())
  | failed {failure : Failure}
      (same : tallied events = entered)
      (fails : events = [] ∧ depot.current = none ∨ failure.isA .backend = true) :
      DeletionTallied depot events entered (.error failure)

theorem tallies_deleteBlobIfExists
    {container : Container}
    (attended : Attended origin borrowers depot)
    (leavesOpen : LeavesOpen container.store origin.schedule)
    (fitting : origin.schedule.AnswersFit)
    (name : String) :
    Deals origin borrowers Request.IsSingle (container.deleteBlobIfExists name) depot
      (fun events outcome => forall failure, outcome = .error failure ->
        events = [] ∧ depot.current = none ∨ failure.isReport = true) := by
  have lends : Yields (container.store.borrowing
      (Client.deleteObject container.bucket (container.key name))) depot (fun outcome next =>
        exists events entered, Dealt origin borrowers Request.IsSingle depot events entered next ∧
          DeletionTallied depot events entered outcome) := by
    refine attended.lends leavesOpen (fun middle attendedMiddle _ => ?_)
      (fun _ unmade _ => .failed rfl (.inl ⟨rfl, unmade⟩))
    have single : (Request.deleteObject container.bucket (container.key name)).IsSingle := by
      rintro ⟨⟩
    refine (attendedMiddle.answers fitting _ single _).bind (fun answer left asked => ?_)
      (fun failure left asked => ?_)
    · obtain ⟨given, _, dealt, isOutcome⟩ := asked
      cases given with
      | ok answer => exact ⟨_, 0, dealt, .deleted (tallied_events _ _)⟩
      | error failure => cases isOutcome
    · obtain ⟨given, fits, dealt, isOutcome⟩ := asked
      cases fits with
      | answered answer _ => cases isOutcome
      | failed other fault =>
        cases isOutcome
        exact ⟨_, 0, dealt, .failed (tallied_events _ _) (.inr (fault.reported_backend _))⟩
  rw [Deals, Container.deleteBlobIfExists, Container.reporting, bind_assoc]
  refine lends.attempt_bind (fun outcome left done => ?_)
  obtain ⟨events, entered, dealt, answered⟩ := done
  cases answered with
  | deleted counted =>
    refine ⟨events, ?_, by rintro _ ⟨⟩⟩
    rw [counted]
    exact dealt.counted Metrics.tally_countDeleted
  | failed same failed =>
    refine ⟨events, same ▸ dealt, ?_⟩
    rintro _ ⟨⟩
    refine failed.imp_right (fun backend => ?_)
    rw [if_pos backend]
    rfl

theorem tallies_deleteBlob
    {container : Container}
    (attended : Attended origin borrowers depot)
    (leavesOpen : LeavesOpen container.store origin.schedule)
    (fitting : origin.schedule.AnswersFit)
    (name : String) :
    Deals origin borrowers Request.IsSingle (container.deleteBlob name) depot Complains := by
  refine (attended.tallies_blobExists leavesOpen fitting name).bind
    (fun found events left done dealt => ?_) (fun failure events done => ?_)
  · cases found with
    | false => exact .at_once dealt.attended rfl (.report rfl _)
    | true =>
      -- The check made a client, if there was none.
      have made : left.current ≠ none := dealt.current (.inl (done.2 true rfl))
      refine (dealt.attended.tallies_deleteBlobIfExists leavesOpen fitting name).mono
        (fun later outcome fails failure failed => .inr ?_)
      exact (fails failure failed).resolve_left (fun unmade => made unmade.2)
  · rintro _ ⟨⟩
    exact done.1 failure rfl

end Attended

theorem Schedule.AnswersFit.deletions
    {schedule : Schedule}
    (fitting : schedule.AnswersFit)
    (number : Nat) :
    IsDeletion (schedule.deletion number) := by
  rw [Schedule.deletion]
  cases given : schedule.outcome? .deleteObjects number with
  | none => exact .answered _ [] rfl (.inl rfl)
  | some outcome =>
    obtain ⟨disruption, listed, isOutcome⟩ := List.exists_of_findSome?_eq_some given
    exact ((fitting (.deleteObjects "" [] true) number disruption listed).2 outcome
      isOutcome).deletion

theorem tally_deletion (bucket : String) (keys : List String) (given : Except Failure Answer) :
    (Event.answered (.deleteObjects bucket keys true) given).tally =
      match batchFailure? given with
      | none => { deletedInBulk := keys.length }
      | some _ => { failedBatches := 1 } := by
  cases given with
  | error failure => rfl
  | ok answer =>
    rw [Event.tally, batchFailure?]
    cases answer.complaints <;> rfl

namespace Attended

variable {origin depot : Depot} {borrowers : Nat}

theorem tallies_deleteBatch
    (attended : Attended origin (borrowers + 1) depot)
    (fitting : origin.schedule.AnswersFit)
    (container : Container)
    (result : BulkResult)
    (batch : DeleteBatch) :
    Deals origin (borrowers + 1) (fun _ => True) (container.deleteBatch result batch) depot
      (fun events outcome => exists extended, outcome = .ok extended ∧
        extended.failures.length = result.failures.length + (tallied events).failedBatches) := by
  have keepsOpen := fitting.keepsOpen (.deleteObjects "" [] true)
  refine (attended.bulkDelete keepsOpen fitting.deletions container.bucket
    batch.keys).attempt_bind (fun outcome left done => ?_)
  obtain ⟨given, isGiven, responded, rfl⟩ := done
  let request : Request := .deleteObjects container.bucket batch.keys true
  have dealt : Dealt origin (borrowers + 1) (fun _ => True) depot (request.events given) 0 left :=
    responded.dealt trivial
  have tally := tally_deletion container.bucket batch.keys given
  rw [<- tallied_events] at tally
  cases failed : batchFailure? given with
  | none =>
    rw [failed] at tally
    refine ⟨request.events given, ?_, _, rfl, ?_⟩
    · rw [tally]
      exact zero_add (Tally.mk ..) ▸ dealt.counted (fun metrics => metrics.tally_countBatch _)
    · rw [tally]
      rfl
  | some failure =>
    rw [failed] at tally
    have backend := batchFailure_backend (isGiven ▸ fitting.deletions _) failed
    have counted := (dealt.counted Metrics.tally_countFailedBatch).logged "warning"
      "bulk_delete_batch_failed" [("bucket", .text container.bucket), ("batch", .int batch.index),
        ("keys", .int batch.keys.length), ("error", .text failure.message)]
    rw [zero_add] at counted
    simp only [backend, if_true]
    refine ⟨request.events given, ?_, _, rfl, ?_⟩
    · rw [tally]
      exact counted
    · rw [tally]
      simp [BulkResult.recordFailure, BulkResult.attempt]

theorem tallies_deleteBatches
    (attended : Attended origin (borrowers + 1) depot)
    (fitting : origin.schedule.AnswersFit)
    (container : Container)
    (result : BulkResult)
    (batches : List DeleteBatch) :
    Deals origin (borrowers + 1) (fun _ => True) (container.deleteBatches result batches) depot
      (fun events outcome => exists extended, outcome = .ok extended ∧
        extended.failures.length = result.failures.length + (tallied events).failedBatches) := by
  induction batches generalizing result depot with
  | nil => exact .at_once attended rfl ⟨result, rfl, rfl⟩
  | cons batch rest ih =>
    refine (attended.tallies_deleteBatch fitting container result batch).bind
      (fun extended events left done dealt => ?_) (fun failure events done => ?_)
    · obtain ⟨_, same, count⟩ := done
      cases same
      refine (ih dealt.attended extended).mono (fun later outcome done => ?_)
      obtain ⟨final, isFinal, more⟩ := done
      refine ⟨final, isFinal, ?_⟩
      rw [more, count, tallied_append, Tally.failedBatches_add, Nat.add_assoc]
    · obtain ⟨_, same, _⟩ := done
      cases same

inductive BatchesTallied (failed : Failure -> Prop) (events : List Event) :
    Except Failure BulkResult -> Prop
  | gathered {result : BulkResult}
      (count : result.failures.length = (tallied events).failedBatches) :
      BatchesTallied failed events (.ok result)
  | unmade {failure : Failure}
      (unasked : events = [])
      (fails : failed failure) :
      BatchesTallied failed events (.error failure)

theorem tallies_deleteBlobsIfExist
    {container : Container}
    (attended : Attended origin borrowers depot)
    (leavesOpen : LeavesOpen container.store origin.schedule)
    (fitting : origin.schedule.AnswersFit)
    (names : List String) :
    Deals origin borrowers (fun _ => True) (container.deleteBlobsIfExist names) depot
      (fun events outcome =>
        match outcome with
        | .ok _ => (tallied events).failedBatches = 0
        | .error failure => events = [] ∧ (container.store.makeClient depot).1 = .error failure ∨
            failure.kind = .bulkDelete ∧
              failure.batches.length = (tallied events).failedBatches) := by
  rw [Container.deleteBlobsIfExist]
  by_cases empty : names.isEmpty = true
  next =>
    simp only [empty, if_true]
    exact .at_once attended rfl rfl
  next =>
    simp only [empty, Bool.false_eq_true, if_false]
    have borrows : forall batches, Deals origin borrowers (fun _ => True)
        (container.store.borrowing (container.deleteBatches {} batches)) depot
        (BatchesTallied fun failure => (container.store.makeClient depot).1 = .error failure) := by
      intro batches
      refine attended.deals_borrowing leavesOpen (fun middle attendedMiddle _ => ?_)
        (fun failure _ fails => .unmade rfl fails)
      refine (attendedMiddle.tallies_deleteBatches fitting container {} batches).mono
        (fun events outcome done => ?_)
      obtain ⟨result, rfl, count⟩ := done
      exact .gathered (count.trans (Nat.zero_add _))
    -- The size of batches is positive, so the keys can be cut.
    refine Yields.after (show checked _ depot = _ from rfl) ?_
    refine (borrows _).bind (fun result events left gathered dealt => ?_)
      (fun failure events unmade => ?_)
    · obtain ⟨count⟩ := gathered
      cases primary : result.primary with
      | none =>
        refine .at_once dealt.attended rfl ?_
        have none : result.failures = [] := List.head?_eq_none_iff.mp primary
        rw [List.append_nil, <- count, none]
        rfl
      | some first =>
        refine .at_once dealt.attended rfl (.inr ⟨rfl, ?_⟩)
        rw [List.append_nil, <- count]
        rfl
    · obtain _ | ⟨unasked, fails⟩ := unmade
      exact .inl ⟨unasked, fails⟩

end Attended

end BlobDepot
