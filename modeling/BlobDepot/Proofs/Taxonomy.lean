import BlobDepot.Proofs.AcceptedWrites
import BlobDepot.Proofs.Deletions
import BlobDepot.Proofs.Drains
import BlobDepot.Proofs.FailedRequests

set_option autoImplicit false

namespace BlobDepot

open BlobDepot.Action

inductive Blames
    {α : Type}
    (kindOf? : Request -> Failure -> Option Kind)
    (depot : Depot) : Except Failure α -> Depot -> Prop
  | succeeded (result : α) (next : Depot) (met : Met none depot next) :
      Blames kindOf? depot (.ok result) next
  | failed (failure reported fault : Failure) (request : Request) (next : Depot)
      (met : Met (some (request, fault)) depot next)
      (kind : kindOf? request fault = some failure.kind)
      (cause : failure.cause = some reported)
      (backend : reported.isA .backend = true)
      (origin : reported.cause = some fault) :
      Blames kindOf? depot (.error failure) next

namespace Blames

variable {α β : Type} {kindOf? : Request -> Failure -> Option Kind} {depot next : Depot}

theorem reported
    {failure fault : Failure}
    {request : Request}
    {doing : String}
    (isFault : fault.IsFault)
    (met : Met (some (request, fault)) depot next)
    (kind : kindOf? request fault = some failure.kind)
    (cause : failure.cause = some (fault.reported doing)) :
    Blames kindOf? depot (.error failure : Except Failure α) next :=
  .failed failure _ fault request next met kind cause (isFault.reported_backend doing)
    (isFault.reported_cause doing)

theorem error
    {failure : Failure}
    (blames : Blames kindOf? depot (.error failure : Except Failure α) next) :
    Blames kindOf? depot (.error failure : Except Failure β) next := by
  cases blames with
  | failed _ reported fault request _ met kind cause backend origin =>
    exact .failed failure reported fault request next met kind cause backend origin

theorem since
    {first : Depot}
    {outcome : Except Failure α}
    (blames : Blames kindOf? depot outcome next)
    (met : Met none first depot) :
    Blames kindOf? first outcome next := by
  cases blames with
  | succeeded result _ unfaulted => exact .succeeded result next (met.trans unfaulted)
  | failed failure reported fault request _ hit kind cause backend origin =>
    exact .failed failure reported fault request next (met.trans hit) kind cause backend origin

end Blames

theorem Caused.blames
    {α : Type}
    {schedule : Schedule}
    {kind : Kind}
    {depot next : Depot}
    {outcome : Except Failure α}
    (caused : Caused schedule kind depot outcome next)
    {kindOf? : Request -> Failure -> Option Kind}
    (always : forall request fault, kindOf? request fault = some kind) :
    Blames kindOf? depot outcome next := by
  cases outcome with
  | ok result => exact .succeeded result next caused
  | error failure =>
    obtain ⟨isKind, cause, isCause, request, fault, doing, rfl, isFault, _, met⟩ := caused
    exact .reported isFault met (isKind.symm ▸ always request fault) isCause

theorem Caused.blames_sourced
    {α : Type}
    {schedule : Schedule}
    {kind : Kind}
    {depot next : Depot}
    {source : Source}
    {outcome : Except Failure α}
    {kindOf? : Request -> Failure -> Option Kind}
    (caused : Caused schedule kind { depot with source := source } outcome next)
    (always : forall request fault, kindOf? request fault = some kind) :
    Blames kindOf? depot outcome next :=
  (caused.blames always).since ⟨[], (List.append_nil _).symm, rfl⟩

theorem batchFailures_first
    {bucket : String}
    {ended : List (DeleteBatch × Except Failure Answer)}
    (plain : forall batch, batch ∈ ended -> batch.2 = .ok (.data (.map [])) ∨
      exists fault : Failure, batch.2 = .error fault ∧ fault.IsFault) :
    match batchFailures ended with
    | [] => firstFault? (deletionEvents bucket ended) = none
    | (batch, failure) :: _ => exists fault, fault.IsFault ∧
        failure = fault.reported "Failed to delete objects" ∧
        firstFault? (deletionEvents bucket ended) =
          some (.deleteObjects bucket batch.keys true, fault) := by
  induction ended with
  | nil => rfl
  | cons first rest ih =>
    have later := ih (fun batch listed => plain batch (.tail _ listed))
    -- A batch that does not fail shows no fault either, so both are looked for in the rest.
    obtain ⟨batch, reply⟩ := first
    rcases plain (batch, reply) List.mem_cons_self with isOk | ⟨fault, isError, isFault⟩
    next =>
      have isReply : reply = .ok (.data (.map [])) := isOk
      subst isReply
      exact later
    next =>
      have isReply : reply = .error fault := isError
      subst isReply
      exact ⟨fault, isFault, rfl, rfl⟩

section Deleting

variable {origin depot : Depot} {borrowers : Nat}

theorem Schedule.OnlyFaults.deletion
    {schedule : Schedule}
    (faulty : schedule.OnlyFaults)
    (number : Nat) :
    schedule.deletion number = .ok (.data (.map [])) ∨
      exists fault : Failure, schedule.deletion number = .error fault ∧ fault.IsFault := by
  rw [Schedule.deletion]
  cases given : schedule.outcome? .deleteObjects number with
  | none => exact .inl rfl
  | some outcome =>
    right
    exact faulty.outcome (.deleteObjects "" [] true) given

theorem Attended.blames_deleteBlobsIfExist
    {container : Container}
    (attended : Attended origin borrowers depot)
    (faulty : origin.schedule.OnlyFaults)
    (leavesOpen : LeavesOpen container.store origin.schedule)
    (canLend : container.store.CanLend depot)
    (names : List String) :
    Yields (container.deleteBlobsIfExist names) depot
      (Blames (fun _ _ => some .bulkDelete) depot) := by
  have deletions : forall number, IsDeletion (origin.schedule.deletion number) := by
    intro number
    rcases faulty.deletion number with isOk | ⟨fault, isError, isFault⟩
    next =>
      rw [isOk]
      exact .answered _ [] rfl (.inl rfl)
    next =>
      rw [isError]
      exact .failed fault isFault
  obtain ⟨batches, deleted⟩ := attended.deleteBlobsIfExist container leavesOpen canLend
    (faulty.keepsOpen (.deleteObjects "" [] true)) deletions names
  refine deleted.mono (fun outcome next done => ?_)
  obtain ⟨_, _, accounted⟩ := done
  have met := accounted.exchange
  have report := accounted.report
  rw [attended.lent.sameSchedule] at met report
  have first := @batchFailures_first container.bucket
    (origin.schedule.deletions (depot.journal.callCount .deleteObjects) batches) (by
      intro batch listed
      obtain ⟨numbered, _, rfl⟩ := List.mem_map.mp listed
      exact faulty.deletion numbered.2)
  rw [bulkReport] at report
  -- The first batch that failed is the one whose request met the first fault.
  cases failed : batchFailures
      (origin.schedule.deletions (depot.journal.callCount .deleteObjects) batches) with
  | nil =>
    rw [failed] at report first
    rw [report]
    exact .succeeded () next ⟨_, met, first⟩
  | cons one others =>
    obtain ⟨batch, failure⟩ := one
    rw [failed] at report first
    obtain ⟨fault, isFault, isReported, isFirst⟩ := first
    rw [report]
    exact .reported isFault ⟨_, met, isFirst⟩ rfl (congrArg some isReported)

end Deleting

theorem Drains.firstFault
    {pageAnswer : Nat -> Option Value -> Except Failure Answer}
    {number : Nat}
    {token : Option Value}
    {requests : List (Option Value × Except Failure Answer)}
    {ended : Except Failure (List (String × Int))}
    (drains : Drains pageAnswer number token requests ended)
    (bucket start : String) :
    match ended with
    | .ok _ => firstFault? (listingEvents bucket start requests) = none
    | .error failure => exists token, firstFault? (listingEvents bucket start requests) =
        some (.listObjects bucket start token, failure) := by
  induction drains with
  | last given shows => rfl
  | @failed _ token _ given fault => exact ⟨token, rfl⟩
  | @next _ _ _ _ _ _ ended given shows drains ih =>
    -- A page that was shown met no fault, so the pages after it decide.
    cases ended with
    | ok listed => exact ih
    | error failure => exact ih

theorem Schedule.OnlyFaults.givesPages
    {depot : Depot}
    (faulty : depot.schedule.OnlyFaults)
    (bucket start : String)
    (number : Nat) :
    GivesPages (depot.pageAnswer bucket start) (fun _ => True) (depot.service.objects bucket) start
      depot.service.pageSize number := by
  intro later token index _ named
  have responds := faulty.respond (.listObjects bucket start token) later depot.service
  simp only [Request.method] at responds
  rw [Depot.pageAnswer, responds]
  cases given : depot.schedule.outcome? .listObjects later with
  | none =>
    left
    simp only [Service.answer_listObjects, named]
  | some outcome =>
    right
    obtain ⟨fault, isError, isFault⟩ := faulty.outcome (.listObjects bucket start token) given
    exact ⟨fault, isError, isFault, trivial⟩

theorem Attended.blames_listBlobs
    {origin depot : Depot}
    {borrowers : Nat}
    {container : Container}
    (attended : Attended origin borrowers depot)
    (faulty : origin.schedule.OnlyFaults)
    (leavesOpen : LeavesOpen container.store origin.schedule)
    (canLend : container.store.CanLend depot)
    (paged : 0 < depot.service.pageSize)
    (selection : Option String) :
    Yields (container.listBlobs selection) depot (Blames (fun _ _ => some .blobIO) depot) := by
  have faultyHere : depot.schedule.OnlyFaults := attended.lent.sameSchedule.symm ▸ faulty
  have first : Service.tokenIndex? none = some 0 := rfl
  -- A listing ends in any case; with which fault, if any, is read off its last request.
  obtain ⟨requests, ended, drains, _⟩ := exists_drains paged rfl _
    (faultyHere.givesPages container.bucket (container.keyPath ++ selection.getD "")
      (depot.journal.callCount .listObjects + 1)) first (Nat.le_of_eq (Nat.zero_add _).symm)
  refine (attended.listBlobs container leavesOpen canLend
    (faulty.keepsOpen (.listObjects "" "" none)) drains).mono (fun outcome next done => ?_)
  obtain ⟨_, _, drained⟩ := done
  have hit := drains.firstFault container.bucket (container.keyPath ++ selection.getD "")
  cases ended with
  | ok entries =>
    obtain ⟨listing, rfl, _⟩ := drained.listed entries rfl
    exact .succeeded listing next ⟨_, drained.exchange, hit⟩
  | error failure =>
    obtain ⟨token, isFirst⟩ := hit
    rw [drained.failed failure rfl]
    exact .reported (drains.fault rfl) ⟨_, drained.exchange, isFirst⟩ rfl rfl

namespace Operation

/-- The kind of what an operation fails with, by the request that failed first.  That a blob is
absent is no failure when it is looked for. -/
def kindOf? : Operation -> Request -> Failure -> Option Kind
  | .check _, _, fault | .delete _, .headObject _ _, fault =>
      if fault.isAbsent then none else some .blobStore
  | .read _, _, fault => some (if fault.isAbsent then .blobNotFound else .blobIO)
  | .deleteMany _, _, _ => some .bulkDelete
  | _, _, _ => some .blobIO

def Suits (config : Config) : Operation -> Prop
  | .write _ source size _ => 0 <= size ∧ config.Accepts size ∧ source.Gives size
  | .writeBytes _ content _ => config.Accepts content.length
  | _ => True

end Operation

inductive Classified (operation : Operation) (depot : Depot) :
    Except Failure Reply -> Depot -> Prop
  | blamed (outcome : Except Failure Reply) (next : Depot)
      (blames : Blames operation.kindOf? depot outcome next) :
      Classified operation depot outcome next
  | notFound (name : String) (request : Request) (fault : Failure) (next : Depot)
      (isCheck : operation = .check name)
      (looks : request.method = .headObject)
      (absent : fault.isAbsent = true)
      (met : Met (some (request, fault)) depot next) :
      Classified operation depot (.ok (.found false)) next
  | missing (name : String) (request : Request) (fault : Failure) (next : Depot)
      (isDelete : operation = .delete name)
      (looks : request.method = .headObject)
      (absent : fault.isAbsent = true)
      (met : Met (some (request, fault)) depot next) :
      Classified operation depot (.error (.of (.blobMissing name))) next

namespace Attended

variable {origin depot : Depot} {borrowers : Nat} {container : Container}

theorem classifies
    {α : Type}
    {first : Depot}
    {operation : Operation}
    {work : Action α}
    (blames : Yields work depot (Blames operation.kindOf? first))
    (f : α -> Reply) :
    Yields (work >>= fun result => pure (f result)) depot (Classified operation first) := by
  refine blames.bind (fun result next done => ?_) (fun failure next done => ?_)
  · cases done with
    | succeeded _ _ met => exact .blamed _ next (.succeeded _ next met)
  · exact .blamed _ next done.error

theorem classifies_check
    (attended : Attended origin borrowers depot)
    (faulty : origin.schedule.OnlyFaults)
    (leavesOpen : LeavesOpen container.store origin.schedule)
    (canLend : container.store.CanLend depot)
    (name : String) :
    Yields ((Operation.check name).run container) depot (Classified (.check name) depot) := by
  refine (attended.blobExists faulty leavesOpen canLend name).bind (fun found next done => ?_)
    (fun failure next done => ?_)
  · obtain ⟨_, _, reply, replied, finds⟩ := done
    cases finds with
    | found answer => exact .blamed _ next (.succeeded _ next replied.met)
    | absent fault absent => exact .notFound name _ fault next rfl rfl absent replied.met
  · obtain ⟨_, _, reply, replied, finds⟩ := done
    cases finds with
    | failed fault _ doing present kind cause =>
      have isKind : (Operation.check name).kindOf? (.headObject container.bucket
          (container.key name)) fault = some failure.kind := by
        rw [kind, Operation.kindOf?, present]
        rfl
      exact .blamed _ next (.reported (replied.fault fault rfl) replied.met isKind cause)

theorem classifies_read
    (attended : Attended origin borrowers depot)
    (faulty : origin.schedule.OnlyFaults)
    (leavesOpen : LeavesOpen container.store origin.schedule)
    (canLend : container.store.CanLend depot)
    (name : String) :
    Yields ((Operation.read name).run container) depot (Classified (.read name) depot) := by
  refine (attended.readBlob faulty leavesOpen canLend name).bind (fun content next done => ?_)
    (fun failure next done => ?_)
  · obtain ⟨_, _, reply, replied, reads⟩ := done
    cases reads with
    | read answer body => exact .blamed _ next (.succeeded _ next replied.met)
  · obtain ⟨_, _, reply, replied, reads⟩ := done
    cases reads with
    | failed fault _ doing kind cause =>
      exact .blamed _ next (.reported (replied.fault fault rfl) replied.met
        (congrArg some kind.symm) cause)

theorem blames_deleteBlobIfExists
    {kindOf? : Request -> Failure -> Option Kind}
    (attended : Attended origin borrowers depot)
    (faulty : origin.schedule.OnlyFaults)
    (leavesOpen : LeavesOpen container.store origin.schedule)
    (canLend : container.store.CanLend depot)
    (name : String)
    (isKind : forall bucket key fault, kindOf? (.deleteObject bucket key) fault = some .blobIO) :
    Yields (container.deleteBlobIfExists name) depot (Blames kindOf? depot) := by
  refine (attended.deleteBlobIfExists faulty leavesOpen canLend name).mono
    (fun outcome next done => ?_)
  obtain ⟨_, reply, replied, rfl⟩ := done
  cases reply with
  | ok answer => exact .succeeded () next replied.met
  | error fault =>
    exact .reported (replied.fault fault rfl) replied.met (isKind _ _ fault) rfl

theorem classifies_delete
    (attended : Attended origin borrowers depot)
    (faulty : origin.schedule.OnlyFaults)
    (leavesOpen : LeavesOpen container.store origin.schedule)
    (canLend : container.store.CanLend depot)
    (name : String) :
    Yields ((Operation.delete name).run container) depot (Classified (.delete name) depot) := by
  -- The first fault is that of the check, or that of the deletion, which needs the blob found.
  have deletes : Yields (container.deleteBlob name) depot (fun outcome next =>
      Blames (Operation.delete name).kindOf? depot outcome next ∨
        outcome = .error (.of (.blobMissing name)) ∧ exists request fault,
          request.method = .headObject ∧ fault.isAbsent = true ∧
            Met (some (request, fault)) depot next) := by
    refine (attended.blobExists faulty leavesOpen canLend name).bind (fun found next done => ?_)
      (fun failure next done => ?_)
    · obtain ⟨attendedNext, current, reply, replied, finds⟩ := done
      cases finds with
      | found answer =>
        refine (attendedNext.blames_deleteBlobIfExists faulty leavesOpen (.inl current) name
          (fun _ _ _ => rfl)).mono (fun outcome last blames => .inl (blames.since replied.met))
      | absent fault absent => exact .inr ⟨rfl, _, fault, rfl, absent, replied.met⟩
    · obtain ⟨_, _, reply, replied, finds⟩ := done
      cases finds with
      | failed fault _ doing present kind cause =>
        have isKind : (Operation.delete name).kindOf? (.headObject container.bucket
            (container.key name)) fault = some failure.kind := by
          rw [kind, Operation.kindOf?, present]
          rfl
        exact .inl (.reported (replied.fault fault rfl) replied.met isKind cause)
  refine deletes.bind (fun result next done => ?_) (fun failure next done => ?_)
  · rcases done with blames | ⟨impossible, _⟩
    next =>
      cases blames with
      | succeeded _ _ met => exact .blamed _ next (.succeeded _ next met)
    next => cases impossible
  · rcases done with blames | ⟨isMissing, request, fault, looks, absent, met⟩
    next =>
      exact .blamed _ next blames.error
    next =>
      cases isMissing
      exact .missing name request fault next rfl looks absent met

theorem blames_writeBlob
    {kindOf? : Request -> Failure -> Option Kind}
    {size : Int}
    (attended : Attended origin borrowers depot)
    (faulty : origin.schedule.OnlyFaults)
    (leavesOpen : LeavesOpen container.store origin.schedule)
    (current : depot.current ≠ none)
    {source : Source}
    (gives : source.Gives size)
    (nonneg : 0 <= size)
    (accepted : container.store.config.Accepts size)
    (name : String)
    (failIfExists : Bool)
    (isKind : forall request fault, kindOf? request fault = some .blobIO) :
    Yields (container.writeBlob name size failIfExists) { depot with source := source }
      (Blames kindOf? depot) := by
  have writes := (attended.sourced source).writeBlob faulty leavesOpen (.inl current) gives nonneg
    accepted name failIfExists
  exact writes.mono (fun outcome next done => done.2.blames_sourced isKind)

theorem blames_upload
    {size : Int}
    (attended : Attended origin borrowers depot)
    (faulty : origin.schedule.OnlyFaults)
    (leavesOpen : LeavesOpen container.store origin.schedule)
    (current : depot.current ≠ none)
    {source : Source}
    (gives : source.Gives size)
    (key : String) :
    (0 <= size -> size <= container.bufferSize ->
      Yields (container.uploadSingle key size) { depot with source := source }
        (Blames (fun _ _ => some .blobIO) depot)) ∧
    (container.store.config.minMultipartSize <= size ->
      size <= container.store.config.maxMultipartSize ->
        size <= Limits.partCount * container.bufferSize ->
          Yields (container.uploadMultipart key size) { depot with source := source }
            (Blames (fun _ _ => some .blobIO) depot)) := by
  have sourced := attended.sourced source
  refine ⟨fun nonneg small => ?_, fun least allowed held => ?_⟩
  · exact (sourced.givenAtOnce faulty leavesOpen (.inl current) gives nonneg small key).mono
      (fun outcome next done => done.2.blames_sourced (fun _ _ => rfl))
  · exact (sourced.givenInParts faulty leavesOpen (.inl current) gives least allowed held key).mono
      (fun outcome next done => done.2.blames_sourced (fun _ _ => rfl))

theorem classifies_operation
    (attended : Attended origin borrowers depot)
    (faulty : origin.schedule.OnlyFaults)
    (leavesOpen : LeavesOpen container.store origin.schedule)
    (current : depot.current ≠ none)
    (paged : 0 < depot.service.pageSize)
    {operation : Operation}
    (suits : operation.Suits container.store.config) :
    Yields (operation.run container) depot (Classified operation depot) := by
  have canLend : container.store.CanLend depot := .inl current
  -- Only operations that look for a blob first may end without telling of a fault.
  cases operation with
  | write name source size failIfExists =>
    obtain ⟨nonneg, accepted, gives⟩ := suits
    refine .after (run_modify _ depot) ?_
    exact classifies (attended.blames_writeBlob faulty leavesOpen current gives nonneg accepted name
      failIfExists (fun _ _ => rfl)) (fun _ => .done)
  | writeBytes name content failIfExists =>
    have gives : (Source.ofBody (.bytes content)).Gives content.length := .ofBody (Int.le_refl _)
    have writes : Yields (container.writeBlobBytes name (.bytes content) failIfExists) depot
        (Blames (Operation.writeBytes name content failIfExists).kindOf? depot) :=
      .after (run_modify _ depot) (attended.blames_writeBlob faulty leavesOpen current gives
        (Int.natCast_nonneg _) suits name failIfExists (fun _ _ => rfl))
    exact classifies writes (fun _ => .done)
  | read name => exact attended.classifies_read faulty leavesOpen canLend name
  | check name => exact attended.classifies_check faulty leavesOpen canLend name
  | delete name => exact attended.classifies_delete faulty leavesOpen canLend name
  | deleteIfExists name =>
    exact classifies (attended.blames_deleteBlobIfExists faulty leavesOpen canLend name
      (fun _ _ _ => rfl)) (fun _ => .done)
  | deleteMany names =>
    exact classifies (attended.blames_deleteBlobsIfExist faulty leavesOpen canLend names)
      (fun _ => .done)
  | list selection =>
    exact classifies (attended.blames_listBlobs faulty leavesOpen canLend paged selection) .listing

theorem absent_alike
    (attended : Attended origin borrowers depot)
    (faulty : origin.schedule.OnlyFaults)
    (leavesOpen : LeavesOpen container.store origin.schedule)
    (canLend : container.store.CanLend depot)
    (alike : origin.schedule.outcome? .headObject (depot.journal.callCount .headObject + 1) =
      origin.schedule.outcome? .getObject (depot.journal.callCount .getObject + 1))
    (name : String) :
    (container.blobExists name depot).1 = .ok false ↔
      exists failure, (container.readBlob name depot).1 = .error failure ∧
        failure.kind = .blobNotFound := by
  obtain ⟨_, _, headReply, head, finds⟩ := attended.blobExists faulty leavesOpen canLend name
  obtain ⟨_, _, getReply, get, reads⟩ := attended.readBlob faulty leavesOpen canLend name
  rw [<- attended.lent.sameSchedule] at faulty alike
  -- What came of the two requests decides, and it is not told apart but by the method.
  rw [finds.absent_iff, reads.absent_iff, <- head.responds, <- get.responds]
  exact Depot.responds_absent faulty alike _ _

end Attended

/-- In every state that a run of a store reaches, as long as the store is open and has a client, an
operation that fails tells of the first fault by its kind and its causes.  So do uploads, and to
look for a blob and to open it tell alike that it is absent. -/
theorem operations_classified
    (store : Store)
    (origin : Depot)
    (steps : List StoreStep)
    (path : BlobPath)
    (leavesOpen : LeavesOpen store origin.schedule)
    (opened : origin.closed = false)
    (unmade : origin.current = none)
    (faulty : origin.schedule.OnlyFaults)
    (isOpen : (Tenancy.run store origin steps).depot.closed = false)
    (current : (Tenancy.run store origin steps).depot.current ≠ none)
    (paged : 0 < (Tenancy.run store origin steps).depot.service.pageSize) :
    let container : Container := ⟨store, path⟩
    let depot := (Tenancy.run store origin steps).depot
    (forall operation : Operation, operation.Suits store.config ->
      Yields (operation.run container) depot (Classified operation depot)) ∧
    (forall (key : String) (source : Source) (size : Int), source.Gives size ->
      (0 <= size -> size <= container.bufferSize ->
        Yields (container.uploadSingle key size) { depot with source := source }
          (Blames (fun _ _ => some .blobIO) depot)) ∧
      (store.config.minMultipartSize <= size -> size <= store.config.maxMultipartSize ->
        size <= Limits.partCount * container.bufferSize ->
          Yields (container.uploadMultipart key size) { depot with source := source }
            (Blames (fun _ _ => some .blobIO) depot))) ∧
    (forall name, origin.schedule.outcome? .headObject (depot.journal.callCount .headObject + 1) =
        origin.schedule.outcome? .getObject (depot.journal.callCount .getObject + 1) ->
      ((container.blobExists name depot).1 = .ok false ↔
        exists failure, (container.readBlob name depot).1 = .error failure ∧
          failure.kind = .blobNotFound)) := by
  intro container depot
  -- What matters of the run is that its holds are given back and that the store is open.
  have attended : Attended origin (Tenancy.run store origin steps).held.length depot :=
    ⟨(Tenancy.sound_run leavesOpen opened unmade steps).lent, isOpen⟩
  have opens : LeavesOpen container.store origin.schedule := leavesOpen
  have canLend : container.store.CanLend depot := .inl current
  refine ⟨fun operation suits => ?_, fun key source size gives => ?_, fun name alike => ?_⟩
  · exact attended.classifies_operation faulty opens current paged suits
  · exact attended.blames_upload faulty opens current gives key
  · exact attended.absent_alike faulty opens canLend alike name

theorem operations_classified_contradictory :
    let fault := Failure.of (.rejected
      { operation := "HeadObject", code := some (.text "NoSuchKey"), status := some (.int 403) })
    let schedule := (Schedule.calm.add .headObject [1, 2] { outcome := some (.error fault) }).add
      .getObject [1] { outcome := some (.error fault) }
    let origin : Depot := { schedule := schedule }
    let container : Container := ⟨.small, {}⟩
    let depot := (Tenancy.run .small origin [.operate {} (.check "x")]).depot
    LeavesOpen .small schedule ∧ schedule.OnlyFaults ∧ depot.closed = false ∧
      depot.current ≠ none ∧ 0 < depot.service.pageSize ∧
      Yields ((Operation.delete "x").run container) depot (Classified (.delete "x") depot) ∧
      ((container.blobExists "x" depot).1 = .ok false ↔
        exists failure, (container.readBlob "x" depot).1 = .error failure ∧
          failure.kind = .blobNotFound) := by
  intro fault schedule origin container depot
  -- The run has looked for the blob once, so the delete makes the second such request.
  have leavesOpen : LeavesOpen .small schedule :=
    ((leavesOpen_calm .small).add (by decide) [1, 2]).add (by decide) [1]
  have isFault : fault.IsFault := Failure.isFault_of (.inr ⟨403, rfl⟩)
  have faulty : schedule.OnlyFaults :=
    (Schedule.onlyFaults_calm.add ⟨rfl, rfl⟩ rfl isFault .headObject [1, 2]).add ⟨rfl, rfl⟩ rfl
      isFault .getObject [1]
  have current : depot.current ≠ none := by decide
  have classified := operations_classified .small origin [.operate {} (.check "x")] {} leavesOpen
    rfl rfl faulty rfl current (by decide)
  exact ⟨leavesOpen, faulty, rfl, current, by decide, classified.1 (.delete "x") trivial,
    classified.2.2 "x" rfl⟩

end BlobDepot
