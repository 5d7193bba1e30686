import BlobDepot.Proofs.Blobs
import BlobDepot.Proofs.Reports

set_option autoImplicit false

namespace BlobDepot

open BlobDepot.Action

def Depot.responds (depot : Depot) (request : Request) : Except Failure Answer :=
  (depot.service.respond request (depot.schedule.disruptions request.method
    (depot.journal.callCount request.method + 1))).1

structure Replied
    (request : Request)
    (depot : Depot)
    (reply : Except Failure Answer)
    (next : Depot) : Prop where
  responds : depot.responds request = reply
  met : Met (Event.answered request reply).fault? depot next
  fault : forall failure, reply = .error failure -> failure.IsFault

namespace Replied

variable {depot middle next : Depot} {request : Request} {reply : Except Failure Answer}

theorem since (before : Idle depot middle) (replied : Replied request middle reply next) :
    Replied request depot reply next := by
  refine ⟨?_, ?_, replied.fault⟩
  · rw [<- replied.responds, Depot.responds, Depot.responds, before.service, before.schedule,
      before.toSameWork.callCount request]
  · simpa using before.met.trans replied.met

theorem later (replied : Replied request depot reply middle) (idle : Idle middle next) :
    Replied request depot reply next := by
  refine ⟨replied.responds, ?_, replied.fault⟩
  simpa using replied.met.trans idle.met

end Replied

theorem Responded.replied
    {origin depot next : Depot}
    {borrowers : Nat}
    {request : Request}
    {reply : Except Failure Answer}
    (responded : Responded origin borrowers request depot reply next)
    (faulty : origin.schedule.OnlyFaults)
    (schedule : depot.schedule = origin.schedule) :
    Replied request depot reply next := by
  refine ⟨?_, responded.sent.met, ?_⟩
  · rw [Depot.responds, schedule, responded.response]
  · rintro failure rfl
    exact responded.isFault faulty

def existence : Except Failure Answer -> Except Failure Bool
  | .ok _ => .ok true
  | .error fault =>
      if fault.isAbsent then .ok false
      else .error (fault.reported "Failed to get object metadata")

inductive Finds : Except Failure Answer -> Except Failure Bool -> Prop
  | found (answer : Answer) : Finds (.ok answer) (.ok true)
  | absent (fault : Failure) (absent : fault.isAbsent = true) : Finds (.error fault) (.ok false)
  | failed (fault failure : Failure) (doing : String)
      (present : fault.isAbsent = false)
      (kind : failure.kind = .blobStore)
      (cause : failure.cause = some (fault.reported doing)) :
      Finds (.error fault) (.error failure)

inductive Opens : Except Failure Answer -> Except Failure Content -> Prop
  | opened (answer : Answer) (body : Body) : Opens (.ok answer) (.ok (.stream body))
  | failed (fault : Failure) :
      Opens (.error fault) (.error (fault.reported "Failed to get object"))

inductive Reads : Except Failure Answer -> Except Failure Content -> Prop
  | read (answer : Answer) (body : Body) : Reads (.ok answer) (.ok (.stream body))
  | failed (fault failure : Failure) (doing : String)
      (kind : failure.kind = if fault.isAbsent then .blobNotFound else .blobIO)
      (cause : failure.cause = some (fault.reported doing)) :
      Reads (.error fault) (.error failure)

theorem reads_readFailure {fault : Failure} (isFault : fault.IsFault) (name doing : String) :
    Reads (.error fault) (.error (Container.readFailure name (fault.reported doing))) := by
  have kind := isFault.reported_kind doing
  have backend := isFault.reported_backend doing
  cases absent : fault.isAbsent with
  | true =>
    rw [absent] at kind
    have isNotFound : (fault.reported doing).isA .objectNotFound = true := by
      rw [Failure.isA, kind]
      rfl
    rw [Container.readFailure, if_pos isNotFound]
    exact .failed fault _ doing (by rw [absent]; rfl) rfl
  | false =>
    rw [absent] at kind
    have isOther : Not ((fault.reported doing).isA .objectNotFound = true) := by
      rw [Failure.isA, kind]
      decide
    rw [Container.readFailure, if_neg isOther, if_pos backend]
    exact .failed fault _ doing (by rw [absent]; rfl) rfl

section Sent

variable {origin depot : Depot} {borrowers : Nat}

theorem Attended.asks
    (attended : Attended origin (borrowers + 1) depot)
    (faulty : origin.schedule.OnlyFaults)
    (request : Request)
    (doing : String) :
    Yields (Client.ask request doing) depot (fun outcome next => exists reply,
      Attended origin (borrowers + 1) next ∧ Replied request depot reply next ∧
        (forall answer, reply = .ok answer ->
          depot.service.perform request = (.ok answer, next.service)) ∧
        outcome = reply.mapError (fun fault => fault.reported doing)) := by
  refine (attended.ask request (faulty.keepsOpen request) doing).mono
    (fun outcome next asked => ?_)
  obtain ⟨reply, responded, rfl⟩ := asked
  have replied := responded.replied faulty attended.lent.sameSchedule
  refine ⟨reply, responded.attended, replied, ?_, ?_⟩
  · rintro answer rfl
    exact responded.performed faulty
  · cases reply with
    | ok answer => rfl
    | error fault => exact congrArg Except.error ((replied.fault fault rfl).told doing)

theorem Attended.objectExists
    (attended : Attended origin (borrowers + 1) depot)
    (faulty : origin.schedule.OnlyFaults)
    (bucket key : String) :
    Yields (Client.objectExists bucket key) depot (fun outcome next =>
      Attended origin (borrowers + 1) next ∧ exists reply,
        Replied (.headObject bucket key) depot reply next ∧ outcome = existence reply) := by
  -- This request is not asked like the others, as its faults need not be reported.
  refine (attended.send (.headObject bucket key)
    (faulty.keepsOpen (.headObject bucket key))).attempt_bind (fun reply next responded => ?_)
  have replied := responded.replied faulty attended.lent.sameSchedule
  cases reply with
  | ok answer => exact ⟨responded.attended, .ok answer, replied, rfl⟩
  | error fault =>
    have isFault := replied.fault fault rfl
    simp only [isFault.fromService, if_true, isFault.absent]
    cases absent : fault.isAbsent with
    | true => exact ⟨responded.attended, .error fault, replied, by simp [existence, absent]; rfl⟩
    | false => exact ⟨responded.attended, .error fault, replied, by simp [existence, absent]; rfl⟩

theorem Attended.getObject
    (attended : Attended origin (borrowers + 1) depot)
    (faulty : origin.schedule.OnlyFaults)
    (bucket key : String) :
    Yields (Client.getObject bucket key) depot (fun outcome next =>
      Attended origin (borrowers + 1) next ∧ exists reply,
        Replied (.getObject bucket key) depot reply next ∧ Opens reply outcome) := by
  refine (attended.asks faulty (.getObject bucket key) _).bind (fun answer next asked => ?_)
    (fun failure next asked => ?_)
  · obtain ⟨reply, attendedNext, replied, performs, isAnswer⟩ := asked
    cases reply with
    | error fault => cases isAnswer
    | ok given =>
      cases isAnswer
      have performed := performs answer rfl
      rw [Service.perform_getObject] at performed
      -- What was answered is the content of the object, which is there.
      cases found : (depot.service.objects bucket).get? key with
      | none =>
        rw [found] at performed
        cases congrArg Prod.fst performed
      | some body =>
        rw [found] at performed
        cases congrArg Prod.fst performed
        exact ⟨attendedNext, _, replied, .opened _ body⟩
  · obtain ⟨reply, attendedNext, replied, _, isFailure⟩ := asked
    cases reply with
    | ok answer => cases isFailure
    | error fault =>
      cases isFailure
      exact ⟨attendedNext, _, replied, .failed fault⟩

theorem Attended.deleteObject
    (attended : Attended origin (borrowers + 1) depot)
    (faulty : origin.schedule.OnlyFaults)
    (bucket key : String) :
    Yields (Client.deleteObject bucket key) depot (fun outcome next =>
      Attended origin (borrowers + 1) next ∧ exists reply,
        Replied (.deleteObject bucket key) depot reply next ∧
          outcome = (reply.map (fun _ => ())).mapError
            (fun fault => fault.reported "Failed to delete object")) := by
  refine (attended.asks faulty (.deleteObject bucket key) _).bind (fun answer next asked => ?_)
    (fun failure next asked => ?_)
  · obtain ⟨reply, attendedNext, replied, _, isAnswer⟩ := asked
    cases reply with
    | error fault => cases isAnswer
    | ok given => exact ⟨attendedNext, _, replied, rfl⟩
  · obtain ⟨reply, attendedNext, replied, _, isFailure⟩ := asked
    cases reply with
    | ok answer => cases isFailure
    | error fault =>
      cases isFailure
      exact ⟨attendedNext, _, replied, rfl⟩

end Sent

theorem Container.reporting_caught
    {α : Type}
    {work : Action α}
    {depot : Depot}
    {kind : Kind}
    {problem : Problem}
    {expected : Except Failure α -> Depot -> Prop}
    (yields : Yields work depot (fun outcome next =>
      expected (outcome.mapError (.because problem)) next ∧
        forall failure, outcome = .error failure -> failure.isA kind = true)) :
    Yields (Container.reporting kind problem work) depot expected := by
  refine yields.attempt_bind (fun outcome next done => ?_)
  obtain ⟨holds, caught⟩ := done
  cases outcome with
  | ok result => exact holds
  | error failure =>
    simp only [caught failure rfl, if_true]
    exact holds

section Borrowed

variable {origin depot : Depot} {borrowers : Nat} {container : Container}

theorem Attended.borrowsFor
    {α : Type}
    {request : Request}
    {work : Action α}
    {made : Except Failure Answer -> Except Failure α -> Prop}
    (attended : Attended origin borrowers depot)
    (leavesOpen : LeavesOpen container.store origin.schedule)
    (canLend : container.store.CanLend depot)
    (works : forall middle, Attended origin (borrowers + 1) middle ->
      Yields work middle (fun outcome left => Attended origin (borrowers + 1) left ∧
        exists reply, Replied request middle reply left ∧ made reply outcome)) :
    Yields (container.store.borrowing work) depot (fun outcome next =>
      Attended origin borrowers next ∧ next.current ≠ none ∧ exists reply,
        Replied request depot reply next ∧ made reply outcome) := by
  -- Lending the client sends no request, so the reply is that to the work.
  have borrowed : forall middle, Attended origin (borrowers + 1) middle -> Idle depot middle ->
      Yields work middle (fun outcome left => Attended origin (borrowers + 1) left ∧
        exists reply, Replied request depot reply left ∧ made reply outcome) := by
    intro middle attendedMiddle before
    refine (works middle attendedMiddle).mono (fun outcome left worked => ?_)
    obtain ⟨attendedLeft, reply, replied, holds⟩ := worked
    exact ⟨attendedLeft, reply, replied.since before, holds⟩
  refine (attended.borrowing leavesOpen canLend borrowed).mono (fun outcome next done => ?_)
  obtain ⟨attendedNext, current, left, ⟨reply, replied, holds⟩, idle⟩ := done
  exact ⟨attendedNext, current, reply, replied.later idle, holds⟩

theorem Attended.blobExists
    (attended : Attended origin borrowers depot)
    (faulty : origin.schedule.OnlyFaults)
    (leavesOpen : LeavesOpen container.store origin.schedule)
    (canLend : container.store.CanLend depot)
    (name : String) :
    Yields (container.blobExists name) depot (fun outcome next =>
      Attended origin borrowers next ∧ next.current ≠ none ∧ exists reply,
        Replied (.headObject container.bucket (container.key name)) depot reply next ∧
          Finds reply outcome) := by
  have looks := attended.borrowsFor leavesOpen canLend (fun middle attendedMiddle =>
    attendedMiddle.objectExists faulty container.bucket (container.key name))
  refine Container.reporting_caught (looks.mono (fun outcome next borrowed => ?_))
  obtain ⟨attendedNext, current, reply, replied, rfl⟩ := borrowed
  cases reply with
  | ok answer => exact ⟨⟨attendedNext, current, _, replied, .found answer⟩, nofun⟩
  | error fault =>
    have isFault := replied.fault fault rfl
    rw [existence]
    cases absent : fault.isAbsent with
    | true => exact ⟨⟨attendedNext, current, _, replied, .absent fault absent⟩, nofun⟩
    | false =>
      refine ⟨⟨attendedNext, current, _, replied, .failed fault _ _ absent rfl rfl⟩,
        fun failure failed => ?_⟩
      cases failed
      exact isFault.reported_ordinary _

theorem Attended.readBlob
    (attended : Attended origin borrowers depot)
    (faulty : origin.schedule.OnlyFaults)
    (leavesOpen : LeavesOpen container.store origin.schedule)
    (canLend : container.store.CanLend depot)
    (name : String) :
    Yields (container.readBlob name) depot (fun outcome next =>
      Attended origin borrowers next ∧ next.current ≠ none ∧ exists reply,
        Replied (.getObject container.bucket (container.key name)) depot reply next ∧
          Reads reply outcome) := by
  refine attended.borrowsFor leavesOpen canLend (fun middle attendedMiddle => ?_)
  refine (attendedMiddle.getObject faulty container.bucket (container.key name)).attempt_bind
    (fun outcome left got => ?_)
  obtain ⟨attendedLeft, reply, replied, opens⟩ := got
  cases opens with
  | opened answer body => exact ⟨attendedLeft, _, replied, .read answer body⟩
  | failed fault =>
    exact ⟨attendedLeft, _, replied, reads_readFailure (replied.fault fault rfl) name _⟩

theorem Attended.deleteBlobIfExists
    (attended : Attended origin borrowers depot)
    (faulty : origin.schedule.OnlyFaults)
    (leavesOpen : LeavesOpen container.store origin.schedule)
    (canLend : container.store.CanLend depot)
    (name : String) :
    Yields (container.deleteBlobIfExists name) depot (fun outcome next =>
      Attended origin borrowers next ∧ exists reply,
        Replied (.deleteObject container.bucket (container.key name)) depot reply next ∧
          outcome = (reply.map (fun _ => ())).mapError (fun fault =>
            .because (.deleteFailed name) (fault.reported "Failed to delete object"))) := by
  have deletes := attended.borrowsFor leavesOpen canLend (fun middle attendedMiddle =>
    attendedMiddle.deleteObject faulty container.bucket (container.key name))
  have reports : Yields (Container.reporting .backend (.deleteFailed name)
      (container.store.borrowing (Client.deleteObject container.bucket (container.key name)))) depot
      (fun outcome next => Attended origin borrowers next ∧ exists reply,
        Replied (.deleteObject container.bucket (container.key name)) depot reply next ∧
          outcome = (reply.map (fun _ => ())).mapError (fun fault =>
            .because (.deleteFailed name) (fault.reported "Failed to delete object"))) := by
    refine Container.reporting_caught (deletes.mono (fun outcome next borrowed => ?_))
    obtain ⟨attendedNext, _, reply, replied, rfl⟩ := borrowed
    cases reply with
    | ok answer => exact ⟨⟨attendedNext, _, replied, rfl⟩, nofun⟩
    | error fault =>
      refine ⟨⟨attendedNext, _, replied, rfl⟩, fun failure failed => ?_⟩
      cases failed
      exact (replied.fault fault rfl).reported_backend _
  refine reports.bind (fun result next done => ?_) (fun failure next done => done)
  obtain ⟨attendedNext, reply, replied, isOk⟩ := done
  exact ⟨attendedNext.logs rfl, reply, ⟨replied.responds, replied.met, replied.fault⟩, isOk⟩

end Borrowed

theorem Finds.absent_iff
    {reply : Except Failure Answer}
    {outcome : Except Failure Bool}
    (finds : Finds reply outcome) :
    outcome = .ok false ↔ exists fault, reply = .error fault ∧ fault.isAbsent = true := by
  cases finds with
  | found answer => simp
  | absent fault absent => simp [absent]
  | failed fault failure doing present kind cause => simp [present]

theorem Reads.absent_iff
    {reply : Except Failure Answer}
    {outcome : Except Failure Content}
    (reads : Reads reply outcome) :
    (exists failure, outcome = .error failure ∧ failure.kind = .blobNotFound) ↔
      exists fault, reply = .error fault ∧ fault.isAbsent = true := by
  cases reads with
  | read answer body => simp
  | failed fault failure doing kind cause =>
    cases absent : fault.isAbsent <;> simp [absent, kind]

theorem Depot.responds_absent
    {depot : Depot}
    (faulty : depot.schedule.OnlyFaults)
    (alike : depot.schedule.outcome? .headObject (depot.journal.callCount .headObject + 1) =
      depot.schedule.outcome? .getObject (depot.journal.callCount .getObject + 1))
    (bucket key : String) :
    (exists fault, depot.responds (.headObject bucket key) = .error fault ∧
        fault.isAbsent = true) ↔
      exists fault, depot.responds (.getObject bucket key) = .error fault ∧
        fault.isAbsent = true := by
  rw [responds, responds, faulty.respond, faulty.respond]
  simp only [Request.method, alike]
  cases depot.schedule.outcome? .getObject (depot.journal.callCount .getObject + 1) with
  | some outcome => exact Iff.rfl
  | none =>
    rw [Service.answer, Service.answer, Service.perform_headObject, Service.perform_getObject]
    cases (depot.service.objects bucket).get? key with
    | some body => simp [Except.mapError]
    | none => exact ⟨fun _ => ⟨_, rfl, rfl⟩, fun _ => ⟨_, rfl, rfl⟩⟩

end BlobDepot
