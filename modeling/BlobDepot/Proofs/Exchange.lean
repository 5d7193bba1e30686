import BlobDepot.Proofs.Aloof

set_option autoImplicit false

namespace BlobDepot

open BlobDepot.Action

theorem Source.events_read (source : Source) (size : Int) :
    (source.read size).2.events = source.events := by
  rw [read]
  split <;> rfl

theorem Source.reads_read (source : Source) (size : Int) :
    (source.read size).2.reads = source.reads + 1 := by
  rw [read]
  split <;> rfl

/-- The stream was read.  Where a failing read leaves it is not told. -/
structure Moved
    (size : Int)
    (depot : Depot)
    (outcome : Except Failure Body)
    (next : Depot) : Prop where
  service : next.service = depot.service
  schedule : next.schedule = depot.schedule
  exchange : next.exchange = depot.exchange
  read : forall body, outcome = .ok body -> depot.source.read size = (.ok body, next.source)

theorem moved_read {size : Int} {depot next : Depot} (same : SameWork depot next) :
    Moved size depot (next.source.read size).1
      (Depot.recorded { next with source := (next.source.read size).2 }
        (.read size (next.source.read size).1)) := by
  refine ⟨same.service, same.schedule, ?_, ?_⟩
  · rw [Depot.exchange_recorded]
    exact (List.append_nil _).trans same.exchange
  · intro body given
    rw [<- same.source, <- given]
    rfl

theorem readSource_moved (size : Int) (depot : Depot) :
    Yields (Client.readSource size) depot (Moved size depot) := by
  simp only [Yields, Client.readSource, run_bind_ok _ (run_get depot)]
  by_cases closes : depot.source.nextEvent.closesStore = true
  next =>
    rw [if_pos closes]
    have closing : Yields Store.close depot (fun _ next => SameWork depot next) :=
      (SameWork.aloof depot).close depot (SameWork.refl depot)
    refine closing.bind (fun _ next same => ?_) (fun failure next same => ?_)
    · simp only [Yields, run_bind, run_get, run_set, run_record, run_settle]
      exact moved_read same
    · exact ⟨same.service, same.schedule, same.exchange, fun _ given => by cases given⟩
  next =>
    rw [if_neg closes]
    simp only [run_bind, run_get, run_set, run_record, run_settle]
    exact moved_read (SameWork.refl depot)

def Answer.uploadId? (answer : Answer) : Option String :=
  match answer.description.findEntry "UploadId" with
  | .ok (some value) => if value.isTruthy && value.plain != "" then some value.plain else none
  | _ => none

def Answer.Lacks (answer : Answer) : Method -> Prop
  | .createUpload => answer.uploadId? = none
  | .uploadPart => forall tag, answer.description.entry "ETag" ≠ .ok tag
  | _ => False

/-- A disruption that makes a call fail before it takes effect, or that answers it with less than
is asked for. -/
def Disruption.IsEarly (disruption : Disruption) (method : Method) : Prop :=
  match disruption.outcome with
  | some (.ok answer) => answer.Lacks method
  | _ => disruption.effectFirst = false

def Method.isWriting : Method -> Bool
  | .putObject | .createUpload | .uploadPart | .completeUpload | .abortUpload => true
  | _ => false

/-- Every call that a write makes either takes effect and is answered as it should be, or fails
early. -/
def Schedule.FailsEarly (schedule : Schedule) : Prop :=
  forall method number disruption, method.isWriting = true ->
    disruption ∈ schedule.disruptions method number -> disruption.IsEarly method

theorem Schedule.failsEarly_calm : calm.FailsEarly := by
  intro method number disruption writing listed
  cases listed

theorem Schedule.FailsEarly.add
    {schedule : Schedule}
    {method : Method}
    {disruption : Disruption}
    (early : schedule.FailsEarly)
    (isEarly : disruption.IsEarly method)
    (numbers : List Nat) :
    (schedule.add method numbers disruption).FailsEarly := by
  intro other number added writing listed
  obtain earlier | new := List.mem_append.mp listed
  · exact early other number added writing earlier
  · split at new
    next hit =>
      rw [List.mem_singleton.mp new, hit.1]
      exact isEarly
    next => cases new

def Method.isPreparing : Method -> Bool
  | .createUpload | .uploadPart => true
  | _ => false

/-- The service after a request that did not go through: as before, unless the request only
prepares an object. -/
def Request.Spares (request : Request) (service next : Service) : Prop :=
  next = service ∨ request.method.isPreparing = true ∧ next = (service.perform request).2

inductive Effect (service : Service) (request : Request) : Except Failure Answer -> Service -> Prop
  | refused (failure : Failure) (next : Service) (spares : request.Spares service next) :
      Effect service request (.error failure) next
  | lacking (answer : Answer) (next : Service) (lacks : answer.Lacks request.method)
      (spares : request.Spares service next) :
      Effect service request (.ok answer) next
  | served :
      Effect service request
        ((service.perform request).1.mapError (fun rejection => .of (.rejected rejection)))
        (service.perform request).2

theorem isPreparing_of_lacks {answer : Answer} {method : Method} (lacks : answer.Lacks method) :
    method.isPreparing = true := by
  cases method <;> first | rfl | exact lacks.elim

theorem closing_effect
    {service : Service}
    {request : Request}
    {closes : Bool}
    {rest : Action Answer}
    {depot : Depot}
    (spares : request.Spares service depot.service)
    (restYields : forall next, SameWork depot next ->
      Yields rest next (fun outcome left => Effect service request outcome left.service)) :
    Yields (if closes then Store.close >>= fun _ => rest else rest) depot
      (fun outcome next => Effect service request outcome next.service) := by
  have closing : Yields Store.close depot (fun _ next => SameWork depot next) :=
    (SameWork.aloof depot).close depot (SameWork.refl depot)
  cases closes with
  | false => exact restYields depot (SameWork.refl depot)
  | true =>
    refine closing.bind (fun _ => restYields) (fun failure next same => ?_)
    rw [<- same.service] at spares
    exact Effect.refused failure next.service spares

theorem disrupted_effect
    {request : Request}
    {disruptions : List Disruption}
    (early : forall disruption, disruption ∈ disruptions -> disruption.IsEarly request.method)
    (depot : Depot) :
    Yields (disrupted Store.close (serve request) pure disruptions) depot
      (fun outcome next => Effect depot.service request outcome next.service) := by
  induction disruptions generalizing depot with
  | nil => exact Effect.served
  | cons disruption rest ih =>
    have restYields := ih (fun later listed => early later (List.mem_cons_of_mem _ listed))
    have isEarly := early disruption List.mem_cons_self
    rw [disrupted]
    cases outcome : disruption.outcome with
    | none =>
      have noEffect : disruption.effectFirst = false := by
        simpa [Disruption.IsEarly, outcome] using isEarly
      rw [noEffect]
      refine closing_effect (.inl rfl) (fun next same => ?_)
      have yields := restYields next
      rw [same.service] at yields
      exact yields
    | some settled =>
      cases settled with
      | error failure =>
        have noEffect : disruption.effectFirst = false := by
          simpa [Disruption.IsEarly, outcome] using isEarly
        rw [noEffect]
        refine closing_effect (.inl rfl) (fun next same => ?_)
        exact Effect.refused failure next.service (.inl same.service)
      | ok answer =>
        have lacks : answer.Lacks request.method := by
          simpa [Disruption.IsEarly, outcome] using isEarly
        have preparing := isPreparing_of_lacks lacks
        cases disruption.effectFirst with
        | false =>
          refine closing_effect (.inl rfl) (fun next same => ?_)
          exact Effect.lacking answer next.service lacks (.inl same.service)
        | true =>
          have serves : Yields (serve request) depot (fun outcome next =>
              outcome = (depot.service.perform request).1.mapError
                (fun rejection => .of (.rejected rejection)) ∧
              next.service = (depot.service.perform request).2) :=
            ⟨rfl, rfl⟩
          refine serves.bind (fun _ middle served => ?_) (fun failure next served => ?_)
          · have spares : request.Spares depot.service middle.service := .inr ⟨preparing, served.2⟩
            refine closing_effect spares (fun next same => ?_)
            rw [<- same.service] at spares
            exact Effect.lacking answer next.service lacks spares
          · rw [served.1, served.2]
            exact Effect.served

theorem call_effect
    {request : Request}
    {depot : Depot}
    (early : depot.schedule.FailsEarly)
    (writing : request.method.isWriting = true) :
    Yields (call Store.close (.request request) (serve request) pure) depot
      (fun outcome next => Effect depot.service request outcome next.service) := by
  simp only [Yields, call, run_bind_ok _ (run_record _ depot), run_bind_ok _ (run_get _)]
  exact disrupted_effect
    (fun disruption listed => early request.method _ disruption writing listed)
    (depot.recorded (.called (.request request)))

structure Sent
    (request : Request)
    (depot : Depot)
    (outcome : Except Failure Answer)
    (next : Depot) : Prop where
  source : next.source = depot.source
  schedule : next.schedule = depot.schedule
  exchange : next.exchange =
    depot.exchange ++ [.called (.request request), .answered request outcome]
  grown : Grown (depot.recorded (.called (.request request))) next
  effect : depot.schedule.FailsEarly -> request.method.isWriting = true ->
    Effect depot.service request outcome next.service

theorem send_sent (request : Request) (depot : Depot) :
    Yields (send request) depot (Sent request depot) := by
  -- Whatever disrupts the call, it records nothing of the exchange but the call itself.
  let asked (next : Depot) : Prop :=
    next.source = depot.source ∧ next.schedule = depot.schedule ∧
      next.exchange = depot.exchange ++ [.called (.request request)] ∧
      Grown (depot.recorded (.called (.request request))) next
  have closing : Keeps asked Store.close := by
    intro next holds
    have same := (SameWork.aloof next).close next (SameWork.refl next)
    exact ⟨same.source.trans holds.1, same.schedule.trans holds.2.1,
      same.exchange.trans holds.2.2.1, holds.2.2.2.trans same.grown⟩
  have recorded : asked (depot.recorded (.called (.request request))) :=
    ⟨rfl, rfl, Depot.exchange_recorded depot _, Grown.refl _⟩
  have served : Keeps asked (serve request) := fun _ holds => holds
  have called : asked (call Store.close (.request request) (serve request) pure depot).2 :=
    call_keeps recorded (fun _ _ _ _ => closing) served keeps_pure
  obtain ⟨source, schedule, exchange, grown⟩ := called
  simp only [Yields, send, run_bind, run_attempt, run_record, run_settle]
  refine ⟨source, schedule, ?_, grown.recorded _, fun early writing => call_effect early writing⟩
  rw [Depot.exchange_recorded, exchange, List.append_assoc]
  rfl

def Asked (request : Request) (depot : Depot) : Except Failure Answer -> Depot -> Prop
  | .ok answer, next => Sent request depot (.ok answer) next
  | .error _, next => exists failure, Sent request depot (.error failure) next

theorem ask_asked (request : Request) (doing : String) (depot : Depot) :
    Yields (Client.ask request doing) depot (Asked request depot) := by
  refine (send_sent request depot).attempt_bind (fun given next sent => ?_)
  cases given with
  | ok answer => exact sent
  | error failure => exact ⟨failure, sent⟩

end BlobDepot
