import BlobDepot.Proofs.Writes

set_option autoImplicit false

namespace BlobDepot

open BlobDepot.Action

def Schedule.KeepsOpen (schedule : Schedule) (method : Method) : Prop :=
  forall number disruption, disruption ∈ schedule.disruptions method number ->
    disruption.closesStore = false

theorem Schedule.keepsOpen_calm (method : Method) : calm.KeepsOpen method := by
  intro number disruption listed
  cases listed

theorem Schedule.KeepsOpen.add
    {schedule : Schedule}
    {method : Method}
    {disruption : Disruption}
    (keepsOpen : schedule.KeepsOpen method)
    (harmless : disruption.closesStore = false)
    (other : Method)
    (numbers : List Nat) :
    (schedule.add other numbers disruption).KeepsOpen method := by
  intro number added listed
  obtain earlier | new := List.mem_append.mp listed
  · exact keepsOpen number added earlier
  · split at new
    next =>
      rw [List.mem_singleton.mp new]
      exact harmless
    next => cases new

def Schedule.outcome? (schedule : Schedule) (method : Method) (number : Nat) :
    Option (Except Failure Answer) :=
  (schedule.disruptions method number).findSome? Disruption.outcome

namespace Service

def answer (service : Service) (request : Request) : Except Failure Answer × Service :=
  ((service.perform request).1.mapError (fun rejection => .of (.rejected rejection)),
    (service.perform request).2)

def prepare (service : Service) (request : Request) (disruption : Disruption) :
    Except Failure Unit × Service :=
  if disruption.effectFirst then
    ((service.answer request).1.map (fun _ => ()), (service.answer request).2)
  else
    (.ok (), service)

def respond (request : Request) : Service -> List Disruption -> Except Failure Answer × Service
  | service, [] => service.answer request
  | service, disruption :: rest =>
      match service.prepare request disruption with
      | (.error failure, middle) => (.error failure, middle)
      | (.ok (), middle) =>
          match disruption.outcome with
          | some outcome => (outcome, middle)
          | none => respond request middle rest

theorem respond_early
    {disruptions : List Disruption}
    (early : forall disruption, disruption ∈ disruptions -> disruption.effectFirst = false)
    (service : Service)
    (request : Request) :
    respond request service disruptions =
      match disruptions.findSome? Disruption.outcome with
      | some outcome => (outcome, service)
      | none => service.answer request := by
  induction disruptions with
  | nil => rfl
  | cons disruption rest ih =>
    have later := ih (fun other listed => early other (List.mem_cons_of_mem _ listed))
    have first : service.prepare request disruption = (.ok (), service) := by
      simp [prepare, early disruption List.mem_cons_self]
    rw [respond, first, List.findSome?_cons]
    -- The service was not reached yet, so what answers the call leaves it as it is.
    cases disruption.outcome with
    | some outcome => rfl
    | none => exact later

theorem respond_of_accepted
    {request : Request}
    {answer : Answer}
    (accepted : forall service : Service, (service.perform request).1 = .ok answer)
    (disruptions : List Disruption)
    (service : Service) :
    (respond request service disruptions).1 =
      (disruptions.findSome? Disruption.outcome).getD (.ok answer) := by
  have answers : forall service : Service, (service.answer request).1 = .ok answer := by
    intro service
    rw [Service.answer, accepted service]
    rfl
  induction disruptions generalizing service with
  | nil => exact answers service
  | cons disruption rest ih =>
    -- An effect that comes first is not rejected either, so it does not end the call.
    obtain ⟨middle, first⟩ : exists middle,
        service.prepare request disruption = (.ok (), middle) := by
      rw [prepare, answers service]
      split
      next => exact ⟨_, rfl⟩
      next => exact ⟨_, rfl⟩
    rw [respond, first, List.findSome?_cons]
    cases disruption.outcome with
    | some outcome => rfl
    | none => exact ih middle

theorem perform_pageSize (service : Service) (request : Request) :
    (service.perform request).2.pageSize = service.pageSize := by
  cases request <;> simp only [perform] <;> split <;> (try split) <;> (try split) <;> rfl

theorem respond_pageSize
    (request : Request)
    (disruptions : List Disruption)
    (service : Service) :
    (respond request service disruptions).2.pageSize = service.pageSize := by
  induction disruptions generalizing service with
  | nil => exact service.perform_pageSize request
  | cons disruption rest ih =>
    have first : (service.prepare request disruption).2.pageSize = service.pageSize := by
      rw [prepare]
      split
      next => exact service.perform_pageSize request
      next => rfl
    rw [respond]
    cases prepared : service.prepare request disruption with
    | mk early middle =>
      rw [prepared] at first
      cases early with
      | error failure => exact first
      | ok _ =>
        cases disruption.outcome with
        | some outcome => exact first
        | none => exact (ih middle).trans first

end Service

theorem disrupted_of_open
    {request : Request}
    {disruptions : List Disruption}
    (keepsOpen : forall disruption, disruption ∈ disruptions -> disruption.closesStore = false)
    (depot : Depot) :
    disrupted Store.close (serve request) pure disruptions depot =
      ((depot.service.respond request disruptions).1,
        { depot with service := (depot.service.respond request disruptions).2 }) := by
  induction disruptions generalizing depot with
  | nil => rfl
  | cons disruption rest ih =>
    have later := ih (fun other listed => keepsOpen other (List.mem_cons_of_mem _ listed))
    simp only [disrupted, keepsOpen disruption List.mem_cons_self, Bool.false_eq_true, if_false,
      Service.respond, Service.prepare]
    cases disruption.effectFirst with
    | false =>
      cases disruption.outcome with
      | none => exact later depot
      | some outcome => cases outcome <;> rfl
    | true =>
      have serves : serve request depot = ((depot.service.answer request).1,
          { depot with service := (depot.service.answer request).2 }) := rfl
      simp only [if_true, run_bind, serves]
      -- What the rest makes of the call starts from the service after the effect.
      cases (depot.service.answer request).1 with
      | error failure => rfl
      | ok answer =>
        cases disruption.outcome with
        | none => exact later { depot with service := (depot.service.answer request).2 }
        | some outcome => cases outcome <;> rfl

theorem Depot.callCount_exchange (depot : Depot) (request : Request) :
    depot.journal.callCount request.method =
      depot.exchange.countP (fun event => event.isCall request.method) := by
  rw [Depot.exchange, List.countP_filter, Journal.history, List.countP_reverse, Journal.callCount]
  congr 1
  funext event
  cases event with
  | called call =>
    cases call with
    | request other => simp [Event.isExchange]
    | _ => cases request <;> rfl
  | _ => rfl

theorem SameWork.callCount {depot next : Depot} (same : SameWork depot next) (request : Request) :
    next.journal.callCount request.method = depot.journal.callCount request.method := by
  rw [Depot.callCount_exchange, Depot.callCount_exchange, same.exchange]

def Request.events (request : Request) (outcome : Except Failure Answer) : List Event :=
  [.called (.request request), .answered request outcome]

theorem Sent.callCount
    {request : Request}
    {depot next : Depot}
    {outcome : Except Failure Answer}
    (sent : Sent request depot outcome next)
    (other : Request) :
    next.journal.callCount other.method = depot.journal.callCount other.method +
      if request.method = other.method then 1 else 0 := by
  rw [Depot.callCount_exchange, Depot.callCount_exchange, sent.exchange, List.countP_append]
  congr 1
  by_cases same : request.method = other.method <;>
    simp [Event.isCall, Call.method, same]

/-- The store is open and so many borrow its client. -/
structure Attended (origin : Depot) (borrowers : Nat) (depot : Depot) : Prop where
  lent : Lent origin borrowers depot
  opened : depot.closed = false

structure Responded
    (origin : Depot)
    (borrowers : Nat)
    (request : Request)
    (depot : Depot)
    (outcome : Except Failure Answer)
    (next : Depot) : Prop where
  attended : Attended origin borrowers next
  sent : Sent request depot outcome next
  metrics : next.journal.metrics = depot.journal.metrics
  response : depot.service.respond request (origin.schedule.disruptions request.method
    (depot.journal.callCount request.method + 1)) = (outcome, next.service)

def Failure.told (failure : Failure) (doing : String) : Failure :=
  if failure.fromService then failure.reported doing else failure

def Store.CanLend (store : Store) (depot : Depot) : Prop :=
  depot.current ≠ none ∨ exists client, (store.makeClient depot).1 = .ok client

theorem disrupted_making
    {disruptions : List Disruption}
    (leavesOpen : forall disruption, disruption ∈ disruptions -> disruption.closesStore = false) :
    exists outcome, forall depot,
      disrupted Store.close (pure ()) (fun _ => pure ()) disruptions depot = (outcome, depot) := by
  induction disruptions with
  | nil => exact ⟨.ok (), fun _ => rfl⟩
  | cons disruption rest ih =>
    have harmless := leavesOpen disruption List.mem_cons_self
    obtain ⟨outcome, later⟩ :=
      ih (fun other listed => leavesOpen other (List.mem_cons_of_mem _ listed))
    simp only [disrupted, harmless, Bool.false_eq_true, if_false]
    cases given : disruption.outcome with
    | none => exact ⟨outcome, fun depot => by cases disruption.effectFirst <;> exact later depot⟩
    | some answered =>
      cases answered with
      | ok answer => exact ⟨.ok (), fun depot => by cases disruption.effectFirst <;> rfl⟩
      | error failure =>
        exact ⟨.error failure, fun depot => by cases disruption.effectFirst <;> rfl⟩

theorem Store.makeClient_logs
    {store : Store}
    {depot : Depot}
    {journal : Journal}
    (leavesOpen : LeavesOpen store depot.schedule)
    (events : journal.events = depot.journal.events) :
    (store.makeClient { depot with journal := journal }).1 = (store.makeClient depot).1 := by
  obtain ⟨outcome, making⟩ := disrupted_making (leavesOpen ((depot.recorded
    (.called store.clientCall)).journal.callCount store.clientCall.method))
  -- Which call it is follows from the events, which are the same.
  have counted : (Depot.recorded { depot with journal := journal }
      (.called store.clientCall)).journal.callCount store.clientCall.method =
        (depot.recorded (.called store.clientCall)).journal.callCount store.clientCall.method := by
    simp [Depot.recorded, Journal.record, Journal.callCount, events]
  simp only [Store.makeClient, call, run_bind, run_record, run_get, Depot.schedule_recorded,
    counted, making]
  cases outcome <;> rfl

theorem Store.CanLend.logs
    {store : Store}
    {depot : Depot}
    {journal : Journal}
    (canLend : store.CanLend depot)
    (leavesOpen : LeavesOpen store depot.schedule)
    (events : journal.events = depot.journal.events) :
    store.CanLend { depot with journal := journal } := by
  refine canLend.imp_right (fun made => ?_)
  obtain ⟨client, makes⟩ := made
  exact ⟨client, (Store.makeClient_logs leavesOpen events).trans makes⟩

namespace Attended

variable {origin depot : Depot} {borrowers : Nat}

theorem logs
    (attended : Attended origin borrowers depot)
    {journal : Journal}
    (events : journal.events = depot.journal.events) :
    Attended origin borrowers { depot with journal := journal } :=
  ⟨attended.lent.logs events, attended.opened⟩

theorem sourced (attended : Attended origin borrowers depot) (source : Source) :
    Attended origin borrowers { depot with source := source } :=
  ⟨attended.lent.sourced source, attended.opened⟩

theorem send
    (attended : Attended origin (borrowers + 1) depot)
    (request : Request)
    (keepsOpen : origin.schedule.KeepsOpen request.method) :
    Yields (Action.send request) depot (Responded origin (borrowers + 1) request depot) := by
  have sent := send_sent request depot
  have lent := (Lent.lasting origin borrowers).sends request trivial depot attended.lent
  -- Recording the call makes its number one more than that of the calls before it.
  have counted : (depot.recorded (.called (.request request))).journal.callCount request.method =
      depot.journal.callCount request.method + 1 := by
    simp [Depot.recorded, Journal.record, Journal.callCount, Event.isCall, Call.method]
  have called : call Store.close (.request request) (serve request) pure depot =
      ((depot.service.respond request (origin.schedule.disruptions request.method
          (depot.journal.callCount request.method + 1))).1,
        { depot.recorded (.called (.request request)) with
          service := (depot.service.respond request (origin.schedule.disruptions request.method
            (depot.journal.callCount request.method + 1))).2 }) := by
    rw [call, run_bind_ok _ (run_record _ depot), run_bind_ok _ (run_get _),
      Depot.schedule_recorded, attended.lent.sameSchedule]
    simp only [Call.method, counted]
    exact disrupted_of_open (keepsOpen _) _
  have ran : Action.send request depot =
      ((depot.service.respond request (origin.schedule.disruptions request.method
          (depot.journal.callCount request.method + 1))).1,
        Depot.recorded
          { depot.recorded (.called (.request request)) with
            service := (depot.service.respond request (origin.schedule.disruptions request.method
              (depot.journal.callCount request.method + 1))).2 }
          (.answered request (depot.service.respond request (origin.schedule.disruptions
            request.method (depot.journal.callCount request.method + 1))).1)) := by
    simp only [Action.send, run_bind, run_attempt, called, run_record, run_settle]
  rw [Yields, ran] at sent ⊢
  rw [ran] at lent
  exact ⟨⟨lent, attended.opened⟩, sent, rfl, rfl⟩

theorem ask
    (attended : Attended origin (borrowers + 1) depot)
    (request : Request)
    (keepsOpen : origin.schedule.KeepsOpen request.method)
    (doing : String) :
    Yields (Client.ask request doing) depot (fun outcome next => exists given,
      Responded origin (borrowers + 1) request depot given next ∧
        outcome = given.mapError (fun failure => failure.told doing)) := by
  refine (attended.send request keepsOpen).attempt_bind (fun given next responded => ?_)
  cases given with
  | ok answer => exact ⟨.ok answer, responded, rfl⟩
  | error failure => exact ⟨.error failure, responded, rfl⟩

theorem acquire
    (attended : Attended origin borrowers depot)
    {store : Store}
    (leavesOpen : LeavesOpen store origin.schedule)
    (canLend : store.CanLend depot) :
    Yields store.acquire depot (fun outcome next =>
      outcome = .ok origin.references.length ∧ Attended origin (borrowers + 1) next ∧
        Idle depot next) := by
  -- Whether the client was made before decides how it is acquired, but not what is given.
  have lends : (store.acquire depot).1 = .ok origin.references.length := by
    obtain ⟨life, follows, _⟩ := attended.lent
    have opened : life.closed = false := follows.closed.symm.trans attended.opened
    cases made : life.client with
    | some client =>
      obtain ⟨next, acquired, _⟩ := follows.acquire_made store made opened
      rw [acquired]
    | none =>
      have unmade : depot.current = none := by simp [follows.current, made]
      obtain ⟨client, makes⟩ := canLend.resolve_left (absurd unmade)
      have opening := follows.acquire_unmade leavesOpen made opened
      cases ran : store.makeClient depot with
      | mk outcome left =>
        rw [ran] at opening makes
        subst makes
        obtain ⟨next, acquired, _⟩ := opening
        rw [acquired]
  have acquired := acquire_acquired attended.lent leavesOpen
  rw [Yields, lends] at acquired
  obtain ⟨_, lent, opened, _⟩ := acquired
  exact ⟨lends, ⟨lent, opened⟩, Detached.idle (fun detached => detached.acquire store) depot⟩

theorem release (attended : Attended origin (borrowers + 1) depot) :
    Yields (Reference.release origin.references.length) depot (fun outcome next =>
      outcome = .ok false ∧ Attended origin borrowers next ∧ Idle depot next ∧
        next.current ≠ none) := by
  obtain ⟨next, released, current⟩ := attended.lent.release_of_open attended.opened
  have lent := attended.lent.release
  have idle : Idle depot (Reference.release origin.references.length depot).2 :=
    Detached.idle (fun detached => detached.release origin.references.length) depot
  rw [released] at lent idle
  -- An open store holds its client itself, so this was not the last hold.
  have opened : next.closed = false := by
    obtain ⟨life, follows, _⟩ := lent
    have has := follows.current
    rw [current] at has
    cases closed : life.closed with
    | true => simp [closed] at has
    | false => exact follows.closed.trans closed
  rw [Yields, released]
  exact ⟨rfl, ⟨lent, opened⟩, idle, by simp [current]⟩

theorem borrowing
    {α : Type}
    {store : Store}
    {work : Action α}
    {expected : Except Failure α -> Depot -> Prop}
    (attended : Attended origin borrowers depot)
    (leavesOpen : LeavesOpen store origin.schedule)
    (canLend : store.CanLend depot)
    (works : forall middle, Attended origin (borrowers + 1) middle -> Idle depot middle ->
      Yields work middle (fun outcome left =>
        Attended origin (borrowers + 1) left ∧ expected outcome left)) :
    Yields (store.borrowing work) depot (fun outcome next =>
      Attended origin borrowers next ∧ next.current ≠ none ∧
        exists left, expected outcome left ∧ Idle left next) := by
  -- While the store stays open neither acquiring nor giving back fails.
  refine (attended.acquire leavesOpen canLend).bind (fun reference middle acquired => ?_)
    (fun failure middle acquired => ?_)
  · obtain ⟨isReference, attendedMiddle, same⟩ := acquired
    cases isReference
    refine (works middle attendedMiddle same).attempt_bind (fun outcome left worked => ?_)
    refine worked.1.release.bind (fun last next released => ?_) (fun failure next released => ?_)
    · obtain ⟨_, attendedNext, same, current⟩ := released
      rw [Yields, run_settle]
      exact ⟨attendedNext, current, left, worked.2, same⟩
    · cases released.1
  · cases acquired.1

end Attended

end BlobDepot
