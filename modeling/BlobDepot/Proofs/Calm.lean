import BlobDepot.Proofs.Answers
import BlobDepot.Proofs.Parts

set_option autoImplicit false

namespace BlobDepot

open BlobDepot.Action

def Schedule.IsCalm (schedule : Schedule) : Prop :=
  forall method number, schedule.disruptions method number = []

namespace Schedule.IsCalm

variable {schedule : Schedule}

theorem failsEarly (calm : schedule.IsCalm) : schedule.FailsEarly := by
  intro method number disruption _ listed
  rw [calm method number] at listed
  cases listed

theorem leavesOpen (calm : schedule.IsCalm) (store : Store) : LeavesOpen store schedule := by
  intro number disruption listed
  rw [calm _ number] at listed
  cases listed

end Schedule.IsCalm

theorem call_of_calm
    {α : Type}
    {shut : Action Unit}
    {made : Call}
    {effect : Action α}
    {answered : Answer -> Action α}
    {depot : Depot}
    (calm : depot.schedule.IsCalm) :
    call shut made effect answered depot = effect (depot.recorded (.called made)) := by
  rw [call, run_bind_ok _ (run_record _ depot), run_bind_ok _ (run_get _), Depot.schedule_recorded,
    calm]
  rfl

theorem Schedule.IsCalm.canLend {depot : Depot} (calm : depot.schedule.IsCalm) (store : Store) :
    store.CanLend depot := by
  refine .inr ⟨depot.clients + 1, ?_⟩
  rw [Store.makeClient, run_bind, call_of_calm calm]
  rfl

theorem Attended.canLend
    {origin depot : Depot}
    {borrowers : Nat}
    (attended : Attended origin borrowers depot)
    (calm : origin.schedule.IsCalm)
    (store : Store) :
    store.CanLend depot :=
  Schedule.IsCalm.canLend (attended.lent.sameSchedule.symm ▸ calm) store

/-- The store is open and so many borrow its client; no call is disrupted, and listings have pages
that are not empty. -/
structure Steady (origin : Depot) (borrowers : Nat) (depot : Depot) : Prop where
  lent : Lent origin borrowers depot
  opened : depot.closed = false
  calm : origin.schedule.IsCalm
  paged : 0 < depot.service.pageSize

namespace Steady

variable {origin depot next : Depot} {borrowers : Nat}

theorem isCalm (steady : Steady origin borrowers depot) : depot.schedule.IsCalm :=
  steady.lent.sameSchedule ▸ steady.calm

theorem failsEarly (steady : Steady origin borrowers depot) : depot.schedule.FailsEarly :=
  steady.isCalm.failsEarly

theorem logs
    (steady : Steady origin borrowers depot)
    {journal : Journal}
    (events : journal.events = depot.journal.events) :
    Steady origin borrowers { depot with journal := journal } where
  lent := steady.lent.logs events
  opened := steady.opened
  calm := steady.calm
  paged := steady.paged

theorem sourced (steady : Steady origin borrowers depot) (source : Source) :
    Steady origin borrowers { depot with source := source } where
  lent := steady.lent.sourced source
  opened := steady.opened
  calm := steady.calm
  paged := steady.paged

theorem attended (steady : Steady origin borrowers depot) : Attended origin borrowers depot :=
  ⟨steady.lent, steady.opened⟩

theorem keepsOpen (steady : Steady origin borrowers depot) (method : Method) :
    origin.schedule.KeepsOpen method := by
  intro number disruption listed
  rw [steady.calm method number] at listed
  cases listed

theorem canLend (steady : Steady origin borrowers depot) (store : Store) : store.CanLend depot :=
  steady.attended.canLend steady.calm store

theorem send
    (steady : Steady origin (borrowers + 1) depot)
    (request : Request) :
    Yields (Action.send request) depot (fun outcome next =>
      Steady origin (borrowers + 1) next ∧ next.source = depot.source ∧
        next.service = (depot.service.perform request).2 ∧
        outcome = (depot.service.perform request).1.mapError
          (fun rejection => .of (.rejected rejection))) := by
  refine (steady.attended.send request (steady.keepsOpen request.method)).mono
    (fun outcome next responded => ?_)
  have response := responded.response
  rw [steady.calm, Service.respond, Service.answer, Prod.mk.injEq] at response
  obtain ⟨answered, service⟩ := response
  refine ⟨⟨responded.attended.lent, responded.attended.opened, steady.calm, ?_⟩,
    responded.sent.source, service.symm, answered.symm⟩
  rw [<- service, Service.perform_pageSize]
  exact steady.paged

end Steady

def Serves
    {α : Type}
    (origin : Depot)
    (borrowers : Nat)
    (work : Action α)
    (depot : Depot)
    (expected : Except Failure α -> Service -> Prop) : Prop :=
  Yields work depot (fun outcome next =>
    Steady origin borrowers next ∧ expected outcome next.service)

theorem Steady.borrowing
    {α : Type}
    {origin depot : Depot}
    {borrowers : Nat}
    {work : Action α}
    {expected : Except Failure α -> Service -> Prop}
    (steady : Steady origin borrowers depot)
    (store : Store)
    (works : forall middle, Steady origin (borrowers + 1) middle -> SameWork depot middle ->
      Serves origin (borrowers + 1) work middle expected) :
    Serves origin borrowers (store.borrowing work) depot expected := by
  -- The size of pages is kept as well, of which an open store alone says nothing.
  have attendedWorks : forall middle, Attended origin (borrowers + 1) middle ->
      Idle depot middle -> Yields work middle (fun outcome left =>
        Attended origin (borrowers + 1) left ∧
          0 < left.service.pageSize ∧ expected outcome left.service) := by
    intro middle attended same
    have paged : 0 < middle.service.pageSize := same.service ▸ steady.paged
    exact (works middle ⟨attended.lent, attended.opened, steady.calm, paged⟩ same.toSameWork).mono
      (fun outcome left worked => ⟨worked.1.attended, worked.1.paged, worked.2⟩)
  refine (steady.attended.borrowing (steady.calm.leavesOpen store) (steady.canLend store)
    attendedWorks).mono (fun outcome next borrowed => ?_)
  obtain ⟨attended, _, left, ⟨paged, holds⟩, same⟩ := borrowed
  rw [<- same.service] at paged holds
  exact ⟨⟨attended.lent, attended.opened, steady.calm, paged⟩, holds⟩

theorem Steady.answered
    {origin depot : Depot}
    {borrowers : Nat}
    {request : Request}
    {answer : Answer}
    {service : Service}
    (steady : Steady origin (borrowers + 1) depot)
    (performed : depot.service.perform request = (.ok answer, service))
    (doing : String) :
    exists next, Client.ask request doing depot = (.ok answer, next) ∧
      Steady origin (borrowers + 1) next ∧ next.source = depot.source ∧ next.service = service := by
  have sent := steady.send request
  rw [Yields, performed] at sent
  obtain ⟨steadyNext, source, isService, outcome⟩ := sent
  refine ⟨(Action.send request depot).2, ?_, steadyNext, source, isService⟩
  rw [Client.ask, run_bind, run_attempt, outcome]
  rfl

theorem Steady.rejected
    {origin depot : Depot}
    {borrowers : Nat}
    {request : Request}
    {rejection : Rejection}
    {service : Service}
    (steady : Steady origin (borrowers + 1) depot)
    (performed : depot.service.perform request = (.error rejection, service))
    (doing : String) :
    exists next, Client.ask request doing depot =
        (.error ((Failure.of (.rejected rejection)).reported doing), next) ∧
      Steady origin (borrowers + 1) next ∧ next.service = service := by
  have sent := steady.send request
  rw [Yields, performed] at sent
  obtain ⟨steadyNext, _, isService, outcome⟩ := sent
  refine ⟨(Action.send request depot).2, ?_, steadyNext, isService⟩
  rw [Client.ask, run_bind, run_attempt, outcome]
  rfl

theorem Serves.reporting
    {α : Type}
    {origin depot : Depot}
    {borrowers : Nat}
    {work : Action α}
    {expected : Except Failure α -> Service -> Prop}
    (serves : Serves origin borrowers work depot expected)
    (succeeds : forall outcome service, expected outcome service ->
      exists result, outcome = .ok result)
    (kind : Kind)
    (problem : Problem) :
    Serves origin borrowers (Container.reporting kind problem work) depot expected := by
  refine serves.attempt_bind (fun outcome next served => ?_)
  obtain ⟨result, rfl⟩ := succeeds outcome next.service served.2
  exact served

theorem Serves.bind_ok
    {α β : Type}
    {origin depot : Depot}
    {borrowers : Nat}
    {work : Action α}
    {next : α -> Action β}
    {result : α}
    {expected : Service -> Prop}
    {goal : Except Failure β -> Depot -> Prop}
    (serves : Serves origin borrowers work depot
      (fun outcome service => outcome = .ok result ∧ expected service))
    (rest : forall middle, Steady origin borrowers middle -> expected middle.service ->
      Yields (next result) middle goal) :
    Yields (work >>= next) depot goal := by
  refine serves.bind (fun given middle served => ?_) (fun failure middle served => ?_)
  · obtain ⟨steadyMiddle, isResult, holds⟩ := served
    cases isResult
    exact rest middle steadyMiddle holds
  · cases served.2.1

end BlobDepot
