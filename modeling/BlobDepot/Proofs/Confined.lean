import BlobDepot.Proofs.Calls

set_option autoImplicit false

namespace BlobDepot

open BlobDepot.Action

namespace Action

variable {α β : Type} {kept : Depot -> Prop} {allowed : Failure -> Prop}

def Ends (allowed : Failure -> Prop) (expected : α -> Prop) : Except Failure α -> Prop
  | .ok result => expected result
  | .error failure => allowed failure

/-- Wherever something holds, it goes on to hold, and an action ends as it may. -/
def Confined
    (kept : Depot -> Prop)
    (allowed : Failure -> Prop)
    (expected : α -> Prop)
    (action : Action α) : Prop :=
  forall depot, kept depot ->
    Yields action depot (fun outcome next => kept next ∧ Ends allowed expected outcome)

section Rules

variable {expected : β -> Prop}

theorem confined_pure {result : β} (holds : expected result) :
    Confined kept allowed expected (pure result) :=
  fun _ same => ⟨same, holds⟩

theorem confined_any (result : β) : Confined kept allowed (fun _ => True) (pure result) :=
  confined_pure trivial

theorem confined_throw {failure : Failure} (holds : allowed failure) :
    Confined kept allowed expected (throw failure) :=
  fun _ same => ⟨same, holds⟩

theorem confined_set {next : Depot} (same : kept next) :
    Confined kept allowed (fun _ => True) (set next : Action PUnit) :=
  fun _ _ => ⟨same, trivial⟩

theorem confined_settle {outcome : Except Failure β} (ends : Ends allowed expected outcome) :
    Confined kept allowed expected (settle outcome) := by
  cases outcome with
  | ok result => exact confined_pure ends
  | error failure => exact confined_throw ends

theorem confined_shaped
    {reading : Except ShapeError β}
    (fails : forall error, reading = .error error -> allowed (.of (.shape error))) :
    Confined kept allowed (fun _ => True) (shaped reading) := by
  cases reading with
  | ok result => exact confined_any result
  | error error => exact confined_throw (fails error rfl)

namespace Confined

theorem get_bind
    {next : Depot -> Action β}
    (rest : forall depot, kept depot -> Confined kept allowed expected (next depot)) :
    Confined kept allowed expected (get >>= next) :=
  fun depot same => rest depot same depot same

theorem bind
    {middle : α -> Prop}
    {first : Action α}
    {next : α -> Action β}
    (confined : Confined kept allowed middle first)
    (rest : forall result, middle result -> Confined kept allowed expected (next result)) :
    Confined kept allowed expected (first >>= next) :=
  fun depot same => (confined depot same).bind
    (fun result left ends => rest result ends.2 left ends.1)
    (fun _ _ ends => ends)

theorem attempt_bind
    {middle : α -> Prop}
    {first : Action α}
    {next : Except Failure α -> Action β}
    (confined : Confined kept allowed middle first)
    (rest : forall outcome, Ends allowed middle outcome ->
      Confined kept allowed expected (next outcome)) :
    Confined kept allowed expected (attempt first >>= next) :=
  fun depot same => (confined depot same).attempt_bind
    (fun outcome left ends => rest outcome ends.2 left ends.1)

theorem ite
    {condition : Prop}
    [Decidable condition]
    {first second : Action β}
    (firstConfined : Confined kept allowed expected first)
    (secondConfined : Confined kept allowed expected second) :
    Confined kept allowed expected (if condition then first else second) := by
  split
  next => exact firstConfined
  next => exact secondConfined

theorem optional
    {condition : Prop}
    [Decidable condition]
    {first : Action α}
    {next : Action β}
    (firstConfined : Confined kept allowed (fun _ => True) first)
    (rest : Confined kept allowed expected next) :
    Confined kept allowed expected (if condition then first >>= fun _ => next else next) :=
  ite (firstConfined.bind (fun _ _ => rest)) rest

end Confined

end Rules

/-- What holds where work is done stays so while the schedule and the events of the stream do, and
there every failure of the shared client and of a request is allowed. -/
structure Confines (kept : Depot -> Prop) (allowed : Failure -> Prop) : Prop where
  stays : forall depot next, next.schedule = depot.schedule ->
    next.source.events = depot.source.events -> kept depot -> kept next
  raises : forall depot method number disruption failure, kept depot ->
    disruption ∈ depot.schedule.disruptions method number ->
    disruption.outcome = some (.error failure) -> allowed failure
  states : forall error, allowed (.of (.state error))
  rejects : forall (service : Service) request rejection,
    (service.perform request).1 = .error rejection -> allowed (.of (.rejected rejection))
  reports : forall failure doing, allowed failure -> failure.fromService = true ->
    allowed (failure.reported doing)

theorem confined_disrupted
    {shut : Action Unit}
    {effect : Action α}
    {answered : Answer -> Action α}
    {disruptions : List Disruption}
    (raises : forall disruption failure, disruption ∈ disruptions ->
      disruption.outcome = some (.error failure) -> allowed failure)
    (shuts : Confined kept allowed (fun _ => True) shut)
    (effects : Confined kept allowed (fun _ => True) effect)
    (answers : forall answer, Confined kept allowed (fun _ => True) (answered answer)) :
    Confined kept allowed (fun _ => True) (disrupted shut effect answered disruptions) := by
  -- The induction is on what the schedule has left for the call.
  induction disruptions with
  | nil => exact effects
  | cons disruption rest ih =>
    have later := ih (fun other failure listed => raises other failure (.tail _ listed))
    rw [disrupted]
    refine Confined.optional effects (Confined.optional shuts ?_)
    cases outcome : disruption.outcome with
    | none => exact later
    | some settled =>
      cases settled with
      | ok answer => exact answers answer
      | error failure => exact confined_throw (raises disruption failure List.mem_cons_self outcome)

namespace Confines

variable (confines : Confines kept allowed)
include confines

theorem record (event : Event) : Confined kept allowed (fun _ => True) (record event) :=
  fun depot same => ⟨confines.stays depot _ rfl rfl same, trivial⟩

theorem write (change : Journal -> Journal) :
    Confined kept allowed (fun _ => True) (Action.write change) :=
  fun depot same => ⟨confines.stays depot _ rfl rfl same, trivial⟩

theorem log (level event : String) (fields : List (String × Value)) :
    Confined kept allowed (fun _ => True) (Action.log level event fields) :=
  confines.write _

theorem count (change : Metrics -> Metrics) :
    Confined kept allowed (fun _ => True) (Action.count change) :=
  confines.write _

theorem state (error : StateError) :
    Confined kept allowed (fun _ => True) (fail (.state error) : Action α) :=
  confined_throw (confines.states error)

theorem call
    {shut : Action Unit}
    {made : Call}
    {effect : Action α}
    {answered : Answer -> Action α}
    (shuts : Confined kept allowed (fun _ => True) shut)
    (effects : Confined kept allowed (fun _ => True) effect)
    (answers : forall answer, Confined kept allowed (fun _ => True) (answered answer)) :
    Confined kept allowed (fun _ => True) (call shut made effect answered) := by
  refine (confines.record _).bind (fun _ _ => Confined.get_bind (fun depot same => ?_))
  exact confined_disrupted
    (fun disruption failure => confines.raises depot _ _ disruption failure same)
    shuts effects answers

theorem closeClient
    {shut : Action Unit}
    (shuts : Confined kept allowed (fun _ => True) shut)
    (client : Nat) :
    Confined kept allowed (fun _ => True) (Reference.closeClient shut client) := by
  have ends : Confined kept allowed (fun _ => True) (Reference.endClient shut client) :=
    Confined.get_bind (fun _ _ => Confined.ite
      (confines.call shuts (confined_any _) (fun _ => confined_any _)) (confined_any _))
  exact ends.bind (fun _ _ => confines.log _ _ _)

theorem releaseThrough
    {close : Nat -> Action Unit}
    (closes : forall client, Confined kept allowed (fun _ => True) (close client))
    (seen : Nat -> Event)
    (reference : Nat) :
    Confined kept allowed (fun _ => True) (Reference.releaseThrough close seen reference) := by
  refine Confined.get_bind (fun depot same => ?_)
  cases depot.holders reference with
  | zero => exact confines.state _
  | succ others =>
    refine (confined_set (by exact confines.stays depot _ rfl rfl same)).bind (fun _ _ => ?_)
    refine (confines.record _).bind (fun _ _ => Confined.ite ?_ (confined_any _))
    exact (closes _).bind (fun _ _ => confined_any _)

theorem closeThrough
    {close : Nat -> Action Unit}
    (closes : forall client, Confined kept allowed (fun _ => True) (close client)) :
    Confined kept allowed (fun _ => True) (Store.closeThrough close) := by
  refine Confined.get_bind (fun depot same => Confined.ite (confined_any _) ?_)
  refine (confined_set (by exact confines.stays depot _ rfl rfl same)).bind (fun _ _ => ?_)
  cases depot.current with
  | none => exact confines.record _
  | some reference =>
    exact (confines.releaseThrough closes _ reference).bind (fun _ _ => confined_any _)

-- The store is closed at most twice in one another, so two rounds of the same rules reach the end.
theorem closeWithin : Confined kept allowed (fun _ => True) Store.closeWithin :=
  confines.closeThrough (confines.closeClient (confined_any _))

theorem close : Confined kept allowed (fun _ => True) Store.close :=
  confines.closeThrough (confines.closeClient confines.closeWithin)

theorem release (reference : Nat) :
    Confined kept allowed (fun _ => True) (Reference.release reference) :=
  confines.releaseThrough (confines.closeClient confines.closeWithin) _ reference

theorem tryAcquire (reference : Nat) :
    Confined kept allowed (fun _ => True) (Reference.tryAcquire reference) := by
  refine Confined.get_bind (fun depot same => Confined.ite (confined_any _) ?_)
  refine (confined_set (by exact confines.stays depot _ rfl rfl same)).bind (fun _ _ => ?_)
  exact (confines.record _).bind (fun _ _ => confined_any _)

theorem acquireReference (reference : Nat) :
    Confined kept allowed (fun _ => True) (Reference.acquire reference) :=
  (confines.tryAcquire reference).bind (fun _ _ =>
    Confined.ite (confined_any _) (confines.state _))

theorem makeClient (store : Store) : Confined kept allowed (fun _ => True) store.makeClient := by
  refine (confines.call confines.close (confined_any _) (fun _ => confined_any _)).bind
    (fun _ _ depot same => ?_)
  exact ⟨confines.stays depot _ rfl rfl same, trivial⟩

theorem openReference (store : Store) :
    Confined kept allowed (fun _ => True) store.openReference := by
  refine (confines.makeClient store).bind (fun client _ => ?_)
  refine Confined.get_bind (fun depot same => ?_)
  refine (confined_set (by exact confines.stays depot _ rfl rfl same)).bind (fun _ _ => ?_)
  refine (confines.record _).bind (fun _ _ => (confines.log _ _ _).bind (fun _ _ => ?_))
  exact (confines.acquireReference _).bind (fun _ _ => confined_any _)

theorem acquire (store : Store) : Confined kept allowed (fun _ => True) store.acquire := by
  refine Confined.get_bind (fun depot same => Confined.ite (confines.state _) ?_)
  cases depot.current with
  | none => exact confines.openReference store
  | some reference =>
    exact (confines.tryAcquire reference).bind (fun _ _ =>
      Confined.ite (confined_any _) (confines.openReference store))

theorem borrowing
    {expected : α -> Prop}
    {work : Action α}
    (works : Confined kept allowed expected work)
    (store : Store) :
    Confined kept allowed expected (store.borrowing work) := by
  refine (confines.acquire store).bind (fun reference _ => ?_)
  refine works.attempt_bind (fun outcome ends => ?_)
  exact (confines.release reference).bind (fun _ _ => confined_settle ends)

theorem serve (request : Request) :
    Confined kept allowed (fun _ => True) (serve request) := by
  intro depot same
  refine ⟨confines.stays depot _ rfl rfl same, ?_⟩
  change Ends allowed _ ((depot.service.perform request).1.mapError _)
  cases performed : (depot.service.perform request).1 with
  | ok answer => trivial
  | error rejection => exact confines.rejects depot.service request rejection performed

theorem send (request : Request) : Confined kept allowed (fun _ => True) (send request) := by
  refine (confines.call confines.close (confines.serve request) confined_any).attempt_bind
    (fun outcome ends => ?_)
  exact (confines.record _).bind (fun _ _ => confined_settle ends)

theorem ask (request : Request) (doing : String) :
    Confined kept allowed (fun _ => True) (Client.ask request doing) := by
  refine (confines.send request).attempt_bind (fun outcome ends => ?_)
  cases outcome with
  | ok answer => exact confined_any answer
  | error failure =>
    apply confined_throw
    split
    next served => exact confines.reports failure doing ends served
    next => exact ends

theorem abortUpload (bucket key uploadId : String) :
    Confined kept allowed (fun _ => True) (Client.abortUpload bucket key uploadId) :=
  (confines.ask _ _).bind (fun _ _ => confined_any _)

end Confines

end Action

end BlobDepot
