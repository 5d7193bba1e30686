import BlobDepot.Proofs.Work

set_option autoImplicit false

namespace BlobDepot

open BlobDepot.Action

def Event.isExchange : Event -> Bool
  | .called (.request _) | .answered .. => true
  | _ => false

def Depot.exchange (depot : Depot) : List Event :=
  depot.journal.history.filter Event.isExchange

theorem Depot.exchange_recorded (depot : Depot) (event : Event) :
    (depot.recorded event).exchange =
      depot.exchange ++ if event.isExchange then [event] else [] := by
  simp only [Depot.exchange, Depot.history_recorded, List.filter_append]
  cases shown : event.isExchange <;> simp [shown]

def Event.isWork : Event -> Bool
  | .called (.request _) | .answered .. | .read .. => true
  | _ => false

def Depot.trace (depot : Depot) : List Event :=
  depot.journal.history.filter Event.isWork

theorem Depot.trace_recorded (depot : Depot) (event : Event) :
    (depot.recorded event).trace = depot.trace ++ if event.isWork then [event] else [] := by
  simp only [Depot.trace, Depot.history_recorded, List.filter_append]
  cases shown : event.isWork <;> simp [shown]

theorem Event.isExchange_of_aside {event : Event} (aside : event.isWork = false) :
    event.isExchange = false := by
  cases event with
  | called call => cases call <;> first | rfl | cases aside
  | answered _ _ => cases aside
  | _ => rfl

/-- What goes on to hold whatever happens to the shared client, of which entries are logged. -/
structure Detached (kept : Depot -> Prop) : Prop where
  enters : forall depot level event fields, kept depot ->
    kept { depot with journal := depot.journal.log level event fields }
  records : forall depot event, event.isWork = false -> kept depot -> kept (depot.recorded event)
  lends : forall depot references current clients, kept depot ->
    kept { depot with references := references, current := current, clients := clients }
  shuts : forall depot, kept depot -> kept { depot with closed := true, current := none }

structure Aloof (kept : Depot -> Prop) : Prop extends Detached kept where
  logs : forall depot journal, journal.events = depot.journal.events -> kept depot ->
    kept { depot with journal := journal }
  enters depot _ _ _ holds := logs depot _ rfl holds

namespace Detached

variable {kept : Depot -> Prop}

theorem log
    (detached : Detached kept)
    (level event : String)
    (fields : List (String × Value)) :
    Keeps kept (Action.log level event fields) :=
  fun depot holds => detached.enters depot level event fields holds

theorem call
    {shut : Action Unit}
    {made : Call}
    (detached : Detached kept)
    (aside : (Event.called made).isWork = false)
    (closing : Keeps kept shut) :
    Keeps kept (call shut made (pure ()) (fun _ => pure ())) :=
  fun depot holds => call_keeps (detached.records depot _ aside holds) (fun _ _ _ _ => closing)
    (keeps_pure ()) (fun _ => keeps_pure ())

theorem closeClient
    {shut : Action Unit}
    (detached : Detached kept)
    (closing : Keeps kept shut)
    (client : Nat) :
    Keeps kept (Reference.closeClient shut client) := by
  have ends : Keeps kept (Reference.endClient shut client) :=
    keeps_get.bind (fun _ => Keeps.ite (detached.call rfl closing) (keeps_pure ()))
  exact ends.bind (fun _ => detached.log _ _ _)

theorem releaseThrough
    {close : Nat -> Action Unit}
    {seen : Nat -> Event}
    (detached : Detached kept)
    (closing : forall client, Keeps kept (close client))
    (aside : forall left, (seen left).isWork = false)
    (reference : Nat) :
    Keeps kept (Reference.releaseThrough close seen reference) := by
  intro depot holds
  simp only [Reference.releaseThrough, run_bind_ok _ (run_get depot)]
  cases depot.holders reference with
  | zero => exact holds
  | succ left =>
    have given : kept ((depot.setHolders reference left).recorded (seen left)) :=
      detached.records _ _ (aside left) (detached.lends depot _ depot.current depot.clients holds)
    simp only [run_bind_ok _ (run_set _ depot), run_bind_ok _ (run_record _ _)]
    exact Keeps.ite ((closing _).bind (fun _ => keeps_pure true)) (keeps_pure false) _ given

theorem closeThrough_shut
    {close : Nat -> Action Unit}
    (detached : Detached kept)
    (closing : forall client, Keeps kept (close client))
    {depot : Depot}
    (opened : depot.closed = false)
    (shut : kept { depot with closed := true, current := none }) :
    kept (Store.closeThrough close depot).2 := by
  simp only [Store.closeThrough, run_bind_ok _ (run_get depot), opened, Bool.false_eq_true,
    if_false, run_bind_ok _ (run_set _ depot)]
  cases depot.current with
  | none => exact detached.records _ _ rfl shut
  | some reference =>
    have released : Keeps kept (Reference.releaseThrough close
        (fun left => .storeClosed (some left)) reference) :=
      detached.releaseThrough closing (fun _ => rfl) reference
    exact released.bind (fun _ => keeps_pure ()) _ shut

theorem closeThrough
    {close : Nat -> Action Unit}
    (detached : Detached kept)
    (closing : forall client, Keeps kept (close client)) :
    Keeps kept (Store.closeThrough close) := by
  intro depot holds
  cases closed : depot.closed with
  | true => simpa [Store.closeThrough, run_bind, closed] using holds
  | false => exact detached.closeThrough_shut closing closed (detached.shuts depot holds)

theorem closeWithin (detached : Detached kept) : Keeps kept Store.closeWithin :=
  detached.closeThrough (detached.closeClient (keeps_pure ()))

theorem close (detached : Detached kept) : Keeps kept Store.close :=
  detached.closeThrough (detached.closeClient detached.closeWithin)

theorem release (detached : Detached kept) (reference : Nat) :
    Keeps kept (Reference.release reference) :=
  detached.releaseThrough
    (detached.closeClient detached.closeWithin)
    (fun _ => rfl) reference

theorem tryAcquire (detached : Detached kept) (reference : Nat) :
    Keeps kept (Reference.tryAcquire reference) := by
  intro depot holds
  simp only [Reference.tryAcquire, run_bind_ok _ (run_get depot)]
  by_cases unheld : depot.holders reference = 0
  next =>
    rw [if_pos unheld]
    exact holds
  next =>
    rw [if_neg unheld]
    exact detached.records _ _ rfl (detached.lends depot _ depot.current depot.clients holds)

theorem acquireReference (detached : Detached kept) (reference : Nat) :
    Keeps kept (Reference.acquire reference) :=
  (detached.tryAcquire reference).bind (fun _ => Keeps.ite (keeps_pure ()) (keeps_fail _))

theorem openReference (detached : Detached kept) (store : Store) :
    Keeps kept store.openReference := by
  have aside : (Event.called store.clientCall).isWork = false := by
    cases made : store.clientSource <;> simp [Store.clientCall, made, Event.isWork]
  have numbered : Keeps kept Store.newClient :=
    fun depot holds => detached.lends depot depot.references depot.current _ holds
  refine ((detached.call aside detached.close).bind (fun _ => numbered)).bind (fun client => ?_)
  intro depot holds
  have added : kept { depot.addReference client with current := some depot.references.length } :=
    detached.lends depot _ _ depot.clients holds
  have borrows := (detached.acquireReference depot.references.length).bind
    (fun _ => keeps_pure depot.references.length)
  exact (detached.log _ _ _).bind (fun _ => borrows) _ (detached.records _ _ rfl added)

theorem acquire (detached : Detached kept) (store : Store) : Keeps kept store.acquire := by
  refine keeps_get.bind (fun depot => ?_)
  refine Keeps.ite (keeps_fail _) ?_
  cases depot.current with
  | none => exact detached.openReference store
  | some reference =>
    exact (detached.tryAcquire reference).bind
      (fun _ => Keeps.ite (keeps_pure _) (detached.openReference store))

end Detached

namespace Aloof

variable {kept : Depot -> Prop}

theorem count (aloof : Aloof kept) (change : Metrics -> Metrics) :
    Keeps kept (Action.count change) :=
  fun depot holds => aloof.logs depot _ rfl holds

theorem lending (aloof : Aloof kept) (store : Store) : Lending store kept (fun _ => kept) where
  logs := aloof.logs
  acquires depot holds := by
    -- It is kept whether or not the client could be had.
    have acquired := aloof.acquire store depot holds
    cases ran : store.acquire depot with
    | mk outcome next =>
      rw [ran] at acquired
      cases outcome <;> exact acquired
  releases reference depot holds := aloof.release reference depot holds

theorem and {other : Depot -> Prop} (aloof : Aloof kept) (otherAloof : Aloof other) :
    Aloof (fun depot => kept depot ∧ other depot) where
  logs depot journal events holds :=
    ⟨aloof.logs depot journal events holds.1, otherAloof.logs depot journal events holds.2⟩
  records depot event aside holds :=
    ⟨aloof.records depot event aside holds.1, otherAloof.records depot event aside holds.2⟩
  lends depot references current clients holds :=
    ⟨aloof.lends depot references current clients holds.1,
      otherAloof.lends depot references current clients holds.2⟩
  shuts depot holds := ⟨aloof.shuts depot holds.1, otherAloof.shuts depot holds.2⟩

theorem or {other : Depot -> Prop} (aloof : Aloof kept) (otherAloof : Aloof other) :
    Aloof (fun depot => kept depot ∨ other depot) where
  logs depot journal events := Or.imp (aloof.logs depot journal events)
    (otherAloof.logs depot journal events)
  records depot event aside := Or.imp (aloof.records depot event aside)
    (otherAloof.records depot event aside)
  lends depot references current clients := Or.imp (aloof.lends depot references current clients)
    (otherAloof.lends depot references current clients)
  shuts depot := Or.imp (aloof.shuts depot) (otherAloof.shuts depot)

end Aloof

theorem aloof_closed : Aloof (fun depot => depot.closed = true) where
  logs _ _ _ closed := closed
  records _ _ _ closed := closed
  lends _ _ _ _ closed := closed
  shuts _ _ := rfl

theorem Store.closed_close (depot : Depot) : (Store.close depot).2.closed = true := by
  cases closed : depot.closed with
  | true => exact aloof_closed.close depot closed
  | false =>
    exact aloof_closed.closeThrough_shut (aloof_closed.closeClient aloof_closed.closeWithin) closed
      rfl

theorem lasting_closed : Lasting (fun _ => True) (fun depot => depot.closed = true) where
  logs _ _ _ closed := closed
  reads _ := keeps_readSource aloof_closed.close (fun _ _ _ closed => closed)
  sends _ _ := keeps_send (fun _ closed => closed) (fun _ _ closed => closed)
    (fun _ closed => closed) aloof_closed.close

def Grown (origin depot : Depot) : Prop :=
  exists events, depot.journal.history = origin.journal.history ++ events

theorem Grown.refl (depot : Depot) : Grown depot depot :=
  ⟨[], (List.append_nil _).symm⟩

theorem Grown.trans
    {origin depot next : Depot}
    (first : Grown origin depot)
    (second : Grown depot next) :
    Grown origin next := by
  obtain ⟨events, history⟩ := first
  obtain ⟨later, laterHistory⟩ := second
  exact ⟨events ++ later, by rw [laterHistory, history, List.append_assoc]⟩

theorem Grown.recorded {origin depot : Depot} (grown : Grown origin depot) (event : Event) :
    Grown origin (depot.recorded event) := by
  obtain ⟨events, history⟩ := grown
  refine ⟨events ++ [event], ?_⟩
  rw [Depot.history_recorded, history, List.append_assoc]

theorem aloof_grown (origin : Depot) : Aloof (Grown origin) where
  logs depot journal events grown := by
    obtain ⟨later, history⟩ := grown
    refine ⟨later, ?_⟩
    rw [<- history]
    simp only [Journal.history, events]
  records _ event _ grown := grown.recorded event
  lends _ _ _ _ grown := grown
  shuts _ grown := grown

theorem lasting_grown (origin : Depot) : Lasting (fun _ => True) (Grown origin) where
  logs := (aloof_grown origin).logs
  reads _ := keeps_readSource (aloof_grown origin).close (fun depot source _ grown => by
    have moved : Grown origin { depot with source := source } := grown
    exact moved.recorded _)
  sends _ _ := keeps_send (fun _ grown => grown.recorded _) (fun _ _ grown => grown.recorded _)
    (fun _ grown => grown) (aloof_grown origin).close

structure SameWork (depot next : Depot) : Prop where
  service : next.service = depot.service
  source : next.source = depot.source
  schedule : next.schedule = depot.schedule
  exchange : next.exchange = depot.exchange
  grown : Grown depot next

namespace SameWork

variable {origin depot next : Depot}

theorem refl (depot : Depot) : SameWork depot depot :=
  ⟨rfl, rfl, rfl, rfl, Grown.refl depot⟩

theorem trans (first : SameWork origin depot) (second : SameWork depot next) :
    SameWork origin next :=
  ⟨second.service.trans first.service, second.source.trans first.source,
    second.schedule.trans first.schedule, second.exchange.trans first.exchange,
    first.grown.trans second.grown⟩

theorem logs
    (same : SameWork origin depot)
    {journal : Journal}
    (events : journal.events = depot.journal.events) :
    SameWork origin { depot with journal := journal } := by
  refine ⟨same.service, same.source, same.schedule, ?_,
    (aloof_grown origin).logs depot journal events same.grown⟩
  rw [<- same.exchange]
  simp only [Depot.exchange, Journal.history, events]

theorem logged
    (depot : Depot)
    (level event : String)
    (fields : List (String × Value)) :
    SameWork depot { depot with journal := depot.journal.log level event fields } :=
  (refl depot).logs rfl

theorem aloof (origin : Depot) : Aloof (SameWork origin) where
  logs _ _ events same := same.logs events
  records depot event aside same := by
    refine ⟨same.service, same.source, same.schedule, ?_, same.grown.recorded event⟩
    rw [Depot.exchange_recorded, event.isExchange_of_aside aside, same.exchange]
    exact List.append_nil _
  lends _ _ _ _ same := ⟨same.service, same.source, same.schedule, same.exchange, same.grown⟩
  shuts _ same := ⟨same.service, same.source, same.schedule, same.exchange, same.grown⟩

theorem aloof_of_stable
    {kept : Depot -> Prop}
    (stable : forall depot next, SameWork depot next -> kept depot -> kept next) :
    Aloof kept where
  logs depot journal events := stable _ _ ((aloof depot).logs depot journal events (refl depot))
  records depot event aside :=
    stable _ _ ((aloof depot).records depot event aside (refl depot))
  lends depot references current clients :=
    stable _ _ ((aloof depot).lends depot references current clients (refl depot))
  shuts depot := stable _ _ ((aloof depot).shuts depot (refl depot))

end SameWork

theorem detached_metrics (metrics : Metrics) :
    Detached (fun depot => depot.journal.metrics = metrics) where
  enters _ _ _ _ same := same
  records _ _ _ same := same
  lends _ _ _ _ same := same
  shuts _ same := same

theorem detached_trace (events : List Event) : Detached (fun depot => depot.trace = events) where
  enters _ _ _ _ same := same
  records depot event aside same := by
    rw [Depot.trace_recorded, aside, same]
    exact List.append_nil _
  lends _ _ _ _ same := same
  shuts _ same := same

structure Idle (depot next : Depot) : Prop extends SameWork depot next where
  metrics : next.journal.metrics = depot.journal.metrics

theorem Idle.refl (depot : Depot) : Idle depot depot :=
  ⟨SameWork.refl depot, rfl⟩

theorem Detached.idle
    {α : Type}
    {work : Action α}
    (keeps : forall {kept : Depot -> Prop}, Detached kept -> Keeps kept work)
    (depot : Depot) :
    Idle depot (work depot).2 where
  toSameWork := keeps (SameWork.aloof depot).toDetached depot (SameWork.refl depot)
  metrics := keeps (detached_metrics _) depot rfl

end BlobDepot
