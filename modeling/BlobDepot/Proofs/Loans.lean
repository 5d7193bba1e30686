import BlobDepot.Proofs.Answers

set_option autoImplicit false

namespace BlobDepot

open BlobDepot.Action

structure Apart (depot next : Depot) : Prop extends Idle depot next where
  trace : next.trace = depot.trace

theorem Apart.refl (depot : Depot) : Apart depot depot :=
  ⟨Idle.refl depot, rfl⟩

theorem Detached.apart
    {α : Type}
    {work : Action α}
    (keeps : forall {kept : Depot -> Prop}, Detached kept -> Keeps kept work)
    (depot : Depot) :
    Apart depot (work depot).2 where
  toIdle := Detached.idle keeps depot
  trace := keeps (detached_trace _) depot rfl

namespace Depot

def closes (depot : Depot) : Nat :=
  depot.journal.callCount .close

def closeFailure? (depot : Depot) : Option Failure :=
  match depot.schedule.outcome? .close (depot.closes + 1) with
  | some (.error failure) => some failure
  | _ => none

/-- How a client that is told to close meanwhile fails to do so. -/
def failedClose? (depot : Depot) (events : List Event) : Option Failure :=
  if events.any Event.isClose then depot.closeFailure? else none

theorem closes_grown
    {depot next : Depot}
    {events : List Event}
    (history : next.journal.history = depot.journal.history ++ events) :
    next.closes = depot.closes + events.countP Event.isClose := by
  have shown : (fun event : Event => event.isCall .close) = Event.isClose := by
    funext event
    cases event with
    | called call =>
      cases call with
      | request request => cases request <;> rfl
      | _ => rfl
    | _ => rfl
  have counted (journal : Journal) :
      journal.callCount .close = journal.history.countP Event.isClose := by
    rw [Journal.callCount, Journal.history, List.countP_reverse, shown]
  rw [closes, closes, counted, counted, history, List.countP_append]

theorem closeFailure?_of_closes
    {depot next : Depot}
    (schedule : next.schedule = depot.schedule)
    (closes : next.closes = depot.closes) :
    next.closeFailure? = depot.closeFailure? := by
  rw [closeFailure?, closeFailure?, schedule, closes]

end Depot

namespace Lent

variable {origin depot : Depot} {borrowers : Nat}

theorem closes
    (lent : Lent origin borrowers depot)
    (held : depot.closed = false ∨ 0 < borrowers) :
    depot.closes = origin.closes := by
  obtain ⟨life, follows, rfl, _⟩ := lent
  obtain ⟨events, history, _, told⟩ := follows.recorded
  have some : 0 < life.holders := by
    rw [ClientLife.holders, <- follows.closed]
    rcases held with opened | borrowed
    next =>
      rw [opened]
      exact Nat.add_pos_left Nat.one_pos _
    next => omega
  have lasting := follows.lasts some
  rw [<- told, ClientLife.told_ended, List.any_eq_false] at lasting
  rw [Depot.closes_grown history, List.countP_eq_zero.mpr lasting, Nat.add_zero]

theorem close_of_borrowed (lent : Lent origin (borrowers + 1) depot) :
    (Store.close depot).1 = .ok () := by
  cases closed : depot.closed with
  | true => rw [Store.close, closeThrough_of_closed _ closed]
  | false =>
    obtain ⟨next, ran, _⟩ := lent.close_recorded closed
    rw [ran]

end Lent

theorem disrupted_of_idle
    {shut : Action Unit}
    {depot : Depot}
    (idle : shut depot = (.ok (), depot))
    (disruptions : List Disruption) :
    disrupted shut (pure ()) (fun _ => pure ()) disruptions depot =
      (match disruptions.findSome? Disruption.outcome with
        | some (.error failure) => .error failure
        | _ => .ok (), depot) := by
  induction disruptions with
  | nil => rfl
  | cons disruption rest ih =>
    rw [disrupted, List.findSome?_cons]
    -- Neither the effect nor closing the store does anything, so only the outcome is left.
    cases disruption.outcome with
    | none =>
      cases disruption.effectFirst <;> cases disruption.closesStore <;>
        simp [run_bind, idle, ih]
    | some outcome =>
      cases outcome <;> cases disruption.effectFirst <;> cases disruption.closesStore <;>
        simp [run_bind, idle]

def Depot.closing (depot : Depot) : Except Failure Unit :=
  match depot.closeFailure? with
  | some failure => .error failure
  | none => .ok ()

theorem closeClient_of_closed
    {depot : Depot}
    (closed : depot.closed = true)
    (closable : depot.closable = true)
    (client : Nat) :
    Yields (Reference.closeClient Store.closeWithin client) depot (fun outcome next =>
      outcome = depot.closing ∧ next.closes = depot.closes + 1) := by
  let told := depot.recorded (.called (.close client))
  have counted : told.closes = depot.closes + 1 := by
    simp [told, Depot.closes, Depot.recorded, Journal.record, Journal.callCount, Event.isCall,
      Call.method]
  have idle : Store.closeWithin told = (.ok (), told) := closeThrough_of_closed _ closed
  have called : call Store.closeWithin (.close client) (pure ()) (fun _ => pure ()) depot =
      (depot.closing, told) := by
    have number : told.journal.callCount .close = depot.closes + 1 := counted
    rw [call, run_bind_ok _ (run_record _ depot), run_bind_ok _ (run_get _)]
    simp only [Call.method]
    rw [number, disrupted_of_idle idle, Depot.schedule_recorded, Depot.closing,
      Depot.closeFailure?, Schedule.outcome?]
    cases (depot.schedule.disruptions .close (depot.closes + 1)).findSome? Disruption.outcome with
    | none => rfl
    | some outcome => cases outcome <;> rfl
  have ended : Reference.endClient Store.closeWithin client depot = (depot.closing, told) := by
    rw [Reference.endClient, run_bind_ok _ (run_get depot), closable, if_pos rfl, called]
  rw [Yields, Reference.closeClient, run_bind, ended]
  cases depot.closing with
  | ok _ => exact ⟨rfl, counted⟩
  | error failure => exact ⟨rfl, counted⟩

def Returned (origin : Depot) : Except Failure Bool -> Depot -> Prop
  | .ok _, next => next.closes = origin.closes ∨
      next.closes = origin.closes + 1 ∧ origin.closeFailure? = none
  | .error failure, next => next.closes = origin.closes + 1 ∧ origin.closeFailure? = some failure

theorem Depot.failedClose?_of_closes
    {depot next : Depot}
    {events : List Event}
    (closes : next.closes = depot.closes)
    (history : next.journal.history = depot.journal.history ++ events) :
    depot.failedClose? events = none := by
  have grown := Depot.closes_grown history
  have untold : events.countP Event.isClose = 0 := by omega
  have unclosed : Not (events.any Event.isClose = true) := by
    rw [List.any_eq_true]
    rintro ⟨event, listed, close⟩
    exact List.countP_eq_zero.mp untold event listed close
  rw [failedClose?, if_neg unclosed]

theorem Depot.any_isClose
    {depot next : Depot}
    {events : List Event}
    (closed : next.closes = depot.closes + 1)
    (history : next.journal.history = depot.journal.history ++ events) :
    events.any Event.isClose = true := by
  have grown := Depot.closes_grown history
  have told : 0 < events.countP Event.isClose := by omega
  obtain ⟨event, listed, close⟩ := List.countP_pos_iff.mp told
  exact List.any_eq_true.mpr ⟨event, listed, close⟩

namespace Returned

variable {depot next : Depot} {events : List Event}

theorem failedClose?
    {last : Bool}
    (returned : Returned depot (.ok last) next)
    (history : next.journal.history = depot.journal.history ++ events) :
    depot.failedClose? events = none := by
  rcases returned with closes | ⟨closed, known⟩
  next => exact Depot.failedClose?_of_closes closes history
  next => rw [Depot.failedClose?, if_pos (Depot.any_isClose closed history), known]

theorem failedClose?_of_failure
    {failure : Failure}
    (returned : Returned depot (.error failure) next)
    (history : next.journal.history = depot.journal.history ++ events) :
    depot.failedClose? events = some failure := by
  rw [Depot.failedClose?, if_pos (Depot.any_isClose returned.1 history), returned.2]

theorem earlier
    {origin : Depot}
    {outcome : Except Failure Bool}
    (returned : Returned depot outcome next)
    (schedule : depot.schedule = origin.schedule)
    (closes : depot.closes = origin.closes) :
    Returned origin outcome next := by
  have failure := Depot.closeFailure?_of_closes schedule closes
  cases outcome with
  | ok _ => rwa [Returned, closes, failure] at returned
  | error _ => rwa [Returned, closes, failure] at returned

end Returned

theorem returned_of_closed
    {depot : Depot}
    (closed : depot.closed = true)
    (client : Nat) :
    Yields (do
      Reference.closeClient Store.closeWithin client
      pure true) depot (Returned depot) := by
  by_cases closable : depot.closable = true
  next =>
    have ended := closeClient_of_closed closed closable client
    rw [Depot.closing] at ended
    cases known : depot.closeFailure? with
    | none =>
      rw [known] at ended
      refine ended.bind (fun _ _ told => .inr ⟨told.2, known⟩) (fun _ _ told => ?_)
      cases told.1
    | some failure =>
      rw [known] at ended
      refine ended.bind (fun _ _ told => ?_) (fun _ _ told => ?_)
      · cases told.1
      · cases told.1
        exact ⟨told.2, known⟩
  next =>
    have untold : Reference.closeClient Store.closeWithin client depot =
        log "debug" "backend_client_closed" [] depot := by
      rw [Reference.closeClient, Reference.endClient, run_bind]
      simp [run_bind, closable]
    rw [Yields, run_bind, untold]
    exact .inl rfl

theorem Lent.returned
    {origin depot : Depot}
    {borrowers : Nat}
    (lent : Lent origin (borrowers + 1) depot) :
    Yields (Reference.release origin.references.length) depot (Returned origin) := by
  have closes := lent.closes (.inr (Nat.succ_pos borrowers))
  obtain ⟨life, follows, counted, _⟩ := lent
  cases made : life.client with
  | none =>
    have idle := follows.idle made
    omega
  | some client =>
    have last := Depot.holders_last (follows.made_last made)
    let left := (if life.closed then 0 else 1) + borrowers
    have held : depot.holders origin.references.length = left + 1 := by
      simp only [last, ClientLife.holders, counted, left]
      omega
    let given := (depot.setHolders origin.references.length left).recorded
      (.returned origin.references.length left)
    have same : given.closes = depot.closes := by
      simp [given, Depot.closes, Depot.recorded, Depot.setHolders, Journal.record,
        Journal.callCount, Event.isCall]
    simp only [Yields, Reference.release, Reference.releaseThrough, run_bind_ok _ (run_get depot),
      held, run_bind_ok _ (run_set _ depot), run_bind_ok _ (run_record _ _)]
    by_cases unheld : left = 0
    next =>
      rw [if_pos unheld]
      have closed : life.closed = true := by
        cases closed : life.closed with
        | true => rfl
        | false => simp [left, closed] at unheld
      have returned := @returned_of_closed given (follows.closed.trans closed)
        (depot.clientOf origin.references.length)
      exact Returned.earlier returned follows.schedule (same.trans closes)
    next =>
      rw [if_neg unheld]
      exact .inl (same.trans closes)

def Borrows (origin : Depot) (borrowers : Nat) (depot : Depot) : Except Failure Nat -> Depot -> Prop
  | .ok reference, next => reference = origin.references.length ∧ next.closed = false ∧
      Lent origin (borrowers + 1) next ∧ Apart depot next
  | .error _, next => Lent origin borrowers next ∧ Apart depot next ∧ next.closes = depot.closes

structure GivenBack
    (origin : Depot)
    (borrowers : Nat)
    (depot : Depot)
    (given : Except Failure Bool)
    (next : Depot) : Prop where
  lent : Lent origin borrowers next
  apart : Apart depot next
  returned : Returned origin given next
  usable : next.closed = false -> next.current ≠ none
  shut : forall failure, given = .error failure -> next.closed = true

theorem opened_of_lends
    {store : Store}
    {depot : Depot}
    {reference : Nat}
    (lends : (store.acquire depot).1 = .ok reference) :
    depot.closed = false := by
  by_contra closed
  rw [Bool.not_eq_false] at closed
  rw [acquire_of_closed store closed] at lends
  cases lends

namespace Lent

variable {origin depot : Depot} {borrowers : Nat} {store : Store}

theorem closes_of_refused
    {failure : Failure}
    {next : Depot}
    (lent : Lent origin borrowers depot)
    (leavesOpen : LeavesOpen store origin.schedule)
    (refused : store.acquire depot = (.error failure, next)) :
    next.closes = depot.closes := by
  cases closed : depot.closed with
  | true =>
    rw [acquire_of_closed store closed] at refused
    cases refused
    rfl
  | false =>
    have before := lent.closes (.inl closed)
    obtain ⟨life, follows, counted, ended⟩ := lent
    have opened : life.closed = false := follows.closed.symm.trans closed
    cases made : life.client with
    | some client =>
      obtain ⟨_, acquired, _⟩ := follows.acquire_made store made opened
      cases acquired.symm.trans refused
    | none =>
      have opening := follows.acquire_unmade leavesOpen made opened
      cases ran : store.makeClient depot with
      | mk outcome left =>
        rw [ran] at opening
        cases outcome with
        | ok client =>
          obtain ⟨_, acquired, _⟩ := opening
          cases acquired.symm.trans refused
        | error _ =>
          obtain ⟨failed, kept⟩ := opening
          cases failed.symm.trans refused
          have lentNext : Lent origin borrowers next := ⟨life, kept, counted, ended⟩
          exact (lentNext.closes (.inl (kept.closed.trans opened))).trans before.symm

theorem borrows
    (lent : Lent origin borrowers depot)
    (leavesOpen : LeavesOpen store origin.schedule) :
    Yields store.acquire depot (Borrows origin borrowers depot) := by
  have acquired := acquire_acquired lent leavesOpen
  have apart : Apart depot (store.acquire depot).2 :=
    Detached.apart (fun detached => detached.acquire store) depot
  rw [Yields] at acquired ⊢
  cases ran : store.acquire depot with
  | mk outcome next =>
    rw [ran] at acquired apart
    cases outcome with
    | ok reference => exact ⟨acquired.1, acquired.2.2.1, acquired.2.1, apart⟩
    | error failure => exact ⟨acquired.1, apart, lent.closes_of_refused leavesOpen ran⟩

theorem givesBack (lent : Lent origin (borrowers + 1) depot) :
    Yields (Reference.release origin.references.length) depot
      (GivenBack origin borrowers depot) := by
  have released := release_released lent
  have apart : Apart depot (Reference.release origin.references.length depot).2 :=
    Detached.apart (fun detached => detached.release origin.references.length) depot
  have returned := lent.returned
  rw [Yields] at released returned ⊢
  cases ran : Reference.release origin.references.length depot with
  | mk given next =>
    rw [ran] at released returned apart
    cases given with
    | ok last =>
      exact ⟨released.1, apart, returned, released.2.2, fun _ impossible => by cases impossible⟩
    | error failure =>
      have closed : next.closed = true := released.2.2
      have usable : next.closed = false -> next.current ≠ none := by
        intro opened
        cases closed.symm.trans opened
      exact ⟨released.1, apart, returned, usable, fun _ _ => closed⟩

theorem acquire_logs
    {journal : Journal}
    (lent : Lent origin borrowers depot)
    (leavesOpen : LeavesOpen store origin.schedule)
    (events : journal.events = depot.journal.events) :
    (store.acquire { depot with journal := journal }).1 = (store.acquire depot).1 := by
  obtain ⟨life, follows, _⟩ := lent
  have logged := follows.logs journal events
  cases closed : life.closed with
  | true =>
    rw [acquire_of_closed store (follows.closed.trans closed),
      acquire_of_closed store (logged.closed.trans closed)]
  | false =>
    cases made : life.client with
    | some client =>
      obtain ⟨_, acquired, _⟩ := follows.acquire_made store made closed
      obtain ⟨_, acquiredLogged, _⟩ := logged.acquire_made store made closed
      rw [acquired, acquiredLogged]
    | none =>
      have same := Store.makeClient_logs (follows.schedule.symm ▸ leavesOpen) events
      have opening := follows.acquire_unmade leavesOpen made closed
      have openingLogged := logged.acquire_unmade leavesOpen made closed
      cases makes : store.makeClient depot with
      | mk outcome left =>
        cases makesLogged : store.makeClient { depot with journal := journal } with
        | mk outcomeLogged leftLogged =>
          rw [makes, makesLogged] at same
          cases same
          rw [makes] at opening
          rw [makesLogged] at openingLogged
          cases outcome with
          | ok client =>
            obtain ⟨_, acquired, _⟩ := opening
            obtain ⟨_, acquiredLogged, _⟩ := openingLogged
            rw [acquired, acquiredLogged]
          | error failure => rw [opening.1, openingLogged.1]

end Lent

/-- How borrowed work ends: the client cannot be had, or it is given back after the work.  A client
that cannot be closed then takes the place of what the work came to. -/
inductive Loaned
    {α : Type}
    (store : Store)
    (origin : Depot)
    (borrowers : Nat)
    (depot : Depot)
    (expected : Except Failure α -> Depot -> Prop) : Except Failure α -> Depot -> Prop
  | refused (failure : Failure) (next : Depot) (cannot : (store.acquire depot).1 = .error failure)
      (lent : Lent origin borrowers next) (apart : Apart depot next)
      (closes : next.closes = depot.closes) :
      Loaned store origin borrowers depot expected (.error failure) next
  | returned (outcome : Except Failure α) (given : Except Failure Bool) (left next : Depot)
      (lends : (store.acquire depot).1 = .ok origin.references.length)
      (worked : expected outcome left) (back : GivenBack origin borrowers left given next) :
      Loaned store origin borrowers depot expected (given.bind (fun _ => outcome)) next

theorem Lent.borrowing
    {α : Type}
    {origin depot : Depot}
    {borrowers : Nat}
    {store : Store}
    {work : Action α}
    {expected : Except Failure α -> Depot -> Prop}
    (lent : Lent origin borrowers depot)
    (leavesOpen : LeavesOpen store origin.schedule)
    (works : forall middle, Apart depot middle -> Lent origin (borrowers + 1) middle ->
      Yields work middle (fun outcome left =>
        Lent origin (borrowers + 1) left ∧ expected outcome left)) :
    Yields (store.borrowing work) depot (Loaned store origin borrowers depot expected) := by
  have lends : Yields store.acquire depot (fun outcome next =>
      Borrows origin borrowers depot outcome next ∧ (store.acquire depot).1 = outcome) :=
    ⟨lent.borrows leavesOpen, rfl⟩
  refine lends.bind (fun reference middle borrowed => ?_) (fun failure next refused => ?_)
  · obtain ⟨⟨rfl, _, lentMiddle, apart⟩, lends⟩ := borrowed
    refine (works middle apart lentMiddle).attempt_bind (fun outcome left worked => ?_)
    refine worked.1.givesBack.bind (fun last next back => ?_) (fun failure next back => ?_)
    · rw [Yields, run_settle]
      exact .returned outcome (.ok last) left next lends worked.2 back
    · exact .returned outcome (.error failure) left next lends worked.2 back
  · obtain ⟨⟨lentNext, apart, closes⟩, cannot⟩ := refused
    exact .refused failure next cannot lentNext apart closes

end BlobDepot
