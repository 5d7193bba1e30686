import BlobDepot.Proofs.Exchange
import BlobDepot.Proofs.Lifecycle

set_option autoImplicit false

namespace BlobDepot

open BlobDepot.Action

/-- The store is closed in the middle of a call, unless the call ends before. -/
def closesMidway : List Disruption -> Bool
  | [] => false
  | disruption :: rest =>
      disruption.closesStore || disruption.outcome.isNone && closesMidway rest

def RejectedFirst (disruptions : List Disruption) (outcome : Except Failure Answer) : Prop :=
  disruptions.any Disruption.effectFirst = true ∧
    exists rejection, outcome = .error (.of (.rejected rejection))

inductive Midway
    (disruptions : List Disruption)
    (closed : Bool)
    (borrowers : Nat)
    (outcome : Except Failure Answer) : List Event -> Prop
  | nothing
      (told : closesMidway disruptions = true -> closed = false ->
        RejectedFirst disruptions outcome) :
      Midway disruptions closed borrowers outcome []
  | closing
      (told : closesMidway disruptions = true)
      (opened : closed = false) :
      Midway disruptions closed borrowers outcome [.storeClosed (some borrowers)]

section Midway

variable {disruption : Disruption} {rest : List Disruption} {closed : Bool} {borrowers : Nat}
variable {outcome : Except Failure Answer} {events : List Event}

theorem Midway.skipped
    (midway : Midway rest closed borrowers outcome events)
    (leaves : disruption.closesStore = false)
    (unsettled : disruption.outcome = none) :
    Midway (disruption :: rest) closed borrowers outcome events := by
  have same : closesMidway (disruption :: rest) = closesMidway rest := by
    simp [closesMidway, leaves, unsettled]
  cases midway with
  | nothing told =>
    refine .nothing (fun tells isOpen => ?_)
    obtain ⟨first, rejected⟩ := told (same.symm.trans tells) isOpen
    exact ⟨by simp [first], rejected⟩
  | closing told isOpen => exact .closing (same.trans told) isOpen

theorem Midway.settled
    (leaves : disruption.closesStore = false)
    (settled : disruption.outcome ≠ none) :
    Midway (disruption :: rest) closed borrowers outcome [] := by
  have untold : closesMidway (disruption :: rest) = false := by
    simp [closesMidway, leaves, settled]
  exact .nothing (fun told => by simp [untold] at told)

end Midway

theorem disrupted_of_closed
    {depot : Depot}
    (closed : depot.closed = true)
    (request : Request)
    (disruptions : List Disruption) :
    (disrupted Store.close (serve request) pure disruptions depot).2.journal.history =
      depot.journal.history := by
  let kept (left : Depot) : Prop :=
    left.closed = true ∧ left.journal.history = depot.journal.history
  have again : Keeps kept Store.close := by
    intro left holds
    rw [Store.close, closeThrough_of_closed _ holds.1]
    exact holds
  have keeps : Keeps kept (disrupted Store.close (serve request) pure disruptions) :=
    keeps_disrupted (fun _ _ _ => again) (fun _ holds => holds) keeps_pure
  exact (keeps depot ⟨closed, rfl⟩).2

namespace Disruption

def closing (disruption : Disruption) (shut : Action Unit) (rest : Action Answer) :
    Action Answer :=
  if disruption.closesStore then shut >>= fun _ => rest else rest

def settling (disruption : Disruption) (rest : Action Answer) : Action Answer :=
  match disruption.outcome with
  | some (.ok answer) => pure answer
  | some (.error failure) => throw failure
  | none => rest

end Disruption

theorem disrupted_cons (request : Request) (disruption : Disruption) (rest : List Disruption) :
    disrupted Store.close (serve request) pure (disruption :: rest) =
      let goesOn := disruption.closing Store.close
        (disruption.settling (disrupted Store.close (serve request) pure rest))
      if disruption.effectFirst then serve request >>= fun _ => goesOn else goesOn :=
  rfl

theorem serve_rejects (request : Request) (depot : Depot) :
    Yields (serve request) depot (fun outcome next =>
      next = { depot with service := next.service } ∧
        forall failure, outcome = .error failure ->
          exists rejection, failure = .of (.rejected rejection)) := by
  refine ⟨rfl, fun failure failed => ?_⟩
  simp only [serve] at failed
  cases answered : (depot.service.perform request).1 with
  | ok answer => simp [answered, Except.mapError] at failed
  | error rejection =>
    simp only [answered, Except.mapError, Except.error.injEq] at failed
    exact ⟨rejection, failed.symm⟩

namespace Lent

variable {origin depot : Depot} {others : Nat}

theorem served (lent : Lent origin others depot) (service : Service) :
    Lent origin others { depot with service := service } := by
  obtain ⟨life, follows, counted, ended⟩ := lent
  exact ⟨life, { follows with }, counted, ended⟩

theorem closing_midway
    {rest : Action Answer}
    {later : List Disruption}
    (lent : Lent origin (others + 1) depot)
    (opened : depot.closed = false)
    (disruption : Disruption)
    (restQuiet : forall shut : Depot, shut.closed = true ->
      (rest shut).2.journal.history = shut.journal.history)
    (restYields : Yields rest depot (fun outcome next =>
      exists events, next.journal.history = depot.journal.history ++ events ∧
        Midway later false (others + 1) outcome events)) :
    Yields (disruption.closing Store.close (disruption.settling rest)) depot (fun outcome next =>
      exists events, next.journal.history = depot.journal.history ++ events ∧
        Midway (disruption :: later) false (others + 1) outcome events) := by
  rw [Disruption.closing]
  cases closes : disruption.closesStore with
  | true =>
    obtain ⟨shut, ran, closed, _, history⟩ := lent.close_recorded opened
    have ends : (disruption.settling rest shut).2.journal.history = shut.journal.history := by
      rw [Disruption.settling]
      cases disruption.outcome with
      | none => exact restQuiet shut closed
      | some outcome => cases outcome <;> rfl
    rw [if_pos rfl, Yields, run_bind_ok _ ran]
    exact ⟨_, ends.trans history, .closing (by simp [closesMidway, closes]) rfl⟩
  | false =>
    simp only [Bool.false_eq_true, if_false, Disruption.settling]
    cases ended : disruption.outcome with
    | none =>
      refine restYields.mono (fun outcome next done => ?_)
      obtain ⟨events, history, midway⟩ := done
      exact ⟨events, history, midway.skipped closes ended⟩
    | some outcome =>
      have settled : disruption.outcome ≠ none := by simp [ended]
      cases outcome <;> exact ⟨[], (List.append_nil _).symm, .settled closes settled⟩

theorem disrupted_midway
    (lent : Lent origin (others + 1) depot)
    (opened : depot.closed = false)
    (request : Request)
    (disruptions : List Disruption) :
    Yields (disrupted Store.close (serve request) pure disruptions) depot (fun outcome next =>
      exists events, next.journal.history = depot.journal.history ++ events ∧
        Midway disruptions false (others + 1) outcome events) := by
  induction disruptions generalizing depot with
  | nil => exact ⟨[], (List.append_nil _).symm, .nothing (fun told => by cases told)⟩
  | cons disruption rest ih =>
    have goesOn (middle : Depot) (lent : Lent origin (others + 1) middle)
        (opened : middle.closed = false) :=
      lent.closing_midway opened disruption
        (fun _ closed => disrupted_of_closed closed request rest) (ih lent opened)
    rw [disrupted_cons]
    cases first : disruption.effectFirst with
    | false => exact goesOn depot lent opened
    | true =>
      rw [if_pos rfl]
      refine (serve_rejects request depot).bind (fun _ middle same => ?_)
        (fun failure middle same => ?_)
      · rw [same.1]
        exact goesOn _ (lent.served _) opened
      · obtain ⟨rejection, isRejection⟩ := same.2 failure rfl
        rw [same.1, isRejection]
        exact ⟨[], (List.append_nil _).symm,
          .nothing (fun _ _ => ⟨by simp [first], rejection, rfl⟩)⟩

end Lent

theorem call_request (request : Request) (depot : Depot) :
    call Store.close (.request request) (serve request) pure depot =
      disrupted Store.close (serve request) pure
        (depot.schedule.disruptions request.method (depot.journal.callCount request.method + 1))
        (depot.recorded (.called (.request request))) := by
  have number : (depot.recorded (.called (.request request))).journal.callCount request.method =
      depot.journal.callCount request.method + 1 := by
    simp [Depot.recorded, Journal.record, Journal.callCount, Event.isCall, Call.method]
  rw [<- number]
  rfl

structure Dealing (others : Nat) (request : Request) (depot next : Depot) : Prop where
  source : next.source = depot.source
  history : exists midway outcome,
    next.journal.history = depot.journal.history ++
      (.called (.request request) :: midway ++ [.answered request outcome]) ∧
    Midway
      (depot.schedule.disruptions request.method (depot.journal.callCount request.method + 1))
      depot.closed (others + 1) outcome midway

structure Reading (others : Nat) (size : Int) (depot next : Depot) : Prop where
  events : next.source.events = depot.source.events
  reads : next.source.reads = depot.source.reads + 1
  history : exists outcome,
    next.journal.history = depot.journal.history ++
      ((if depot.source.nextEvent.closesStore && !depot.closed
        then [.storeClosed (some (others + 1))] else []) ++ [.read size outcome])

structure Pause (depot next : Depot) : Prop where
  source : next.source = depot.source
  history : exists events, next.journal.history = depot.journal.history ++ events ∧
    forall event, event ∈ events -> event.isWork = false ∧ event.isStoreClosed = false

namespace Lent

variable {origin depot : Depot} {others : Nat}

theorem send_dealing (lent : Lent origin (others + 1) depot) (request : Request) :
    Dealing others request depot (send request depot).2 := by
  let asked := depot.recorded (.called (.request request))
  have lentAsked : Lent origin (others + 1) asked := by
    obtain ⟨life, follows, counted, ended⟩ := lent
    exact ⟨life, follows.record (by simp [ClientLife.Allows, counted]) rfl, counted, ended⟩
  have called : Yields (call Store.close (.request request) (serve request) pure) depot
      (fun outcome next => exists midway,
        next.journal.history = asked.journal.history ++ midway ∧
          Midway (depot.schedule.disruptions request.method
            (depot.journal.callCount request.method + 1)) depot.closed (others + 1) outcome
            midway) := by
    rw [Yields, call_request]
    cases closed : depot.closed with
    | false => exact lentAsked.disrupted_midway closed request _
    | true =>
      have closedAsked : asked.closed = true := closed
      exact ⟨[], (disrupted_of_closed closedAsked request _).trans (List.append_nil _).symm,
        .nothing (fun _ opened => by cases opened)⟩
  obtain ⟨midway, history, between⟩ := called
  refine ⟨(send_sent request depot).source, midway, _, ?_, between⟩
  simp only [send, run_bind, run_attempt, run_record, run_settle, Depot.history_recorded, history,
    asked, List.append_assoc, List.cons_append, List.nil_append]

theorem readSource_reading (lent : Lent origin (others + 1) depot) (size : Int) :
    Reading others size depot (Client.readSource size depot).2 := by
  have reads (middle : Depot) (same : middle.source = depot.source) :
      let read := middle.source.read size
      let next := Depot.recorded { middle with source := read.2 } (.read size read.1)
      next.source.events = depot.source.events ∧ next.source.reads = depot.source.reads + 1 ∧
        next.journal.history = middle.journal.history ++ [.read size read.1] := by
    refine ⟨?_, ?_, Depot.history_recorded _ _⟩
    · rw [Depot.source_recorded, Source.events_read, same]
    · rw [Depot.source_recorded, Source.reads_read, same]
  simp only [Client.readSource, run_bind_ok _ (run_get depot)]
  cases told : depot.source.nextEvent.closesStore with
  | false =>
    obtain ⟨events, counted, history⟩ := reads depot rfl
    simp only [Bool.false_eq_true, if_false, run_bind, run_get, run_set, run_record, run_settle]
    exact ⟨events, counted, _, by simpa [told] using history⟩
  | true =>
    cases closed : depot.closed with
    | true =>
      have same : Store.close depot = (.ok (), depot) := closeThrough_of_closed _ closed
      obtain ⟨events, counted, history⟩ := reads depot rfl
      simp only [if_true, same, run_bind, run_get, run_set, run_record, run_settle]
      exact ⟨events, counted, _, by simpa [closed] using history⟩
    | false =>
      obtain ⟨shut, ran, _, same, shutHistory⟩ := lent.close_recorded closed
      obtain ⟨events, counted, history⟩ := reads shut same
      simp only [if_true, ran, run_bind, run_get, run_set, run_record, run_settle]
      rw [shutHistory, List.append_assoc] at history
      exact ⟨events, counted, _, by simpa [told, closed] using history⟩

end Lent

theorem ClientLife.closed_of_lawful
    {closable : Bool}
    {life : ClientLife}
    {events : List Event}
    (lawful : Lawful closable life events)
    (closed : life.closed = true) :
    forall event, event ∈ events -> event.isStoreClosed = false := by
  induction events generalizing life with
  | nil => simp
  | cons first rest ih =>
    obtain ⟨allowed, lawfulRest⟩ := lawful
    have stays : (life.after first).closed = true := by
      cases first with
      | called call => cases call <;> exact closed
      | storeClosed holders => rfl
      | _ => exact closed
    have later := ih lawfulRest stays
    intro event listed
    cases listed with
    | head =>
      cases first with
      | storeClosed holders => simp [Allows, closed] at allowed
      | _ => rfl
    | tail _ inRest => exact later event inRest

theorem Detached.aside
    {α : Type}
    {work : Action α}
    {depot : Depot}
    {events : List Event}
    (keeps : forall {kept : Depot -> Prop}, Detached kept -> Keeps kept work)
    (history : (work depot).2.journal.history = depot.journal.history ++ events) :
    forall event, event ∈ events -> event.isWork = false := by
  have trace : (work depot).2.trace = depot.trace := keeps (detached_trace depot.trace) depot rfl
  rw [Depot.trace, history, List.filter_append] at trace
  have aside : events.filter Event.isWork = [] := List.append_right_eq_self.mp trace
  exact fun event listed => Bool.eq_false_iff.mpr (List.filter_eq_nil_iff.mp aside event listed)

namespace Lent

variable {origin depot next : Depot} {before borrowers : Nat}

theorem not_closed_since
    (lentBefore : Lent origin before depot)
    (lent : Lent origin borrowers next)
    {events : List Event}
    (history : next.journal.history = depot.journal.history ++ events)
    (settled : next.closed = depot.closed) :
    forall event, event ∈ events -> event.isStoreClosed = false := by
  cases closed : depot.closed with
  | false =>
    have since := lentBefore.closed_since lent history
    rw [settled, closed, Bool.false_or] at since
    exact fun event listed => Bool.eq_false_iff.mpr (List.any_eq_false.mp since.symm event listed)
  | true =>
    obtain ⟨life, follows, _⟩ := lentBefore
    obtain ⟨_, followsNext, _⟩ := lent
    obtain ⟨earlier, earlierHistory, _, told⟩ := follows.recorded
    obtain ⟨all, allHistory, lawful, _⟩ := followsNext.recorded
    have parts : all = earlier ++ events := by
      rw [history, earlierHistory, List.append_assoc] at allHistory
      exact (List.append_cancel_left allHistory).symm
    rw [parts] at lawful
    refine ClientLife.closed_of_lawful (ClientLife.lawful_append.mp lawful).2 ?_
    exact (congrArg ClientLife.closed told).trans (follows.closed.symm.trans closed)

theorem pause
    {α : Type}
    {work : Action α}
    (keeps : forall {kept : Depot -> Prop}, Detached kept -> Keeps kept work)
    (lentBefore : Lent origin before depot)
    (lent : Lent origin borrowers (work depot).2)
    (settled : (work depot).2.closed = depot.closed) :
    Pause depot (work depot).2 := by
  have idle := Detached.idle keeps depot
  obtain ⟨events, history⟩ := idle.grown
  exact ⟨idle.source, events, history, fun event listed =>
    ⟨Detached.aside keeps history event listed,
      lentBefore.not_closed_since lent history settled event listed⟩⟩

theorem acquire_closed
    (lent : Lent origin borrowers depot)
    {store : Store}
    (leavesOpen : LeavesOpen store origin.schedule) :
    (store.acquire depot).2.closed = depot.closed := by
  cases closed : depot.closed with
  | true =>
    rw [acquire_of_closed store closed]
    exact closed
  | false =>
    obtain ⟨life, follows, _⟩ := lent
    have opened : life.closed = false := follows.closed.symm.trans closed
    cases made : life.client with
    | some client =>
      obtain ⟨next, acquired, _, isOpen⟩ := follows.acquire_made store made opened
      rw [acquired]
      exact isOpen
    | none =>
      have opening := follows.acquire_unmade leavesOpen made opened
      cases ran : store.makeClient depot with
      | mk outcome left =>
        rw [ran] at opening
        cases outcome with
        | error failure =>
          obtain ⟨failed, kept⟩ := opening
          rw [failed]
          exact kept.closed.trans opened
        | ok client =>
          obtain ⟨next, acquired, _, isOpen⟩ := opening
          rw [acquired]
          exact isOpen

theorem release_closed (lent : Lent origin (borrowers + 1) depot) :
    (Reference.release origin.references.length depot).2.closed = depot.closed := by
  cases closed : depot.closed with
  | true => exact aloof_closed.release _ depot closed
  | false =>
    obtain ⟨next, released, current⟩ := lent.release_of_open closed
    have left := lent.release
    rw [released] at left ⊢
    obtain ⟨life, follows, _⟩ := left
    -- Only an open store has a client of its own.
    cases isOpen : life.closed with
    | false => exact follows.closed.trans isOpen
    | true =>
      have none : next.current = none := follows.current.trans (by simp [isOpen])
      simp [none] at current

end Lent

structure Carried (origin : Depot) (kept : Depot -> Prop) : Prop where
  pauses : forall depot next, Pause depot next -> kept depot -> kept next
  sends : forall others request depot next, Lent origin (others + 1) depot ->
    Dealing others request depot next -> kept depot -> kept next
  reads : forall others size depot next, Lent origin (others + 1) depot ->
    Reading others size depot next -> kept depot -> kept next

namespace Carried

variable {origin : Depot} {kept : Depot -> Prop}

theorem logs
    (carried : Carried origin kept)
    (depot : Depot)
    (journal : Journal)
    (events : journal.events = depot.journal.events)
    (holds : kept depot) :
    kept { depot with journal := journal } := by
  refine carried.pauses depot _ ⟨rfl, [], ?_, fun _ listed => by cases listed⟩ holds
  simp only [Journal.history, events, List.append_nil]

theorem lasting (carried : Carried origin kept) (others : Nat) :
    Lasting (fun _ => True) (fun depot => Lent origin (others + 1) depot ∧ kept depot) where
  logs depot journal events holds :=
    ⟨holds.1.logs events, carried.logs depot journal events holds.2⟩
  reads size depot holds :=
    ⟨(Lent.lasting origin others).reads size depot holds.1,
      carried.reads others size depot _ holds.1 (holds.1.readSource_reading size) holds.2⟩
  sends request ofSort depot holds :=
    ⟨(Lent.lasting origin others).sends request ofSort depot holds.1,
      carried.sends others request depot _ holds.1 (holds.1.send_dealing request) holds.2⟩

theorem lending
    (carried : Carried origin kept)
    {store : Store}
    (leavesOpen : LeavesOpen store origin.schedule)
    (borrowers : Nat) :
    Lending store (fun depot => Lent origin borrowers depot ∧ kept depot)
      (fun reference depot => reference = origin.references.length ∧
        Lent origin (borrowers + 1) depot ∧ kept depot) where
  logs depot journal events holds :=
    ⟨holds.1.logs events, carried.logs depot journal events holds.2⟩
  acquires depot holds := by
    have acquired := holds.1.acquire leavesOpen
    have settled := holds.1.acquire_closed leavesOpen
    have rests (lent : exists left, Lent origin left (store.acquire depot).2) :
        kept (store.acquire depot).2 := by
      obtain ⟨left, lent⟩ := lent
      exact carried.pauses _ _
        (Lent.pause (fun detached => detached.acquire store) holds.1 lent settled) holds.2
    cases ran : store.acquire depot with
    | mk outcome next =>
      rw [ran] at acquired rests
      cases outcome with
      | ok reference => exact ⟨acquired.1, acquired.2.1, rests ⟨_, acquired.2.1⟩⟩
      | error failure => exact ⟨acquired, rests ⟨_, acquired⟩⟩
  releases reference depot holds := by
    obtain ⟨rfl, lent, holds⟩ := holds
    exact ⟨lent.release, carried.pauses _ _ (Lent.pause (fun detached => detached.release _) lent
      lent.release lent.release_closed) holds⟩

theorem writeBlob
    (carried : Carried origin kept)
    {container : Container}
    (leavesOpen : LeavesOpen container.store origin.schedule)
    (borrowers : Nat)
    (name : String)
    (size : Int)
    (failIfExists : Bool) :
    Keeps (fun depot => Lent origin borrowers depot ∧ kept depot)
      (container.writeBlob name size failIfExists) :=
  (carried.lending leavesOpen borrowers).writeBlob (fun _ => (carried.lasting borrowers).given)
    name size failIfExists

theorem operate
    (carried : Carried origin kept)
    (container : Container)
    (leavesOpen : LeavesOpen container.store origin.schedule)
    (borrowers : Nat)
    (sources : forall depot source, kept depot -> kept { depot with source := source })
    (operation : Operation) :
    Keeps (fun depot => Lent origin borrowers depot ∧ kept depot) (operation.run container) :=
  (carried.lending leavesOpen borrowers).operate (fun _ => (carried.lasting borrowers).given)
    (fun depot source holds => ⟨holds.1.sourced source, sources depot source holds.2⟩) operation

end Carried

end BlobDepot
