import BlobDepot.Proofs.Changes
import BlobDepot.Proofs.ClosedStore
import BlobDepot.Proofs.Closings
import BlobDepot.Proofs.Tenancy

set_option autoImplicit false

namespace BlobDepot

open BlobDepot.Action

/-- Something holds of every event, with what came before it and what comes later. -/
def Along
    (holds : List Event -> Event -> List Event -> Prop)
    (before : List Event) : List Event -> Prop
  | [] => True
  | event :: later => holds before event later ∧ Along holds (before ++ [event]) later

section Along

variable {holds : List Event -> Event -> List Event -> Prop}

theorem Along.at_place
    {before between later : List Event}
    {event : Event}
    (along : Along holds before (between ++ event :: later)) :
    holds (before ++ between) event later := by
  induction between generalizing before with
  | nil =>
    rw [List.append_nil]
    exact along.1
  | cons first rest ih =>
    have further := ih along.2
    rwa [List.append_assoc] at further

theorem Along.append
    (lasts : forall before event later more, holds before event later ->
      holds before event (later ++ more))
    {before events more : List Event}
    (along : Along holds before events)
    (new : Along holds (before ++ events) more) :
    Along holds before (events ++ more) := by
  induction events generalizing before with
  | nil => rwa [List.append_nil] at new
  | cons first rest ih =>
    refine ⟨lasts _ _ _ _ along.1, ih along.2 ?_⟩
    rwa [List.append_assoc]

theorem along_of_forall
    {before events : List Event}
    (all : forall earlier event later, event ∈ events -> holds earlier event later) :
    Along holds before events := by
  induction events generalizing before with
  | nil => trivial
  | cons first rest ih =>
    exact ⟨all _ _ _ List.mem_cons_self,
      ih (fun _ _ _ listed => all _ _ _ (List.mem_cons_of_mem _ listed))⟩

end Along

theorem Depot.callCount_grown
    {depot next : Depot}
    {events : List Event}
    (history : next.journal.history = depot.journal.history ++ events)
    (method : Method) :
    next.journal.callCount method =
      depot.journal.callCount method + events.countP (fun event => event.isCall method) := by
  have counted (journal : Journal) :
      journal.callCount method = journal.history.countP (fun event => event.isCall method) := by
    rw [Journal.callCount, Journal.history, List.countP_reverse]
  rw [counted, counted, history, List.countP_append]

def Depot.disruptions
    (origin : Depot)
    (before : List Event)
    (request : Request) : List Disruption :=
  origin.schedule.disruptions request.method
    (origin.journal.callCount request.method
      + before.countP (fun event => event.isCall request.method) + 1)

/-- The store is closed at once in the middle of a request where the schedule has it, unless it is
closed already or the request ends before; it is closed nowhere else but at reads and by steps of
the run. -/
def ClosesAsTold
    (origin : Depot)
    (byStep : Prop)
    (before : List Event)
    (event : Event)
    (later : List Event) : Prop :=
  match event with
  | .called (.request request) =>
      closesMidway (origin.disruptions before request) = true ->
        before.any Event.isStoreClosed = true ∨
        (exists holders rest, later = .storeClosed holders :: rest) ∨
        exists outcome rest, later = .answered request outcome :: rest ∧
          RejectedFirst (origin.disruptions before request) outcome
  | .storeClosed _ =>
      byStep ∨
        (exists earlier request, before = earlier ++ [.called (.request request)] ∧
          closesMidway (origin.disruptions earlier request) = true) ∨
        exists size outcome rest, later = .read size outcome :: rest
  | _ => True

theorem Lent.disruptions_since
    {origin depot : Depot}
    {borrowers : Nat}
    {events : List Event}
    (lent : Lent origin borrowers depot)
    (history : depot.journal.history = origin.journal.history ++ events)
    (request : Request) :
    origin.disruptions events request =
      depot.schedule.disruptions request.method (depot.journal.callCount request.method + 1) := by
  rw [Depot.disruptions, lent.sameSchedule, Depot.callCount_grown history]

theorem Lent.closed_told
    {origin depot : Depot}
    {borrowers : Nat}
    {events : List Event}
    (lent : Lent origin borrowers depot)
    (history : depot.journal.history = origin.journal.history ++ events) :
    depot.closed = events.any Event.isStoreClosed := by
  obtain ⟨_, follows, _⟩ := lent
  obtain ⟨all, allHistory, _, told⟩ := follows.recorded
  have same : all = events := List.append_cancel_left (allHistory.symm.trans history)
  rw [follows.closed, <- told, ClientLife.told_closed, same]

def Event.isRead : Event -> Bool
  | .read .. => true
  | _ => false

/-- The store is closed before a read where the stream has it, unless it is closed already; an
operation that reads the stream closes the store there and in the middle of requests only. -/
def ClosesAtReads
    (source : Source)
    (closed : Bool)
    (before : List Event)
    (event : Event)
    (later : List Event) : Prop :=
  let told := (source.events (source.reads + before.countP Event.isRead + 1)).closesStore
  match event with
  | .read .. => told = true -> closed = true ∨ before.any Event.isStoreClosed = true
  | .storeClosed _ =>
      (exists size outcome rest, later = .read size outcome :: rest ∧ told = true) ∨
        exists request outcome rest, later = .answered request outcome :: rest
  | _ => True

theorem Event.isRead_of_aside {event : Event} (aside : event.isWork = false) :
    event.isRead = false := by
  cases event with
  | called call => rfl
  | read size outcome => cases aside
  | _ => rfl

def ToldSince (origin : Depot) (byStep : Prop) (depot : Depot) : Prop :=
  exists events, depot.journal.history = origin.journal.history ++ events ∧
    Along (ClosesAsTold origin byStep) [] events

section Told

variable {origin : Depot} {byStep : Prop}

theorem ClosesAsTold.lasts
    {before : List Event}
    {event : Event}
    {later : List Event}
    (told : ClosesAsTold origin byStep before event later)
    (more : List Event) :
    ClosesAsTold origin byStep before event (later ++ more) := by
  cases event with
  | called call =>
    cases call with
    | request request =>
      intro midway
      obtain earlier | ⟨holders, rest, rfl⟩ | ⟨outcome, rest, rfl, rejected⟩ := told midway
      · exact .inl earlier
      · exact .inr (.inl ⟨holders, rest ++ more, rfl⟩)
      · exact .inr (.inr ⟨outcome, rest ++ more, rfl, rejected⟩)
    | _ => trivial
  | storeClosed holders =>
    obtain byStep | midway | ⟨size, outcome, rest, rfl⟩ := told
    · exact .inl byStep
    · exact .inr (.inl midway)
    · exact .inr (.inr ⟨size, outcome, rest ++ more, rfl⟩)
  | _ => trivial

theorem ToldSince.grown
    {depot next : Depot}
    {more : List Event}
    (since : ToldSince origin byStep depot)
    (history : next.journal.history = depot.journal.history ++ more)
    (new : forall events, depot.journal.history = origin.journal.history ++ events ->
      Along (ClosesAsTold origin byStep) events more) :
    ToldSince origin byStep next := by
  obtain ⟨events, earlier, told⟩ := since
  refine ⟨events ++ more, by rw [history, earlier, List.append_assoc], ?_⟩
  exact told.append (fun _ _ _ more told => told.lasts more) (new events earlier)

theorem closesAsTold_of_quiet
    {before later : List Event}
    {event : Event}
    (aside : event.isWork = false)
    (unclosed : event.isStoreClosed = true -> byStep) :
    ClosesAsTold origin byStep before event later := by
  cases event with
  | called call =>
    cases call with
    | request request => cases aside
    | _ => trivial
  | storeClosed holders => exact .inl (unclosed rfl)
  | _ => trivial

theorem carried_told : Carried origin (ToldSince origin byStep) where
  pauses depot next pause since := by
    obtain ⟨more, history, quiet⟩ := pause.history
    refine since.grown history (fun events earlier => along_of_forall (fun _ event _ listed => ?_))
    obtain ⟨aside, unclosed⟩ := quiet event listed
    exact closesAsTold_of_quiet aside (fun closed => absurd closed (by simp [unclosed]))
  sends others request depot next lent dealing since := by
    obtain ⟨midway, outcome, history, between⟩ := dealing.history
    refine since.grown history (fun events earlier => ?_)
    have same := lent.disruptions_since earlier request
    have closed := lent.closed_told earlier
    rw [<- same, closed] at between
    cases between with
    | nothing told =>
      refine ⟨fun tells => ?_, trivial, trivial⟩
      by_cases already : events.any Event.isStoreClosed = true
      next => exact .inl already
      next =>
        exact .inr (.inr ⟨outcome, [], rfl, told tells (Bool.eq_false_iff.mpr already)⟩)
    | closing told isOpen =>
      exact ⟨fun _ => .inr (.inl ⟨_, _, rfl⟩), .inr (.inl ⟨events, request, rfl, told⟩), trivial,
        trivial⟩
  reads others size depot next lent reading since := by
    obtain ⟨outcome, history⟩ := reading.history
    refine since.grown history (fun events earlier => ?_)
    split
    next => exact ⟨.inr (.inr ⟨size, outcome, [], rfl⟩), trivial, trivial⟩
    next => exact ⟨trivial, trivial⟩

end Told

def ReadSince (start : Depot) (source : Source) (depot : Depot) : Prop :=
  exists events, depot.journal.history = start.journal.history ++ events ∧
    depot.source.events = source.events ∧
    depot.source.reads = source.reads + events.countP Event.isRead ∧
    Along (ClosesAtReads source start.closed) [] events

section Read

variable {start : Depot} {source : Source}

theorem ClosesAtReads.lasts
    {closed : Bool}
    {before : List Event}
    {event : Event}
    {later : List Event}
    (told : ClosesAtReads source closed before event later)
    (more : List Event) :
    ClosesAtReads source closed before event (later ++ more) := by
  cases event with
  | read size outcome => exact told
  | storeClosed holders =>
    obtain ⟨size, outcome, rest, rfl, tells⟩ | ⟨request, outcome, rest, rfl⟩ := told
    · exact .inl ⟨size, outcome, rest ++ more, rfl, tells⟩
    · exact .inr ⟨request, outcome, rest ++ more, rfl⟩
  | _ => trivial

theorem ReadSince.grown
    {depot next : Depot}
    {more : List Event}
    (since : ReadSince start source depot)
    (history : next.journal.history = depot.journal.history ++ more)
    (kept : next.source.events = depot.source.events)
    (reads : next.source.reads = depot.source.reads + more.countP Event.isRead)
    (new : forall events, depot.journal.history = start.journal.history ++ events ->
      depot.source.events = source.events ->
        depot.source.reads = source.reads + events.countP Event.isRead ->
          Along (ClosesAtReads source start.closed) events more) :
    ReadSince start source next := by
  obtain ⟨events, earlier, same, counted, told⟩ := since
  refine ⟨events ++ more, by rw [history, earlier, List.append_assoc], kept.trans same, ?_, ?_⟩
  · rw [reads, counted, List.countP_append, Nat.add_assoc]
  · exact told.append (fun _ _ _ more told => told.lasts more) (new events earlier same counted)

theorem carried_read
    {origin : Depot}
    {borrowers : Nat}
    (lentStart : Lent origin borrowers start) :
    Carried origin (ReadSince start source) where
  pauses depot next pause since := by
    obtain ⟨more, history, quiet⟩ := pause.history
    have unread : more.countP Event.isRead = 0 := by
      refine List.countP_eq_zero.mpr (fun event listed => ?_)
      simp [Event.isRead_of_aside (quiet event listed).1]
    refine since.grown history (by rw [pause.source]) (by rw [pause.source, unread]; rfl) ?_
    refine fun events _ _ _ => along_of_forall (fun _ event _ listed => ?_)
    obtain ⟨aside, unclosed⟩ := quiet event listed
    cases event with
    | read size outcome => cases aside
    | storeClosed holders => cases unclosed
    | _ => trivial
  sends others request depot next lent dealing since := by
    obtain ⟨midway, outcome, history, between⟩ := dealing.history
    refine since.grown history (by rw [dealing.source]) ?_ (fun events _ _ _ => ?_)
    · rw [dealing.source]
      cases between <;> rfl
    · cases between with
      | nothing _ => exact ⟨trivial, trivial, trivial⟩
      | closing _ _ => exact ⟨trivial, .inr ⟨request, outcome, [], rfl⟩, trivial, trivial⟩
  reads others size depot next lent reading since := by
    obtain ⟨outcome, history⟩ := reading.history
    refine since.grown history reading.events ?_ (fun events earlier same counted => ?_)
    · rw [reading.reads]
      split <;> rfl
    · have told : depot.source.nextEvent =
          source.events (source.reads + events.countP Event.isRead + 1) := by
        rw [Source.nextEvent, same, counted]
      have closed := lentStart.closed_since lent earlier
      split
      next closes =>
        refine ⟨.inl ⟨size, outcome, [], rfl, ?_⟩, fun _ => .inr (by simp [Event.isStoreClosed]),
          trivial⟩
        rw [told] at closes
        simpa using (Bool.and_eq_true_iff.mp closes).1
      next stays =>
        refine ⟨fun tells => ?_, trivial⟩
        rw [told, tells, Bool.true_and, closed, Bool.not_eq_true, Bool.not_eq_false'] at stays
        exact Bool.or_eq_true_iff.mp stays

end Read

def Operation.source? : Operation -> Option Source
  | .write _ source _ _ => some source
  | .writeBytes _ content _ => some (.ofBody (.bytes content))
  | _ => none

theorem Lent.operate_reads
    {origin depot : Depot}
    {borrowers : Nat}
    (lent : Lent origin borrowers depot)
    (container : Container)
    (leavesOpen : LeavesOpen container.store origin.schedule)
    {operation : Operation}
    {source : Source}
    (brings : operation.source? = some source) :
    ReadSince depot source (operation.run container depot).2 := by
  have begun : ReadSince depot source { depot with source := source } :=
    ⟨[], (List.append_nil _).symm, rfl, rfl, trivial⟩
  have writes (name : String) (size : Int) (failIfExists : Bool) :=
    (carried_read lent).writeBlob leavesOpen borrowers name size failIfExists
      { depot with source := source } ⟨lent.sourced source, begun⟩
  cases operation with
  | write name other size failIfExists =>
    cases brings
    rw [Operation.run, run_bind_ok _ (run_modify _ depot)]
    exact kept_bind (writes name size failIfExists).2 (fun _ => keeps_pure _)
  | writeBytes name content failIfExists =>
    cases brings
    have written : ReadSince depot (.ofBody (.bytes content))
        (container.writeBlobBytes name (.bytes content) failIfExists depot).2 := by
      rw [Container.writeBlobBytes, run_bind_ok _ (run_modify _ depot)]
      exact (writes name content.length failIfExists).2
    exact kept_bind written (fun _ => keeps_pure _)
  | _ => cases brings

theorem Follows.acquire_opening
    {origin depot : Depot}
    {life : ClientLife}
    (follows : Follows origin life depot)
    {store : Store}
    (leavesOpen : LeavesOpen store origin.schedule)
    (unmade : life.client = none)
    (opened : life.closed = false) :
    match store.makeClient depot with
    | (.ok _, _) => (store.acquire depot).1 = .ok origin.references.length
    | (.error failure, left) =>
        store.acquire depot = (.error failure, left) ∧
          left.closed = false ∧ left.current = none ∧ left.references = origin.references := by
  have opening := follows.acquire_unmade leavesOpen unmade opened
  cases ran : store.makeClient depot with
  | mk outcome left =>
    rw [ran] at opening
    cases outcome with
    | ok client =>
      obtain ⟨next, acquired, _⟩ := opening
      exact congrArg Prod.fst acquired
    | error failure =>
      obtain ⟨failed, kept⟩ := opening
      refine ⟨failed, kept.closed.trans opened, ?_, ?_⟩
      · simp [kept.current, unmade]
      · simpa [unmade] using kept.references

namespace Tenancy

variable {store : Store} {origin : Depot}

theorem carried_step
    {kept : Depot -> Prop}
    (carried : Carried origin kept)
    (leavesOpen : LeavesOpen store origin.schedule)
    (sources : forall depot source, kept depot -> kept { depot with source := source })
    {tenancy : Tenancy}
    (sound : Sound origin tenancy)
    {taken : StoreStep}
    (closes : taken = .close -> kept (Store.close tenancy.depot).2)
    (holds : kept tenancy.depot) :
    kept (step store tenancy taken).depot := by
  cases taken with
  | operate path operation =>
    exact (carried.operate ⟨store, path⟩ leavesOpen _ sources operation
      tenancy.depot ⟨sound.lent, holds⟩).2
  | borrow =>
    have acquired := (carried.lending leavesOpen tenancy.held.length).acquires tenancy.depot
      ⟨sound.lent, holds⟩
    simp only [step]
    cases ran : store.acquire tenancy.depot with
    | mk outcome next =>
      rw [ran] at acquired
      cases outcome with
      | ok reference => exact acquired.2.2
      | error failure => exact acquired.2
  | giveBack index =>
    simp only [step]
    cases found : tenancy.held[index]? with
    | none => exact holds
    | some reference =>
      obtain ⟨rfl, lent⟩ := sound.lent_held found
      exact ((carried.lending leavesOpen _).releases _ tenancy.depot ⟨rfl, lent, holds⟩).2
  | close => exact closes rfl

theorem told_run
    (leavesOpen : LeavesOpen store origin.schedule)
    (opened : origin.closed = false)
    (unmade : origin.current = none)
    (steps : List StoreStep) :
    ToldSince origin (StoreStep.close ∈ steps) (run store origin steps).depot := by
  -- What closes the store as a step is one of all the steps, not only of those that are left.
  suffices keeps : forall taken : List StoreStep, (forall one, one ∈ taken -> one ∈ steps) ->
      forall tenancy, Sound origin tenancy ->
        ToldSince origin (StoreStep.close ∈ steps) tenancy.depot ->
        ToldSince origin (StoreStep.close ∈ steps) (taken.foldl (step store) tenancy).depot from
    keeps steps (fun _ listed => listed) _ (sound_fresh opened unmade)
      ⟨[], (List.append_nil _).symm, trivial⟩
  intro taken
  induction taken with
  | nil => exact fun _ _ _ since => since
  | cons first rest ih =>
    intro among tenancy sound since
    have closes : first = .close ->
        ToldSince origin (StoreStep.close ∈ steps) (Store.close tenancy.depot).2 := by
      rintro rfl
      obtain ⟨more, history⟩ :=
        (Detached.idle (fun detached => detached.close) tenancy.depot).grown
      refine since.grown history (fun _ _ => along_of_forall (fun _ event _ listed => ?_))
      exact closesAsTold_of_quiet (Detached.aside (fun detached => detached.close) history event
        listed) (fun _ => among _ List.mem_cons_self)
    exact ih (fun one listed => among one (List.mem_cons_of_mem _ listed)) _
      (sound_step leavesOpen sound first)
      (carried_step carried_told leavesOpen (fun _ _ told => told) sound closes since)

theorem closed_of_close
    (store : Store)
    (origin : Depot)
    {steps : List StoreStep}
    (closes : StoreStep.close ∈ steps) :
    (run store origin steps).depot.closed = true := by
  obtain ⟨before, later, rfl⟩ := List.append_of_mem closes
  have lasting : Lasting (Request.ChangesOnly store.config.bucket (fun _ => True))
      (fun depot => depot.closed = true) :=
    lasting_closed.weaken (fun _ _ => trivial)
  rw [run, List.foldl_append, List.foldl_cons]
  exact keeps_steps aloof_closed lasting (fun _ _ closed => closed) (fun _ _ _ _ => trivial)
    (Store.closed_close _)

/-- What a run leaves behind.  The number of holders is that of the open store and of those who
hold the client directly, so operations have given back all that they took.  A client that could
not be made is made when it is next needed.  The store is closed by its steps, in the middle of
requests and at reads, and a closed store does nothing more. -/
structure Proper
    (store : Store)
    (origin : Depot)
    (steps : List StoreStep)
    (events : List Event)
    (tenancy : Tenancy) : Prop where
  history : tenancy.depot.journal.history = origin.journal.history ++ events
  life : WellLived origin.closable events
  clients : tenancy.depot.clients = origin.clients + events.countP Event.isClientMade
  closed : tenancy.depot.closed = events.any Event.isStoreClosed
  closes : StoreStep.close ∈ steps -> tenancy.depot.closed = true
  closings : forall before event later, events = before ++ event :: later ->
    ClosesAsTold origin (StoreStep.close ∈ steps) before event later
  reads : forall path operation source, operation.source? = some source ->
    exists added,
      (Operation.run ⟨store, path⟩ operation tenancy.depot).2.journal.history =
        tenancy.depot.journal.history ++ added ∧
      forall before event later, added = before ++ event :: later ->
        ClosesAtReads source tenancy.depot.closed before event later
  holders : events.any Event.isClientMade = true ->
    tenancy.depot.holders origin.references.length =
      (if tenancy.depot.closed then 0 else 1) + tenancy.held.length
  lends : tenancy.depot.closed = false -> events.any Event.isClientMade = true ->
    (store.acquire tenancy.depot).1 = .ok origin.references.length
  makes : tenancy.depot.closed = false -> events.any Event.isClientMade = false ->
    match store.makeClient tenancy.depot with
    | (.ok _, _) => (store.acquire tenancy.depot).1 = .ok origin.references.length
    | (.error failure, left) =>
        store.acquire tenancy.depot = (.error failure, left) ∧
          left.closed = false ∧ left.current = none ∧ left.references = origin.references
  lendsNone : tenancy.depot.closed = true ->
    store.acquire tenancy.depot = (.error (.of (.state .storeClosed)), tenancy.depot)
  refuses : tenancy.depot.closed = true -> forall path operation,
    let ended := Operation.run ⟨store, path⟩ operation tenancy.depot
    ended.1 = operation.refused ⟨store, path⟩ ∧
      ended.2.journal.history = tenancy.depot.journal.history

/-- The client of a store is shared properly in every run that starts from a fresh store, as long
as making a client does not close the store. -/
theorem proper_run
    (store : Store)
    (origin : Depot)
    (steps : List StoreStep)
    (leavesOpen : LeavesOpen store origin.schedule)
    (opened : origin.closed = false)
    (unmade : origin.current = none) :
    exists events, Proper store origin steps events (run store origin steps) := by
  have sound := sound_run leavesOpen opened unmade steps
  obtain ⟨events, history, along⟩ := told_run leavesOpen opened unmade steps
  obtain ⟨life, follows, counted, done⟩ := sound.lent
  obtain ⟨all, allHistory, lawful, told⟩ := follows.recorded
  obtain rfl : events = all := List.append_cancel_left (history.symm.trans allHistory)
  subst told
  have closed := follows.closed.trans (ClientLife.told_closed events)
  have made := ClientLife.told_made events
  refine ⟨events, history, ClientLife.wellLived lawful done, ?_, closed,
    fun closes => closed_of_close store origin closes, ?_, ?_, ?_, ?_, ?_,
    fun isClosed => acquire_of_closed store isClosed, ?_⟩
  · rw [follows.clients, ClientLife.clients_told lawful]
  · rintro before event later rfl
    exact along.at_place
  · intro path operation source brings
    obtain ⟨added, grown, _, _, read⟩ :=
      sound.lent.operate_reads ⟨store, path⟩ leavesOpen brings
    refine ⟨added, grown, ?_⟩
    rintro before event later rfl
    exact read.at_place
  · intro isMade
    obtain ⟨client, isClient⟩ := Option.isSome_iff_exists.mp (made.trans isMade)
    have last := Depot.holders_last (follows.made_last isClient)
    rw [last, ClientLife.holders, counted, follows.closed]
  · intro isOpen isMade
    obtain ⟨client, isClient⟩ := Option.isSome_iff_exists.mp (made.trans isMade)
    obtain ⟨next, acquired, _⟩ :=
      follows.acquire_made store isClient (follows.closed.symm.trans isOpen)
    rw [acquired]
  · intro isOpen isUnmade
    have unmade : (ClientLife.told events).client = none :=
      Option.not_isSome_iff_eq_none.mp (by rw [made, isUnmade]; exact Bool.false_ne_true)
    exact follows.acquire_opening leavesOpen unmade (follows.closed.symm.trans isOpen)
  · intro isClosed path operation
    exact operation.run_of_closed ⟨store, path⟩ isClosed

theorem proper_run_closed_midway :
    let schedule := Schedule.calm.add .headObject [1] { closesStore := true }
    let origin : Depot := { schedule := schedule }
    let steps := [StoreStep.borrow, .operate {} (.check "x"), .giveBack 0, .close]
    LeavesOpen .small schedule ∧ origin.closed = false ∧ origin.current = none ∧
      exists events, Proper .small origin steps events (run .small origin steps) := by
  intro schedule origin steps
  have leavesOpen : LeavesOpen .small schedule := (leavesOpen_calm .small).add (by decide) [1]
  exact ⟨leavesOpen, rfl, rfl, proper_run .small origin steps leavesOpen rfl rfl⟩

end Tenancy

end BlobDepot
