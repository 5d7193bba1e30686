import BlobDepot.Proofs.ClientLife
import BlobDepot.Proofs.Operations

set_option autoImplicit false

namespace BlobDepot

open BlobDepot.Action

namespace Depot

variable {depot : Depot} {before : List Reference} {last : Reference}

theorem holders_of_listed
    {reference : Nat}
    {entry : Reference}
    (listed : depot.references[reference]? = some entry) :
    depot.holders reference = entry.holders := by
  rw [holders, listed]

theorem clientOf_of_listed
    {reference : Nat}
    {entry : Reference}
    (listed : depot.references[reference]? = some entry) :
    depot.clientOf reference = entry.client := by
  rw [clientOf, listed]

theorem listed_last (references : depot.references = before ++ [last]) :
    depot.references[before.length]? = some last := by
  rw [references, List.getElem?_concat_length]

theorem holders_last (references : depot.references = before ++ [last]) :
    depot.holders before.length = last.holders :=
  holders_of_listed (listed_last references)

theorem clientOf_last (references : depot.references = before ++ [last]) :
    depot.clientOf before.length = last.client :=
  clientOf_of_listed (listed_last references)

theorem setHolders_last
    (references : depot.references = before ++ [last])
    (count : Nat) :
    (depot.setHolders before.length count).references = before ++ [⟨last.client, count⟩] := by
  have inRange : before.length < depot.references.length := by
    simp [references]
  simp only [setHolders]
  rw [List.modify_eq_take_cons_drop inRange]
  simp [references]

end Depot

/-- The events since a depot was as it was tell a life that may be, and the depot agrees with it.
The references of before do not count. -/
structure Follows (origin : Depot) (life : ClientLife) (depot : Depot) : Prop where
  recorded : exists events, depot.journal.history = origin.journal.history ++ events ∧
    ClientLife.Lawful origin.closable {} events ∧ ClientLife.told events = life
  closable : depot.closable = origin.closable
  schedule : depot.schedule = origin.schedule
  closed : depot.closed = life.closed
  clients : depot.clients = origin.clients + life.client.toList.length
  references : depot.references =
    origin.references ++ life.client.toList.map (fun client => ⟨client, life.holders⟩)
  current : depot.current =
    if life.client.isSome && !life.closed then some origin.references.length else none
  idle : life.client = none -> life.borrowers = 0
  unheld : life.ended = true -> life.holders = 0

/-- So many borrow the client, and it was told to close if nobody holds it. -/
def Lent (origin : Depot) (borrowers : Nat) (depot : Depot) : Prop :=
  exists life, Follows origin life depot ∧ life.borrowers = borrowers ∧
    (origin.closable = true -> life.due = false)

namespace Follows

variable {origin depot : Depot} {life : ClientLife}

theorem recorded_after
    (follows : Follows origin life depot)
    (event : Event)
    (allowed : life.Allows origin.closable event) :
    exists events, (depot.recorded event).journal.history = origin.journal.history ++ events ∧
      ClientLife.Lawful origin.closable {} events ∧
        ClientLife.told events = life.after event := by
  obtain ⟨events, history, lawful, told⟩ := follows.recorded
  refine ⟨events ++ [event], ?_, ?_, ?_⟩
  · rw [Depot.history_recorded, history, List.append_assoc]
  · rw [<- told] at allowed
    exact ClientLife.lawful_append.mpr ⟨lawful, allowed, trivial⟩
  · rw [ClientLife.told_append, told]

theorem record
    (follows : Follows origin life depot)
    {event : Event}
    (allowed : life.Allows origin.closable event)
    (unchanged : life.after event = life) :
    Follows origin life (depot.recorded event) := by
  have recorded := follows.recorded_after event allowed
  rw [unchanged] at recorded
  exact { follows with recorded := recorded }

theorem made_last
    (follows : Follows origin life depot)
    {client : Nat}
    (made : life.client = some client) :
    depot.references = origin.references ++ [⟨client, life.holders⟩] := by
  simp [follows.references, made]

theorem lasts (follows : Follows origin life depot) (held : 0 < life.holders) :
    life.ended = false := by
  cases ended : life.ended with
  | false => rfl
  | true =>
    have unheld := follows.unheld ended
    omega

theorem logs
    (follows : Follows origin life depot)
    (journal : Journal)
    (events : journal.events = depot.journal.events) :
    Follows origin life { depot with journal := journal } := by
  have history : journal.history = depot.journal.history := by
    simp only [Journal.history, events]
  exact { follows with recorded := by simpa only [history] using follows.recorded }

end Follows

theorem closeThrough_of_closed
    (close : Nat -> Action Unit)
    {depot : Depot}
    (closed : depot.closed = true) :
    Store.closeThrough close depot = (.ok (), depot) := by
  simp [Store.closeThrough, run_bind, closed]

theorem Follows.closeClient
    {origin depot : Depot}
    {life : ClientLife}
    (follows : Follows origin life depot)
    {client : Nat}
    (made : life.client = some client)
    (unheld : life.holders = 0)
    (lasting : life.ended = false) :
    Lent origin life.borrowers (Reference.closeClient Store.closeWithin client depot).2 := by
  have closed : life.closed = true := by
    cases closed : life.closed with
    | true => rfl
    | false => simp [ClientLife.holders, closed] at unheld
  have logged : forall life, Keeps (Follows origin life) (log "debug" "backend_client_closed" []) :=
    fun life left follows => follows.logs _ rfl
  by_cases closable : origin.closable = true
  next =>
    have due : life.due = true := by simp [ClientLife.due, made, unheld, lasting]
    have told := follows.recorded_after (.called (.close client)) ⟨closable, due, made⟩
    have recorded : Follows origin { life with ended := true }
        (depot.recorded (.called (.close client))) :=
      { follows with recorded := told, unheld := fun _ => unheld }
    -- The store is closed already, or it would hold the client itself.
    have shut : Keeps (Follows origin { life with ended := true }) Store.closeWithin := by
      intro left holds
      rw [Store.closeWithin, closeThrough_of_closed _ (holds.closed.trans closed)]
      exact holds
    have called : Follows origin { life with ended := true }
        (call Store.closeWithin (.close client) (pure ()) (fun _ => pure ()) depot).2 :=
      call_keeps recorded (fun _ _ _ _ => shut) (keeps_pure ()) (fun _ => keeps_pure ())
    refine ⟨{ life with ended := true }, ?_, rfl, fun _ => by simp [ClientLife.due]⟩
    have canClose : depot.closable = true := follows.closable.trans closable
    simp only [Reference.closeClient, Reference.endClient, run_bind, run_get, canClose, if_true]
    cases ran : call Store.closeWithin (.close client) (pure ()) (fun _ => pure ()) depot with
    | mk outcome left =>
      rw [ran] at called
      cases outcome with
      | ok _ => exact logged _ left called
      | error failure => exact called
  next =>
    refine ⟨life, ?_, rfl, fun can => absurd can closable⟩
    have cannot : depot.closable = false := by
      rw [follows.closable]
      exact Bool.eq_false_iff.mpr closable
    simp only [Reference.closeClient, Reference.endClient, run_bind, run_get, cannot]
    exact logged life depot follows

theorem lent_of_release
    {origin depot : Depot}
    {life : ClientLife}
    {reference client left : Nat}
    (seen : Nat -> Event)
    (follows : Follows origin life ((depot.setHolders reference left).recorded (seen left)))
    (held : depot.holders reference = left + 1)
    (holds : depot.clientOf reference = client)
    (made : life.client = some client)
    (counted : life.holders = left)
    (lasting : life.ended = false) :
    Lent origin life.borrowers
      (Reference.releaseThrough (Reference.closeClient Store.closeWithin) seen reference
        depot).2 := by
  simp only [Reference.releaseThrough, run_bind_ok _ (run_get depot), held,
    run_bind_ok _ (run_set _ depot), run_bind_ok _ (run_record _ _)]
  by_cases last : left = 0
  next =>
    have closed := follows.closeClient made (counted.trans last) lasting
    rw [if_pos last, holds]
    exact kept_bind closed (fun _ => keeps_pure true)
  next =>
    rw [if_neg last]
    refine ⟨life, follows, rfl, fun _ => ?_⟩
    simp [ClientLife.due, counted, last]

namespace Lent

variable {origin depot : Depot} {borrowers : Nat}

theorem close (lent : Lent origin borrowers depot) :
    Lent origin borrowers (Store.close depot).2 := by
  obtain ⟨life, follows, counted, ended⟩ := lent
  cases closed : depot.closed with
  | true =>
    rw [Store.close, closeThrough_of_closed _ closed]
    exact ⟨life, follows, counted, ended⟩
  | false =>
    have opened : life.closed = false := follows.closed.symm.trans closed
    have holders := ClientLife.holders_of_open opened
    simp only [Store.close, Store.closeThrough, run_bind_ok _ (run_get depot), closed,
      Bool.false_eq_true, if_false, run_bind_ok _ (run_set _ depot)]
    cases made : life.client with
    | none =>
      have told := follows.recorded_after (.storeClosed none) ⟨opened, by simp [made]⟩
      have current : depot.current = none := by simp [follows.current, made]
      rw [current]
      refine ⟨{ life with closed := true }, ?_, counted, fun _ => by simp [ClientLife.due, made]⟩
      exact { follows with
        recorded := told
        closed := rfl
        references := by simpa [made] using follows.references
        current := by simp
        unheld := fun ended => absurd (follows.unheld ended) (by omega) }
    | some client =>
      have current : depot.current = some origin.references.length := by
        simp [follows.current, made, opened]
      have told := follows.recorded_after (.storeClosed (some life.borrowers))
        ⟨opened, by simp [made]⟩
      rw [current]
      -- The store forgets the client before it gives up its own hold.
      let shut : Depot := { depot with closed := true, current := none }
      have last : shut.references = origin.references ++ [⟨client, life.holders⟩] :=
        follows.made_last made
      have gaveUp : Follows origin { life with closed := true }
          ((shut.setHolders origin.references.length life.borrowers).recorded
            (.storeClosed (some life.borrowers))) :=
        { follows with
          recorded := told
          closed := rfl
          references := by simpa [made, ClientLife.holders] using Depot.setHolders_last last _
          current := by simp [Depot.setHolders, shut]
          unheld := fun ended => absurd (follows.unheld ended) (by omega)
          idle := fun none => by simp [made] at none }
      have released := lent_of_release (fun left => .storeClosed (some left)) gaveUp
        ((Depot.holders_last last).trans holders) (Depot.clientOf_last last) made
        (by simp [ClientLife.holders]) (follows.lasts (by omega))
      subst counted
      exact kept_bind released (fun _ => keeps_pure _)

theorem release (lent : Lent origin (borrowers + 1) depot) :
    Lent origin borrowers (Reference.release origin.references.length depot).2 := by
  obtain ⟨life, follows, counted, ended⟩ := lent
  cases made : life.client with
  | none =>
    -- Nobody can borrow a client that was not made.
    have idle := follows.idle made
    omega
  | some client =>
    have last := follows.made_last made
    let left : ClientLife := { life with borrowers := borrowers }
    have holders : life.holders = left.holders + 1 := by
      simp only [ClientLife.holders, counted, left]
      omega
    have told := follows.recorded_after (.returned origin.references.length left.holders)
      ⟨by omega, holders.symm⟩
    have tells : life.after (.returned origin.references.length left.holders) = left := by
      simp [ClientLife.after, counted, left]
    rw [tells] at told
    have lasting := follows.lasts (by omega)
    have gaveUp : Follows origin left
        ((depot.setHolders origin.references.length left.holders).recorded
          (.returned origin.references.length left.holders)) :=
      { follows with
        recorded := told
        references := by simpa [made, left] using Depot.setHolders_last last left.holders
        current := follows.current
        unheld := fun ended => by simp [lasting, left] at ended
        idle := fun none => by simp [made, left] at none }
    exact lent_of_release (.returned origin.references.length) gaveUp
      ((Depot.holders_last last).trans holders) (Depot.clientOf_last last) made rfl lasting

theorem close_recorded
    (lent : Lent origin (borrowers + 1) depot)
    (opened : depot.closed = false) :
    exists next, Store.close depot = (.ok (), next) ∧ next.closed = true ∧
      next.source = depot.source ∧
      next.journal.history =
        depot.journal.history ++ [.storeClosed (some (borrowers + 1))] := by
  obtain ⟨life, follows, counted, _⟩ := lent
  have isOpen : life.closed = false := follows.closed.symm.trans opened
  cases made : life.client with
  | none =>
    have idle := follows.idle made
    omega
  | some client =>
    have current : depot.current = some origin.references.length := by
      simp [follows.current, made, isOpen]
    have last := Depot.holders_last (follows.made_last made)
    rw [ClientLife.holders_of_open isOpen, counted] at last
    have held : Depot.holders { depot with closed := true, current := none }
        origin.references.length = borrowers + 1 + 1 := last
    simp only [Store.close, Store.closeThrough, run_bind, run_get, opened, current, run_set,
      Reference.releaseThrough, held, Bool.false_eq_true, if_false]
    exact ⟨_, rfl, rfl, rfl, Depot.history_recorded _ _⟩

theorem release_of_open
    (lent : Lent origin (borrowers + 1) depot)
    (opened : depot.closed = false) :
    exists next, Reference.release origin.references.length depot = (.ok false, next) ∧
      next.current = some origin.references.length := by
  obtain ⟨life, follows, counted, _⟩ := lent
  have isOpen : life.closed = false := follows.closed.symm.trans opened
  have holders := ClientLife.holders_of_open isOpen
  cases made : life.client with
  | none =>
    have idle := follows.idle made
    omega
  | some client =>
    have held : depot.holders origin.references.length = borrowers + 1 + 1 := by
      rw [Depot.holders_last (follows.made_last made), holders, counted]
    refine ⟨(depot.setHolders origin.references.length (borrowers + 1)).recorded
      (.returned origin.references.length (borrowers + 1)), ?_, ?_⟩
    · simp only [Reference.release, Reference.releaseThrough, run_bind_ok _ (run_get depot), held,
        run_bind_ok _ (run_set _ depot), run_bind_ok _ (run_record _ _)]
      rfl
    · have current : depot.current = some origin.references.length := by
        simp [follows.current, made, isOpen]
      exact current

end Lent

/-- While the client of a store is being made the store is not closed. -/
def LeavesOpen (store : Store) (schedule : Schedule) : Prop :=
  forall number disruption,
    disruption ∈ schedule.disruptions store.clientCall.method number ->
      disruption.closesStore = false

theorem leavesOpen_calm (store : Store) : LeavesOpen store .calm := by
  intro number disruption listed
  cases listed

theorem LeavesOpen.add
    {store : Store}
    {schedule : Schedule}
    {method : Method}
    {disruption : Disruption}
    (leavesOpen : LeavesOpen store schedule)
    (other : method ≠ store.clientCall.method)
    (numbers : List Nat) :
    LeavesOpen store (schedule.add method numbers disruption) := by
  intro number added listed
  obtain earlier | new := List.mem_append.mp listed
  · exact leavesOpen number added earlier
  · rw [if_neg (fun hit => other hit.1.symm)] at new
    cases new

theorem Follows.makeClient
    {origin depot : Depot}
    {life : ClientLife}
    (follows : Follows origin life depot)
    {store : Store}
    (leavesOpen : LeavesOpen store origin.schedule)
    (unmade : life.client = none)
    (opened : life.closed = false) :
    match store.makeClient depot with
    | (.ok _, left) =>
        left.clients = origin.clients + 1 ∧
          Follows origin life { left with clients := origin.clients }
    | (.error _, left) => Follows origin life left := by
  have allowed : life.Allows origin.closable (.called store.clientCall) := by
    cases made : store.clientSource <;>
      simp [Store.clientCall, made, ClientLife.Allows, unmade, opened]
  have unchanged : life.after (.called store.clientCall) = life := by
    cases made : store.clientSource <;> simp [Store.clientCall, made, ClientLife.after]
  have shut : forall number disruption,
      disruption ∈ depot.schedule.disruptions store.clientCall.method number ->
        disruption.closesStore = true -> Keeps (Follows origin life) Store.close := by
    intro number disruption listed closes
    rw [follows.schedule] at listed
    simp [leavesOpen number disruption listed] at closes
  have called : Follows origin life
      (call Store.close store.clientCall (pure ()) (fun _ => pure ()) depot).2 :=
    call_keeps (follows.record allowed unchanged) shut (keeps_pure ()) (fun _ => keeps_pure ())
  rw [Store.makeClient, run_bind]
  cases ran : call Store.close store.clientCall (pure ()) (fun _ => pure ()) depot with
  | mk outcome middle =>
    rw [ran] at called
    cases outcome with
    | error failure => exact called
    | ok _ =>
      have none : middle.clients = origin.clients := by simpa [unmade] using called.clients
      exact ⟨congrArg (· + 1) none, { called with clients := by simp [unmade] }⟩

theorem Follows.tryAcquire
    {origin depot : Depot}
    {life : ClientLife}
    (follows : Follows origin life depot)
    {client : Nat}
    (made : life.client = some client)
    (opened : life.closed = false) :
    exists next, Reference.tryAcquire origin.references.length depot = (.ok true, next) ∧
      Lent origin (life.borrowers + 1) next ∧ next.closed = false := by
  have last := follows.made_last made
  have held : depot.holders origin.references.length = life.holders := Depot.holders_last last
  have holders := ClientLife.holders_of_open opened
  let taken : ClientLife := { life with borrowers := life.borrowers + 1 }
  have takenHolders : taken.holders = life.holders + 1 := ClientLife.holders_borrowed life
  have told := follows.recorded_after (.borrowed origin.references.length (life.holders + 1))
    ⟨by simp [made], opened, rfl⟩
  refine ⟨(depot.setHolders origin.references.length (life.holders + 1)).recorded
    (.borrowed origin.references.length (life.holders + 1)), ?_, ⟨taken, ?_, rfl, ?_⟩,
    follows.closed.trans opened⟩
  · simp only [Reference.tryAcquire, run_bind_ok _ (run_get depot), held]
    rw [if_neg (by omega)]
    rfl
  · have client : taken.client = some client := made
    exact { follows with
      recorded := told
      references := by
        rw [client, takenHolders]
        exact Depot.setHolders_last last _
      current := follows.current
      unheld := fun ended => absurd (follows.unheld ended) (by omega)
      idle := fun none => by simp [made, taken] at none }
  · simp [ClientLife.due, takenHolders]

theorem acquire_of_tryAcquire
    {depot next : Depot}
    {reference : Nat}
    (acquired : Reference.tryAcquire reference depot = (.ok true, next)) :
    Reference.acquire reference depot = (.ok (), next) := by
  rw [Reference.acquire, run_bind_ok _ acquired]
  rfl

theorem Follows.openReference
    {origin depot : Depot}
    {life : ClientLife}
    (follows : Follows origin life depot)
    {store : Store}
    (leavesOpen : LeavesOpen store origin.schedule)
    (unmade : life.client = none)
    (opened : life.closed = false) :
    match store.makeClient depot with
    | (.ok _, _) => exists next,
        store.openReference depot = (.ok origin.references.length, next) ∧ Lent origin 1 next ∧
          next.closed = false
    | (.error failure, left) =>
        store.openReference depot = (.error failure, left) ∧ Follows origin life left := by
  have kept := follows.makeClient leavesOpen unmade opened
  cases ran : store.makeClient depot with
  | mk outcome left =>
    rw [ran] at kept
    cases outcome with
    | error failure => exact ⟨run_bind_error _ ran, kept⟩
    | ok client =>
      obtain ⟨clients, kept⟩ := kept
      have references : left.references = origin.references := by
        have unlisted := kept.references
        rw [unmade] at unlisted
        exact unlisted.trans (List.append_nil _)
      -- The reference starts with the hold of the store, and acquiring adds that of the borrower.
      let created : Depot :=
        { left.addReference client with current := some origin.references.length }
      let alive : ClientLife := { life with client := some client }
      have told := kept.recorded_after (.clientMade client) ⟨unmade, opened⟩
      have idle := kept.idle unmade
      have follows : Follows origin alive (created.recorded (.clientMade client)) :=
        { kept with
          recorded := told
          clients := clients
          references := by
            simp [Depot.addReference, references, created, alive, ClientLife.holders, opened, idle]
          current := by simp [created, alive, opened]
          unheld := fun ended => by
            have unheld := kept.unheld ended
            simp [ClientLife.holders, opened] at unheld
          idle := fun none => by simp [alive] at none }
      have logged := follows.logs
        ((created.recorded (.clientMade client)).journal.log "debug" "backend_client_created"
          [("bucket", .text store.config.bucket),
            ("endpoint", Value.ofText? store.config.endpointUrl)]) rfl
      obtain ⟨next, acquired, lent, isOpen⟩ := logged.tryAcquire rfl opened
      refine ⟨next, ?_, by simpa [alive, idle] using lent, isOpen⟩
      rw [Store.openReference, run_bind_ok _ ran, run_bind_ok _ (run_get left),
        run_bind_ok _ (run_set _ left), run_bind_ok _ (run_record _ _),
        run_bind_ok _ (run_log _ _ _ _), references]
      exact run_bind_ok _ (acquire_of_tryAcquire acquired)

theorem acquire_of_closed (store : Store) {depot : Depot} (closed : depot.closed = true) :
    store.acquire depot = (.error (.of (.state .storeClosed)), depot) := by
  simp [Store.acquire, run_bind, closed]

theorem Follows.acquire_unmade
    {origin depot : Depot}
    {life : ClientLife}
    (follows : Follows origin life depot)
    {store : Store}
    (leavesOpen : LeavesOpen store origin.schedule)
    (unmade : life.client = none)
    (opened : life.closed = false) :
    match store.makeClient depot with
    | (.ok _, _) => exists next,
        store.acquire depot = (.ok origin.references.length, next) ∧ Lent origin 1 next ∧
          next.closed = false
    | (.error failure, left) =>
        store.acquire depot = (.error failure, left) ∧ Follows origin life left := by
  have closed : depot.closed = false := follows.closed.trans opened
  have current : depot.current = none := by simp [follows.current, unmade]
  have opening : store.acquire depot = store.openReference depot := by
    simp [Store.acquire, run_bind, closed, current]
  rw [opening]
  exact follows.openReference leavesOpen unmade opened

theorem Follows.acquire_made
    {origin depot : Depot}
    {life : ClientLife}
    (follows : Follows origin life depot)
    (store : Store)
    {client : Nat}
    (made : life.client = some client)
    (opened : life.closed = false) :
    exists next, store.acquire depot = (.ok origin.references.length, next) ∧
      Lent origin (life.borrowers + 1) next ∧ next.closed = false := by
  have closed : depot.closed = false := follows.closed.trans opened
  have current : depot.current = some origin.references.length := by
    simp [follows.current, made, opened]
  obtain ⟨next, acquired, lent⟩ := follows.tryAcquire made opened
  refine ⟨next, ?_, lent⟩
  simp only [Store.acquire, run_bind_ok _ (run_get depot), closed, current, Bool.false_eq_true,
    if_false, run_bind_ok _ acquired]
  rfl

theorem Lent.acquire
    {origin depot : Depot}
    {borrowers : Nat}
    (lent : Lent origin borrowers depot)
    {store : Store}
    (leavesOpen : LeavesOpen store origin.schedule) :
    match store.acquire depot with
    | (.ok reference, next) =>
        reference = origin.references.length ∧ Lent origin (borrowers + 1) next ∧
          next.closed = false
    | (.error _, next) => Lent origin borrowers next := by
  obtain ⟨life, follows, counted, ended⟩ := lent
  cases closed : depot.closed with
  | true =>
    rw [acquire_of_closed store closed]
    exact ⟨life, follows, counted, ended⟩
  | false =>
    have opened : life.closed = false := follows.closed.symm.trans closed
    subst counted
    cases made : life.client with
    | none =>
      have opening := follows.acquire_unmade leavesOpen made opened
      have idle := follows.idle made
      cases ran : store.makeClient depot with
      | mk outcome left =>
        rw [ran] at opening
        cases outcome with
        | error failure =>
          obtain ⟨failed, left⟩ := opening
          rw [failed]
          exact ⟨life, left, rfl, fun _ => by simp [ClientLife.due, made]⟩
        | ok client =>
          obtain ⟨next, acquired, lent⟩ := opening
          rw [acquired, idle]
          exact ⟨rfl, lent⟩
    | some client =>
      obtain ⟨next, acquired, lent⟩ := follows.acquire_made store made opened
      rw [acquired]
      exact ⟨rfl, lent⟩

theorem Lent.acquire_of_open
    {origin depot : Depot}
    {borrowers : Nat}
    (lent : Lent origin borrowers depot)
    (store : Store)
    (opened : depot.closed = false)
    (has : depot.current ≠ none) :
    (store.acquire depot).1 = .ok origin.references.length := by
  obtain ⟨life, follows, _, _⟩ := lent
  cases made : life.client with
  | none => exact absurd (by simp [follows.current, made]) has
  | some client =>
    obtain ⟨next, acquired, _⟩ :=
      follows.acquire_made store made (follows.closed.symm.trans opened)
    rw [acquired]

theorem Lent.sameSchedule
    {origin depot : Depot}
    {borrowers : Nat}
    (lent : Lent origin borrowers depot) :
    depot.schedule = origin.schedule := by
  obtain ⟨_, follows, _⟩ := lent
  exact follows.schedule

theorem Lent.closed_since
    {origin start depot : Depot}
    {before borrowers : Nat}
    {events : List Event}
    (lentStart : Lent origin before start)
    (lent : Lent origin borrowers depot)
    (history : depot.journal.history = start.journal.history ++ events) :
    depot.closed = (start.closed || events.any Event.isStoreClosed) := by
  obtain ⟨_, startFollows, _⟩ := lentStart
  obtain ⟨_, follows, _⟩ := lent
  obtain ⟨earlier, startHistory, _, startTold⟩ := startFollows.recorded
  obtain ⟨all, allHistory, _, told⟩ := follows.recorded
  have parts : all = earlier ++ events := by
    rw [history, startHistory, List.append_assoc] at allHistory
    exact (List.append_cancel_left allHistory).symm
  rw [startFollows.closed, follows.closed, <- startTold, <- told, ClientLife.told_closed,
    ClientLife.told_closed, parts, List.any_append]

theorem Lent.logs
    {origin depot : Depot}
    {borrowers : Nat}
    {journal : Journal}
    (lent : Lent origin borrowers depot)
    (events : journal.events = depot.journal.events) :
    Lent origin borrowers { depot with journal := journal } := by
  obtain ⟨life, follows, counted, ended⟩ := lent
  exact ⟨life, follows.logs journal events, counted, ended⟩

theorem Lent.sourced
    {origin depot : Depot}
    {borrowers : Nat}
    (lent : Lent origin borrowers depot)
    (source : Source) :
    Lent origin borrowers { depot with source := source } := by
  obtain ⟨life, follows, counted, ended⟩ := lent
  exact ⟨life, { follows with }, counted, ended⟩

theorem Lent.lasting (origin : Depot) (others : Nat) :
    Lasting (fun _ => True) (Lent origin (others + 1)) where
  logs _ _ events lent := lent.logs events
  reads size := by
    refine keeps_readSource (fun _ lent => lent.close) ?_
    intro depot source outcome lent
    obtain ⟨life, follows, counted, ended⟩ := lent
    have moved : Follows origin life { depot with source := source } := { follows with }
    exact ⟨life, moved.record (by simp [ClientLife.Allows, counted]) rfl, counted, ended⟩
  sends request _ := by
    refine keeps_send ?_ ?_ ?_ (fun _ lent => lent.close)
    · intro depot lent
      obtain ⟨life, follows, counted, ended⟩ := lent
      exact ⟨life, follows.record (by simp [ClientLife.Allows, counted]) rfl, counted, ended⟩
    · intro depot outcome lent
      obtain ⟨life, follows, counted, ended⟩ := lent
      exact ⟨life, follows.record (by simp [ClientLife.Allows, counted]) rfl, counted, ended⟩
    · intro depot lent
      obtain ⟨life, follows, counted, ended⟩ := lent
      exact ⟨life, { follows with }, counted, ended⟩

theorem Lent.lending
    {origin : Depot}
    {store : Store}
    (leavesOpen : LeavesOpen store origin.schedule)
    (borrowers : Nat) :
    Lending store (Lent origin borrowers) (fun reference depot =>
      reference = origin.references.length ∧ Lent origin (borrowers + 1) depot) where
  logs _ _ events lent := lent.logs events
  acquires depot lent := by
    have acquired := lent.acquire leavesOpen
    cases ran : store.acquire depot with
    | mk outcome next =>
      rw [ran] at acquired
      cases outcome with
      | ok reference => exact ⟨acquired.1, acquired.2.1⟩
      | error failure => exact acquired
  releases reference depot inside := by
    obtain ⟨rfl, lent⟩ := inside
    exact lent.release

theorem Lent.operate
    {origin : Depot}
    (container : Container)
    (leavesOpen : LeavesOpen container.store origin.schedule)
    (borrowers : Nat)
    (operation : Operation) :
    Keeps (Lent origin borrowers) (operation.run container) :=
  (Lent.lending leavesOpen borrowers).operate
    (fun _ => (Lent.lasting origin borrowers).given) (fun _ source lent => lent.sourced source)
    operation

end BlobDepot
