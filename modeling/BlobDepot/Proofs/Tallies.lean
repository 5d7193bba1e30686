import BlobDepot.Proofs.FittingAnswers

/-!
# Tallies

What is counted of deletions, pages, parts and aborts can be read off the exchange: every answer
adds to the counters by the request that it answers.  Work of an open store keeps the two in step.
-/

set_option autoImplicit false

namespace BlobDepot

open BlobDepot.Action

@[ext]
structure Tally where
  deletedSingly : Nat := 0
  deletedInBulk : Nat := 0
  failedBatches : Nat := 0
  listingPages : Nat := 0
  partSizes : List Int := []
  abortSuccesses : Nat := 0
  abortFailures : Nat := 0
  deriving Repr, DecidableEq

namespace Tally

instance : Zero Tally :=
  ⟨{}⟩

instance : Add Tally :=
  ⟨fun first second =>
    { deletedSingly := first.deletedSingly + second.deletedSingly
      deletedInBulk := first.deletedInBulk + second.deletedInBulk
      failedBatches := first.failedBatches + second.failedBatches
      listingPages := first.listingPages + second.listingPages
      partSizes := first.partSizes ++ second.partSizes
      abortSuccesses := first.abortSuccesses + second.abortSuccesses
      abortFailures := first.abortFailures + second.abortFailures }⟩

instance : AddMonoid Tally where
  add_assoc first second third := by
    ext1
    case partSizes => exact List.append_assoc _ _ _
    all_goals exact Nat.add_assoc _ _ _
  zero_add tally := by
    ext1
    case partSizes => rfl
    all_goals exact Nat.zero_add _
  add_zero tally := by
    ext1
    case partSizes => exact List.append_nil _
    all_goals rfl
  nsmul := nsmulRec

@[simp]
theorem failedBatches_add (first second : Tally) :
    (first + second).failedBatches = first.failedBatches + second.failedBatches :=
  rfl

end Tally

namespace Metrics

def tally (metrics : Metrics) : Tally where
  deletedSingly := metrics.deletedSingly
  deletedInBulk := metrics.deletedInBulk
  failedBatches := metrics.failedBatches
  listingPages := metrics.listingPages
  partSizes := metrics.partSizes
  abortSuccesses := metrics.abortSuccesses
  abortFailures := metrics.abortFailures

@[simp]
theorem tally_countUpload (metrics : Metrics) (route : UploadRoute) (outcome : Outcome) :
    (metrics.countUpload route outcome).tally = metrics.tally := by
  cases route <;> cases outcome <;> rfl

@[simp]
theorem tally_countBytes (metrics : Metrics) (size : Int) (route : UploadRoute) :
    (metrics.countBytes size route).tally = metrics.tally := by
  cases route <;> rfl

theorem tally_countAbort (metrics : Metrics) (outcome : Outcome) :
    (metrics.countAbort outcome).tally = metrics.tally +
      match outcome with
      | .success => { abortSuccesses := 1 }
      | .failure => { abortFailures := 1 } := by
  cases outcome <;> ext1
  case success.partSizes | failure.partSizes => exact (List.append_nil _).symm
  all_goals rfl

section Growth

variable (metrics : Metrics)

theorem tally_countDeleted :
    { metrics with deletedSingly := metrics.deletedSingly + 1 }.tally =
      metrics.tally + { deletedSingly := 1 } := by
  ext1
  case partSizes => exact (List.append_nil _).symm
  all_goals rfl

theorem tally_countBatch (keys : Nat) :
    { metrics with deletedInBulk := metrics.deletedInBulk + keys }.tally =
      metrics.tally + { deletedInBulk := keys } := by
  ext1
  case partSizes => exact (List.append_nil _).symm
  all_goals rfl

theorem tally_countFailedBatch :
    { metrics with failedBatches := metrics.failedBatches + 1 }.tally =
      metrics.tally + { failedBatches := 1 } := by
  ext1
  case partSizes => exact (List.append_nil _).symm
  all_goals rfl

theorem tally_countPage :
    { metrics with listingPages := metrics.listingPages + 1 }.tally =
      metrics.tally + { listingPages := 1 } := by
  ext1
  case partSizes => exact (List.append_nil _).symm
  all_goals rfl

theorem tally_countPart (size : Int) :
    { metrics with partSizes := metrics.partSizes ++ [size] }.tally =
      metrics.tally + { partSizes := [size] } := by
  ext1
  all_goals rfl

end Growth

end Metrics

/-- What an answer adds to the counters.  A batch counts as deleted only if nothing is complained
of, and a part by the bytes that it has. -/
def Event.tally : Event -> Tally
  | .answered (.deleteObject ..) (.ok _) => { deletedSingly := 1 }
  | .answered (.deleteObjects _ keys _) (.ok answer) =>
      if answer.complaints.isEmpty then { deletedInBulk := keys.length } else { failedBatches := 1 }
  | .answered (.deleteObjects ..) (.error _) => { failedBatches := 1 }
  | .answered (.listObjects ..) (.ok _) => { listingPages := 1 }
  | .answered (.uploadPart _ _ _ _ body) (.ok _) => { partSizes := [(body.length : Int)] }
  | .answered (.abortUpload ..) (.ok _) => { abortSuccesses := 1 }
  | .answered (.abortUpload ..) (.error _) => { abortFailures := 1 }
  | _ => 0

def tallied (events : List Event) : Tally :=
  (events.map Event.tally).sum

@[simp]
theorem tallied_append (events later : List Event) :
    tallied (events ++ later) = tallied events + tallied later := by
  simp [tallied]

@[simp]
theorem tallied_events (request : Request) (given : Except Failure Answer) :
    tallied (request.events given) = (Event.answered request given).tally := by
  have called : (Event.called (.request request)).tally = 0 := rfl
  simp [tallied, Request.events, called]

namespace Source

structure Since (later source : Source) : Prop where
  events : later.events = source.events
  reads : source.reads <= later.reads

def KeepsOpen (source : Source) : Prop :=
  forall number, source.reads < number -> (source.events number).closesStore = false

def Raises (source : Source) (problem : Problem) : Prop :=
  exists number failure, source.reads < number ∧
    (source.events number).failure = some failure ∧ failure.problem = problem

variable {first later source : Source} {size : Int}

theorem Since.refl (source : Source) : source.Since source :=
  ⟨rfl, Nat.le_refl _⟩

theorem Since.trans (sinceLater : first.Since later) (since : later.Since source) :
    first.Since source :=
  ⟨sinceLater.events.trans since.events, Nat.le_trans since.reads sinceLater.reads⟩

theorem KeepsOpen.since (keepsOpen : source.KeepsOpen) (since : later.Since source) :
    later.KeepsOpen := by
  intro number unread
  rw [since.events]
  exact keepsOpen number (Nat.lt_of_le_of_lt since.reads unread)

theorem Raises.before {problem : Problem} (raises : later.Raises problem)
    (since : later.Since source) :
    source.Raises problem := by
  obtain ⟨number, failure, unread, fails, isProblem⟩ := raises
  exact ⟨number, failure, Nat.lt_of_le_of_lt since.reads unread, since.events ▸ fails, isProblem⟩

theorem read_since (source : Source) (size : Int) : (source.read size).2.Since source := by
  rw [read]
  split
  next => exact ⟨rfl, Nat.le_succ _⟩
  next => exact ⟨rfl, Nat.le_succ _⟩

theorem read_raises {failure : Failure} (fails : (source.read size).1 = .error failure) :
    source.Raises failure.problem := by
  rw [read] at fails
  split at fails
  next raised isRaised =>
    cases fails
    exact ⟨source.reads + 1, failure, Nat.lt_succ_self _, isRaised, rfl⟩
  next => cases fails

end Source

theorem Attended.hasClient
    {origin depot : Depot}
    {borrowers : Nat}
    (attended : Attended origin (borrowers + 1) depot) :
    depot.current ≠ none := by
  obtain ⟨life, follows, borrowed, _⟩ := attended.lent
  have opened : life.closed = false := follows.closed.symm.trans attended.opened
  cases made : life.client with
  | none =>
    rw [follows.idle made] at borrowed
    cases borrowed
  | some client => simp [follows.current, made, opened]

/-- Work of an open store led to an exchange, of requests of a sort only, and this was entered in
the counters.  A client that was made stays there. -/
structure Dealt
    (origin : Depot)
    (borrowers : Nat)
    (sort : Request -> Prop)
    (depot : Depot)
    (events : List Event)
    (entered : Tally)
    (next : Depot) : Prop where
  attended : Attended origin borrowers next
  exchange : next.exchange = depot.exchange ++ events
  sorted : forall request given, Event.answered request given ∈ events -> sort request
  entered : next.journal.metrics.tally = depot.journal.metrics.tally + entered
  source : next.source.Since depot.source
  pageSize : next.service.pageSize = depot.service.pageSize
  current : events ≠ [] ∨ depot.current ≠ none -> next.current ≠ none

namespace Dealt

variable {origin depot middle next : Depot} {borrowers others : Nat} {sort : Request -> Prop}
variable {events further : List Event} {entered added : Tally}

theorem of_idle
    (attended : Attended origin borrowers next)
    (idle : Idle depot next)
    (current : depot.current ≠ none -> next.current ≠ none) :
    Dealt origin borrowers sort depot [] 0 next where
  attended := attended
  exchange := idle.exchange.trans (List.append_nil _).symm
  sorted _ _ listed := by cases listed
  entered := by rw [idle.metrics, add_zero]
  source := idle.source ▸ Source.Since.refl _
  pageSize := congrArg Service.pageSize idle.service
  current has := current (has.resolve_left (fun some => some rfl))

theorem refl (attended : Attended origin borrowers depot) :
    Dealt origin borrowers sort depot [] 0 depot :=
  of_idle attended (Idle.refl depot) id

theorem trans
    (first : Dealt origin others sort depot events entered middle)
    (second : Dealt origin borrowers sort middle further added next) :
    Dealt origin borrowers sort depot (events ++ further) (entered + added) next where
  attended := second.attended
  exchange := by rw [second.exchange, first.exchange, List.append_assoc]
  sorted request given listed :=
    (List.mem_append.mp listed).elim (first.sorted request given) (second.sorted request given)
  entered := by rw [second.entered, first.entered, add_assoc]
  source := second.source.trans first.source
  pageSize := second.pageSize.trans first.pageSize
  current has := by
    apply second.current
    by_cases none : events = []
    next =>
      rw [none, List.nil_append] at has
      exact has.imp_right (fun made => first.current (.inr made))
    next => exact .inr (first.current (.inl none))

theorem later
    (dealt : Dealt origin others sort depot events entered middle)
    (attended : Attended origin borrowers next)
    (idle : Idle middle next)
    (current : middle.current ≠ none -> next.current ≠ none) :
    Dealt origin borrowers sort depot events entered next := by
  have whole := dealt.trans (of_idle attended idle current)
  rw [List.append_nil, add_zero] at whole
  exact whole

theorem since
    (dealt : Dealt origin borrowers sort middle events entered next)
    (idle : Idle depot middle)
    (current : depot.current ≠ none -> middle.current ≠ none) :
    Dealt origin borrowers sort depot events entered next where
  attended := dealt.attended
  exchange := idle.exchange ▸ dealt.exchange
  sorted := dealt.sorted
  entered := idle.metrics ▸ dealt.entered
  source := idle.source ▸ dealt.source
  pageSize := idle.service ▸ dealt.pageSize
  current has := dealt.current (has.imp_right current)

theorem counted
    {change : Metrics -> Metrics}
    (dealt : Dealt origin borrowers sort depot events entered next)
    (changes : forall metrics, (change metrics).tally = metrics.tally + added) :
    Dealt origin borrowers sort depot events (entered + added)
      { next with journal := next.journal.count change } where
  attended := dealt.attended.logs rfl
  exchange := dealt.exchange
  sorted := dealt.sorted
  entered := by
    change (change next.journal.metrics).tally = _
    rw [changes, dealt.entered, add_assoc]
  source := dealt.source
  pageSize := dealt.pageSize
  current := dealt.current

theorem logged
    (dealt : Dealt origin borrowers sort depot events entered next)
    (level event : String)
    (fields : List (String × Value)) :
    Dealt origin borrowers sort depot events entered
      { next with journal := next.journal.log level event fields } :=
  dealt.later (dealt.attended.logs rfl) ⟨SameWork.logged next _ _ _, rfl⟩ id

theorem failedBatches
    (dealt : Dealt origin borrowers sort depot events entered next)
    (single : forall request, sort request -> request.method ≠ .deleteObjects) :
    (tallied events).failedBatches = 0 := by
  have sorted := dealt.sorted
  clear dealt
  induction events with
  | nil => rfl
  | cons event rest ih =>
    have later := ih (fun request given listed => sorted request given (.tail _ listed))
    have first : event.tally.failedBatches = 0 := by
      cases event with
      | answered request given =>
        have isSingle := single request (sorted request given List.mem_cons_self)
        cases request <;> cases given <;> first | rfl | exact absurd rfl isSingle
      | _ => rfl
    simp only [tallied, List.map_cons, List.sum_cons, Tally.failedBatches_add, first] at later ⊢
    rw [later]

end Dealt

theorem Responded.dealt
    {origin depot next : Depot}
    {borrowers : Nat}
    {request : Request}
    {given : Except Failure Answer}
    {sort : Request -> Prop}
    (responded : Responded origin (borrowers + 1) request depot given next)
    (sorted : sort request) :
    Dealt origin (borrowers + 1) sort depot (request.events given) 0 next where
  attended := responded.attended
  exchange := responded.sent.exchange
  sorted other _ listed := by
    simp only [Request.events, List.mem_cons, reduceCtorEq, false_or, List.not_mem_nil, or_false,
      Event.answered.injEq] at listed
    rw [listed.1]
    exact sorted
  entered := by rw [responded.metrics, add_zero]
  source := responded.sent.source ▸ Source.Since.refl _
  pageSize := by
    have kept := Service.respond_pageSize request (origin.schedule.disruptions request.method
      (depot.journal.callCount request.method + 1)) depot.service
    rw [responded.response] at kept
    exact kept
  current _ := responded.attended.hasClient

/-- All that work of an open store exchanges is entered in the counters, and it ends as it
should, given the exchange. -/
def Deals
    {α : Type}
    (origin : Depot)
    (borrowers : Nat)
    (sort : Request -> Prop)
    (work : Action α)
    (depot : Depot)
    (expected : List Event -> Except Failure α -> Prop) : Prop :=
  Yields work depot (fun outcome next => exists events,
    Dealt origin borrowers sort depot events (tallied events) next ∧ expected events outcome)

namespace Deals

variable {α β : Type} {origin depot : Depot} {borrowers : Nat} {sort : Request -> Prop}
variable {work : Action α} {expected : List Event -> Except Failure α -> Prop}

theorem mono
    {another : List Event -> Except Failure α -> Prop}
    (deals : Deals origin borrowers sort work depot expected)
    (implies : forall events outcome, expected events outcome -> another events outcome) :
    Deals origin borrowers sort work depot another :=
  Yields.mono deals (fun outcome _ done =>
    done.imp (fun events both => ⟨both.1, implies events outcome both.2⟩))

theorem at_once
    {outcome : Except Failure α}
    (attended : Attended origin borrowers depot)
    (ran : work depot = (outcome, depot))
    (holds : expected [] outcome) :
    Deals origin borrowers sort work depot expected := by
  rw [Deals, Yields, ran]
  exact ⟨[], .refl attended, holds⟩

theorem after
    {events : List Event}
    {middle : Depot}
    (dealt : Dealt origin borrowers sort depot events (tallied events) middle)
    (deals : Deals origin borrowers sort work middle
      (fun later outcome => expected (events ++ later) outcome)) :
    Yields work middle (fun outcome next => exists events,
      Dealt origin borrowers sort depot events (tallied events) next ∧
        expected events outcome) := by
  refine Yields.mono deals (fun outcome next done => ?_)
  obtain ⟨later, rest, holds⟩ := done
  exact ⟨events ++ later, tallied_append events later ▸ dealt.trans rest, holds⟩

theorem bind
    {next : α -> Action β}
    {middle : List Event -> Except Failure α -> Prop}
    {expected : List Event -> Except Failure β -> Prop}
    (deals : Deals origin borrowers sort work depot middle)
    (rest : forall result events left, middle events (.ok result) ->
      Dealt origin borrowers sort depot events (tallied events) left ->
        Deals origin borrowers sort (next result) left
          (fun later outcome => expected (events ++ later) outcome))
    (failed : forall failure events, middle events (.error failure) ->
      expected events (.error failure)) :
    Deals origin borrowers sort (work >>= next) depot expected := by
  refine Yields.bind deals (fun result left done => ?_) (fun failure left done => ?_)
  · obtain ⟨events, dealt, holds⟩ := done
    exact after dealt (rest result events left holds dealt)
  · obtain ⟨events, dealt, holds⟩ := done
    exact ⟨events, dealt, failed failure events holds⟩

theorem attempt_bind
    {next : Except Failure α -> Action β}
    {middle : List Event -> Except Failure α -> Prop}
    {expected : List Event -> Except Failure β -> Prop}
    (deals : Deals origin borrowers sort work depot middle)
    (rest : forall outcome events left, middle events outcome ->
      Dealt origin borrowers sort depot events (tallied events) left ->
        Deals origin borrowers sort (next outcome) left
          (fun later ended => expected (events ++ later) ended)) :
    Deals origin borrowers sort (attempt work >>= next) depot expected := by
  refine Yields.attempt_bind deals (fun outcome left done => ?_)
  obtain ⟨events, dealt, holds⟩ := done
  exact after dealt (rest outcome events left holds dealt)

theorem log_bind
    {level event : String}
    {fields : List (String × Value)}
    {next : Unit -> Action α}
    (deals : Deals origin borrowers sort (next ())
      { depot with journal := depot.journal.log level event fields } expected) :
    Deals origin borrowers sort (log level event fields >>= next) depot expected := by
  refine yields_log _ (Yields.mono deals (fun outcome last done => ?_))
  obtain ⟨events, dealt, holds⟩ := done
  exact ⟨events, dealt.since ⟨SameWork.logged depot _ _ _, rfl⟩ id, holds⟩

theorem log_last
    {level event : String}
    {fields : List (String × Value)}
    {expected : List Event -> Except Failure Unit -> Prop}
    (attended : Attended origin borrowers depot)
    (holds : expected [] (.ok ())) :
    Deals origin borrowers sort (log level event fields) depot expected :=
  ⟨[], (Dealt.refl attended).logged level event fields, holds⟩

theorem count_bind
    {change : Metrics -> Metrics}
    {next : Unit -> Action α}
    (same : forall metrics, (change metrics).tally = metrics.tally)
    (deals : Deals origin borrowers sort (next ())
      { depot with journal := depot.journal.count change } expected) :
    Deals origin borrowers sort (count change >>= next) depot expected := by
  refine yields_count _ (Yields.mono deals (fun outcome last done => ?_))
  obtain ⟨events, dealt, holds⟩ := done
  refine ⟨events, ⟨dealt.attended, dealt.exchange, dealt.sorted, ?_, dealt.source, dealt.pageSize,
    dealt.current⟩, holds⟩
  have entered := dealt.entered
  change _ = (change depot.journal.metrics).tally + _ at entered
  rwa [same] at entered

end Deals

namespace Attended

variable {α : Type} {origin depot : Depot} {borrowers : Nat} {sort : Request -> Prop}

theorem answers
    (attended : Attended origin (borrowers + 1) depot)
    (fitting : origin.schedule.AnswersFit)
    (request : Request)
    (sorted : sort request)
    (doing : String) :
    Yields (Client.ask request doing) depot (fun outcome next => exists given,
      FitsRequest request.method given ∧
        Dealt origin (borrowers + 1) sort depot (request.events given) 0 next ∧
        outcome = given.mapError (fun failure => failure.reported doing)) := by
  refine (attended.ask request (fitting.keepsOpen request) doing).mono
    (fun outcome next asked => ?_)
  obtain ⟨given, responded, isOutcome⟩ := asked
  have fits := responded.fits fitting
  refine ⟨given, fits, responded.dealt sorted, isOutcome.trans ?_⟩
  cases fits with
  | answered answer _ => rfl
  | failed failure fault => exact congrArg Except.error (fault.told doing)

theorem asksUncounted
    (attended : Attended origin (borrowers + 1) depot)
    (fitting : origin.schedule.AnswersFit)
    (request : Request)
    (sorted : sort request)
    (uncounted : forall given, (Event.answered request given).tally = 0)
    (doing : String) :
    Deals origin (borrowers + 1) sort (Client.ask request doing) depot (fun _ outcome =>
      match outcome with
      | .ok answer => answer.Fits request.method
      | .error failure => failure.isA .backend = true) := by
  refine (attended.answers fitting request sorted doing).mono (fun outcome next asked => ?_)
  obtain ⟨given, fits, dealt, rfl⟩ := asked
  refine ⟨request.events given, by rwa [tallied_events, uncounted given], ?_⟩
  cases fits with
  | answered answer fits => exact fits
  | failed failure fault => exact fault.reported_backend doing

theorem acquires
    (attended : Attended origin borrowers depot)
    {store : Store}
    (leavesOpen : LeavesOpen store origin.schedule) :
    Yields store.acquire depot (fun outcome next => Idle depot next ∧
      match outcome with
      | .ok reference => reference = origin.references.length ∧
          Attended origin (borrowers + 1) next
      | .error failure => depot.current = none ∧ (store.makeClient depot).1 = .error failure ∧
          Attended origin borrowers next) := by
  by_cases canLend : store.CanLend depot
  next =>
    refine (attended.acquire leavesOpen canLend).mono (fun outcome next acquired => ?_)
    obtain ⟨rfl, attendedNext, idle⟩ := acquired
    exact ⟨idle, rfl, attendedNext⟩
  next =>
    obtain ⟨made, fails⟩ := not_or.mp canLend
    have unmade : depot.current = none := not_not.mp made
    obtain ⟨life, follows, counted, done⟩ := attended.lent
    have opened : life.closed = false := follows.closed.symm.trans attended.opened
    have noClient : life.client = none := by
      cases made : life.client with
      | none => rfl
      | some client =>
        have current := follows.current
        rw [made, opened] at current
        simp [unmade] at current
    have idle : Idle depot (store.acquire depot).2 :=
      Detached.idle (fun detached => detached.acquire store) depot
    have opening := follows.acquire_unmade leavesOpen noClient opened
    cases ran : store.makeClient depot with
    | mk outcome left =>
      rw [ran] at opening fails
      cases outcome with
      | ok client => exact absurd ⟨client, rfl⟩ fails
      | error failure =>
        obtain ⟨acquired, kept⟩ := opening
        rw [acquired] at idle
        rw [Yields, acquired]
        exact ⟨idle, unmade, rfl, ⟨life, kept, counted, done⟩, kept.closed.trans opened⟩

theorem lends
    {store : Store}
    {work : Action α}
    {expected : List Event -> Tally -> Except Failure α -> Prop}
    (attended : Attended origin borrowers depot)
    (leavesOpen : LeavesOpen store origin.schedule)
    (works : forall middle, Attended origin (borrowers + 1) middle -> Idle depot middle ->
      Yields work middle (fun outcome left => exists events entered,
        Dealt origin (borrowers + 1) sort middle events entered left ∧
          expected events entered outcome))
    (failed : forall failure, depot.current = none -> (store.makeClient depot).1 = .error failure ->
      expected [] 0 (.error failure)) :
    Yields (store.borrowing work) depot (fun outcome next => exists events entered,
      Dealt origin borrowers sort depot events entered next ∧ expected events entered outcome) := by
  refine (attended.acquires leavesOpen).bind (fun reference middle acquired => ?_)
    (fun failure middle acquired => ?_)
  · obtain ⟨idle, rfl, attendedMiddle⟩ := acquired
    refine (works middle attendedMiddle idle).attempt_bind (fun outcome left worked => ?_)
    obtain ⟨events, entered, dealt, holds⟩ := worked
    -- While the store is open, giving the client back does not fail.
    refine dealt.attended.release.bind (fun last next released => ?_)
      (fun failure next released => ?_)
    · rw [Yields, run_settle]
      obtain ⟨_, attendedNext, idleLeft, has⟩ := released
      exact ⟨events, entered, (dealt.since idle (fun _ => attendedMiddle.hasClient)).later
        attendedNext idleLeft (fun _ => has), holds⟩
    · cases released.1
  · obtain ⟨idle, unmade, fails, attendedMiddle⟩ := acquired
    exact ⟨[], 0, .of_idle attendedMiddle idle (absurd unmade), failed failure unmade fails⟩

theorem deals_borrowing
    {store : Store}
    {work : Action α}
    {expected : List Event -> Except Failure α -> Prop}
    (attended : Attended origin borrowers depot)
    (leavesOpen : LeavesOpen store origin.schedule)
    (works : forall middle, Attended origin (borrowers + 1) middle -> Idle depot middle ->
      Deals origin (borrowers + 1) sort work middle expected)
    (failed : forall failure, depot.current = none -> (store.makeClient depot).1 = .error failure ->
      expected [] (.error failure)) :
    Deals origin borrowers sort (store.borrowing work) depot expected := by
  let settled (events : List Event) (entered : Tally) (outcome : Except Failure α) : Prop :=
    entered = tallied events ∧ expected events outcome
  have lends : Yields (store.borrowing work) depot (fun outcome next => exists events entered,
      Dealt origin borrowers sort depot events entered next ∧ settled events entered outcome) := by
    refine attended.lends leavesOpen (fun middle attendedMiddle idle => ?_)
      (fun failure unmade fails => ⟨rfl, failed failure unmade fails⟩)
    refine Yields.mono (works middle attendedMiddle idle) (fun outcome left worked => ?_)
    obtain ⟨events, dealt, holds⟩ := worked
    exact ⟨events, _, dealt, rfl, holds⟩
  refine lends.mono (fun outcome next done => ?_)
  obtain ⟨events, _, dealt, rfl, holds⟩ := done
  exact ⟨events, dealt, holds⟩

end Attended

end BlobDepot
