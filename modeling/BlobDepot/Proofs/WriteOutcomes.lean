import BlobDepot.Proofs.AcceptedWrites
import BlobDepot.Proofs.FailedUploads
import BlobDepot.Proofs.FailedWrites

set_option autoImplicit false

namespace BlobDepot

open BlobDepot.Action

def Event.shortRead? (size : Int) : Event -> Option Trouble
  | .read _ (.ok body) =>
      if (body.length : Int) = size then none
      else some (.other (.of (Client.shortStream body.length size)))
  | _ => none

def putTrouble? (size : Int) (events : List Event) : Option Trouble :=
  (firstTrouble? events).or (events.findSome? (Event.shortRead? size))

theorem putTrouble?_work (size : Int) (events : List Event) :
    putTrouble? size (events.filter Event.isWork) = putTrouble? size events := by
  have aside (event : Event) (isAside : event.isWork = false) : event.shortRead? size = none := by
    cases event <;> first | rfl | cases isAside
  rw [putTrouble?, putTrouble?, firstTrouble?_work, findSome?_work events aside]

structure PutTold (size : Int) (outcome : Except Failure Unit) (events : List Event) : Prop where
  troubled : (putTrouble? size events).map Trouble.failure =
    match outcome with
    | .ok _ => none
    | .error failure => some failure
  stored : events.any Event.stores = outcome.isOk
  unaborted : abortAnswer? events = none

theorem putTold_of_answer
    {bucket key : String}
    {size : Int}
    {body : Body}
    (whole : (body.length : Int) = size)
    (settings : UploadSettings)
    (given : Except Failure Answer) :
    PutTold size
      ((Request.putObject bucket key body size settings).conclude given (fun _ => ()))
      (.read size (.ok body) ::
        (Request.putObject bucket key body size settings).events given) where
  troubled := by
    cases given <;>
      simp [putTrouble?, firstTrouble?, List.findSome?_cons, Request.events, Request.conclude,
        Event.trouble?, Event.shortRead?, Request.complaint?, whole]
  stored := by cases given <;> rfl
  unaborted := by cases given <;> rfl

theorem putTold_of_short
    {size : Int}
    {body : Body}
    (short : (body.length : Int) ≠ size) :
    PutTold size (.error (.of (Client.shortStream body.length size))) [.read size (.ok body)] where
  troubled := by
    simp [putTrouble?, firstTrouble?, Event.trouble?, Event.shortRead?, short, Trouble.failure]
  stored := rfl
  unaborted := rfl

theorem Lent.putObject
    {origin depot : Depot}
    {others : Nat}
    (lent : Lent origin (others + 1) depot)
    (bucket key : String)
    (size : Int)
    (settings : UploadSettings) :
    Works origin others (Client.putObject bucket key size settings) depot (PutTold size) := by
  refine (lent.readSource size).bind (fun body middle events lentMiddle read => ?_)
    (fun failure events read => ?_)
  · subst read
    by_cases whole : (body.length : Int) = size
    next =>
      simp only [if_pos whole]
      refine (lentMiddle.asks (.putObject bucket key body size settings.sent)).bind
        (fun answer left events lentLeft asked => ?_) (fun failure events asked => ?_)
      · obtain ⟨given, rfl, same⟩ := asked
        cases given with
        | error _ => cases same
        | ok answer =>
          refine .ends lentLeft rfl ?_
          rw [List.append_nil]
          exact putTold_of_answer whole settings.sent (.ok answer)
      · obtain ⟨given, rfl, same⟩ := asked
        cases given with
        | ok _ => cases same
        | error fault =>
          cases same
          exact putTold_of_answer whole settings.sent (.error fault)
    next =>
      simp only [if_neg whole]
      exact .ends lentMiddle rfl (putTold_of_short whole)
  · subst read
    exact ⟨rfl, rfl, rfl⟩

inductive SingleTold (container : Container) (key : String) (size : Int) (depot : Depot) :
    Except Failure Unit -> List Event -> Depot -> Prop
  | refused (failure : Failure) (next : Depot)
      (cannot : (container.store.acquire depot).1 = .error failure)
      (closes : next.closes = depot.closes) :
      SingleTold container key size depot (.error (failure.wrapped (.putFailed key))) [] next
  | stored (last : Bool) (events : List Event) (next : Depot)
      (told : PutTold size (.ok ()) events)
      (lends : exists reference, (container.store.acquire depot).1 = .ok reference)
      (returned : Returned depot (.ok last) next)
      (failures : next.journal.metrics.failedUploads = depot.journal.metrics.failedUploads) :
      SingleTold container key size depot (.ok ()) events next
  | failed (failure : Failure) (last : Bool) (events : List Event) (next : Depot)
      (told : PutTold size (.error failure) events)
      (lends : exists reference, (container.store.acquire depot).1 = .ok reference)
      (returned : Returned depot (.ok last) next) :
      SingleTold container key size depot (.error (failure.wrapped (.putFailed key))) events next
  | lost (failure : Failure) (outcome : Except Failure Unit) (events : List Event) (next : Depot)
      (told : PutTold size outcome events)
      (lends : exists reference, (container.store.acquire depot).1 = .ok reference)
      (returned : Returned depot (.error failure) next) :
      SingleTold container key size depot (.error (failure.wrapped (.putFailed key))) events next

theorem yields_putFailed
    {key : String}
    {failure : Failure}
    {depot : Depot}
    {expected : Except Failure Unit -> Depot -> Prop}
    (holds : forall next, next.trace = depot.trace -> next.closes = depot.closes ->
      expected (.error (failure.wrapped (.putFailed key))) next) :
    Yields (if failure.isA .backend then do
        count (fun metrics => metrics.countUpload .single .failure)
        throw (Failure.because (.putFailed key) failure)
      else throw failure) depot expected := by
  by_cases backend : failure.isA .backend = true
  next =>
    simp only [if_pos backend]
    rw [Failure.wrapped, if_pos backend] at holds
    exact yields_count _ (holds _ rfl rfl)
  next =>
    simp only [if_neg backend]
    rw [Failure.wrapped, if_neg backend] at holds
    exact holds depot rfl rfl

theorem Lent.uploadSingle
    {origin depot : Depot}
    {borrowers : Nat}
    {container : Container}
    {size : Int}
    (lent : Lent origin borrowers depot)
    (leavesOpen : LeavesOpen container.store origin.schedule)
    (small : size <= container.bufferSize)
    (key : String) :
    Yields (container.uploadSingle key size) depot (fun outcome next =>
      exists events, next.trace = depot.trace ++ events ∧
        SingleTold container key size depot outcome events next) := by
  have fits : size <= container.store.config.bufferSize := small
  have allowed := container.store.config.bufferSize_le
  refine Yields.check (fun large => by omega) (fun _ => ?_)
  refine Yields.check (fun large => by omega) (fun _ => ?_)
  have puts : forall middle, Apart depot middle -> Lent origin (borrowers + 1) middle ->
      Yields (Client.putObject container.store.config.bucket key size
        container.store.config.uploadSettings) middle (fun outcome left =>
          Lent origin (borrowers + 1) left ∧ exists events, Traced depot events left ∧
            PutTold size outcome events) := by
    intro middle apart lentMiddle
    refine Yields.mono (lentMiddle.putObject _ key size _) (fun outcome left done => ?_)
    obtain ⟨lentLeft, events, traced, told⟩ := done
    exact ⟨lentLeft, events, by simpa using apart.traced.trans traced, told⟩
  refine (lent.borrowing leavesOpen puts).attempt_bind (fun outcome left loaned => ?_)
  cases loaned with
  | refused failure _ cannot _ apart closes =>
    apply yields_putFailed
    intro next trace same
    exact ⟨[], by rw [trace, apart.trace, List.append_nil],
      .refused failure next cannot (same.trans closes)⟩
  | returned outcome given middle _ lends worked back =>
    obtain ⟨events, traced, told⟩ := worked
    have closes := lent.closes (.inl (opened_of_lends lends))
    have trace : left.trace = depot.trace ++ events := by rw [back.apart.trace, traced.trace]
    have returned (next : Depot) (same : next.closes = left.closes) : Returned depot given next :=
      back.returned.of_closes lent.sameSchedule closes same
    cases given with
    | error failure =>
      apply yields_putFailed
      intro next traceNext same
      exact ⟨events, traceNext.trans trace,
        .lost failure outcome events next told ⟨_, lends⟩ (returned next same)⟩
    | ok last =>
      cases outcome with
      | error failure =>
        apply yields_putFailed
        intro next traceNext same
        exact ⟨events, traceNext.trans trace,
          .failed failure last events next told ⟨_, lends⟩ (returned next same)⟩
      | ok _ =>
        have failures : left.journal.metrics.failedUploads =
            depot.journal.metrics.failedUploads := by
          rw [back.apart.metrics, traced.failures]
        exact yields_count _ ⟨events, trace,
          .stored last events _ told ⟨_, lends⟩ (returned _ rfl) failures⟩

def Failure.SameError (raised reported : Failure) : Prop :=
  raised.problem = reported.problem ∧ raised.cause = reported.cause

theorem Failure.sameError_afterAbort
    {aborted : Except Failure Unit}
    (ordinary : forall failure, aborted = .error failure -> failure.isA .ordinary = true)
    (raised : Failure)
    (uploadId : String) :
    (raised.afterAbort uploadId aborted).SameError raised := by
  cases aborted with
  | ok _ => exact ⟨rfl, rfl⟩
  | error abort =>
    rw [Failure.afterAbort, if_pos (ordinary abort rfl), Container.attachAbort]
    split <;> exact ⟨rfl, rfl⟩

/-- How giving back the client fails with which a blob was uploaded.  If the upload was aborted, the
client was closed after that only. -/
def Depot.failedReturn? (depot : Depot) (events : List Event) : Option Failure :=
  if (abortAnswer? events).isSome then none else depot.failedClose? events

structure Decided
    (problem : Problem)
    (trouble? : Option Trouble)
    (depot final : Depot)
    (events : List Event)
    (outcome : Except Failure Unit) : Prop where
  succeeds : outcome = .ok () ↔ events.any Event.stores = true
  uncounted : events.any Event.stores = true ->
    final.journal.metrics.failedUploads = depot.journal.metrics.failedUploads
  raises : forall raised, outcome = .error raised ->
    (forall uploadId abort, abortFailure? events = some (uploadId, abort) ->
      abort.isA .ordinary = true) ->
    (forall failure, depot.closeFailure? = some failure -> failure.isA .ordinary = true) ->
      exists trouble reported, trouble? = some trouble ∧ trouble.RaisedAs problem reported ∧
        raised.SameError reported

def WriteEnds
    (problem : Problem)
    (trouble? : Option Trouble)
    (depot final : Depot)
    (events : List Event)
    (outcome : Except Failure Unit) : Prop :=
  match depot.failedReturn? events with
  | none => Decided problem trouble? depot final events outcome
  | some failure => exists raised reported, outcome = .error raised ∧
      (Trouble.other failure).RaisedAs problem reported ∧ raised.SameError reported

section Decided

variable {problem : Problem} {trouble? : Option Trouble} {depot final : Depot}
variable {events : List Event}

theorem decided_stored
    (stores : events.any Event.stores = true)
    (failures : final.journal.metrics.failedUploads = depot.journal.metrics.failedUploads) :
    Decided problem trouble? depot final events (.ok ()) where
  succeeds := iff_of_true rfl stores
  uncounted _ := failures
  raises _ impossible := by cases impossible

theorem decided_failed
    {trouble : Trouble}
    {raised : Failure}
    (unstored : events.any Event.stores = false)
    (found : trouble? = some trouble)
    (same : (forall uploadId abort, abortFailure? events = some (uploadId, abort) ->
        abort.isA .ordinary = true) ->
      (forall failure, depot.closeFailure? = some failure -> failure.isA .ordinary = true) ->
        raised.SameError (trouble.failure.wrapped problem)) :
    Decided problem trouble? depot final events (.error raised) where
  succeeds := iff_of_false (fun impossible => by cases impossible) (by simp [unstored])
  uncounted stores := by cases unstored.symm.trans stores
  raises other isRaised abortOrdinary closeOrdinary := by
    cases isRaised
    exact ⟨trouble, _, found, trouble.raisedAs_wrapped problem, same abortOrdinary closeOrdinary⟩

theorem writeEnds_lost
    {failure raised : Failure}
    {outcome : Except Failure Unit}
    (lost : depot.failedReturn? events = some failure)
    (fails : outcome = .error raised)
    (same : raised.SameError (failure.wrapped problem)) :
    WriteEnds problem trouble? depot final events outcome := by
  rw [WriteEnds, lost]
  exact ⟨raised, _, fails, Trouble.raisedAs_wrapped (.other failure) problem, same⟩

theorem writeEnds_decided
    {outcome : Except Failure Unit}
    (returned : depot.failedReturn? events = none)
    (decided : Decided problem trouble? depot final events outcome) :
    WriteEnds problem trouble? depot final events outcome := by
  rw [WriteEnds, returned]
  exact decided

theorem WriteEnds.unlogged
    {level event : String}
    {fields : List (String × Value)}
    {outcome : Except Failure Unit}
    (ends : WriteEnds problem trouble?
      { depot with journal := depot.journal.log level event fields } final events outcome) :
    WriteEnds problem trouble? depot final events outcome := by
  have same : Depot.failedReturn? { depot with journal := depot.journal.log level event fields }
      events = depot.failedReturn? events := rfl
  rw [WriteEnds, same] at ends
  rw [WriteEnds]
  cases returned : depot.failedReturn? events with
  | none =>
    rw [returned] at ends
    exact ⟨ends.succeeds, ends.uncounted, ends.raises⟩
  | some failure =>
    rw [returned] at ends
    exact ends

end Decided

section Ends

variable {container : Container} {key : String} {size : Int} {depot next : Depot}
variable {outcome : Except Failure Unit} {events : List Event}

theorem SingleTold.ends
    (told : SingleTold container key size depot outcome (events.filter Event.isWork) next)
    (history : next.journal.history = depot.journal.history ++ events) :
    WriteEnds (.putFailed key) (container.trouble? depot (putTrouble? size events)) depot next
      events outcome := by
  generalize isWork : events.filter Event.isWork = work at told
  have stores := any_stores_work events
  have answered := abortAnswer?_work events
  have troubled := putTrouble?_work size events
  rw [isWork] at stores answered troubled
  have quiet (unaborted : abortAnswer? work = none) :
      depot.failedReturn? events = depot.failedClose? events := by
    simp [Depot.failedReturn?, <- answered, unaborted]
  cases told with
  | refused failure _ cannot closes =>
    apply writeEnds_decided ((quiet rfl).trans (Depot.failedClose?_of_closes closes history))
    exact decided_failed stores.symm (container.trouble?_refused cannot _) (fun _ _ => ⟨rfl, rfl⟩)
  | stored _ _ _ told _ returned failures =>
    apply writeEnds_decided ((quiet told.unaborted).trans (returned.failedClose? history))
    exact decided_stored (stores.symm.trans told.stored) failures
  | failed failure _ _ _ told lends returned =>
    apply writeEnds_decided ((quiet told.unaborted).trans (returned.failedClose? history))
    obtain ⟨trouble, found, rfl⟩ := Option.map_eq_some_iff.mp told.troubled
    have found := (container.trouble?_lends lends _).trans (troubled.symm.trans found)
    exact decided_failed (stores.symm.trans told.stored) found (fun _ _ => ⟨rfl, rfl⟩)
  | lost failure _ _ _ told _ returned =>
    have lost := (quiet told.unaborted).trans (returned.failedClose?_of_failure history)
    exact writeEnds_lost lost rfl ⟨rfl, rfl⟩

theorem UploadTold.ends
    (told : UploadTold container key size depot outcome (events.filter Event.isWork) next)
    (history : next.journal.history = depot.journal.history ++ events) :
    WriteEnds (.uploadFailed key) (container.trouble? depot (partsTrouble? key size events)) depot
      next events outcome := by
  generalize isWork : events.filter Event.isWork = work at told
  have stores := any_stores_work events
  have started := startedUpload?_work events
  have answered := abortAnswer?_work events
  rw [isWork] at stores started answered
  have quiet (unaborted : abortAnswer? work = none) :
      depot.failedReturn? events = depot.failedClose? events := by
    simp [Depot.failedReturn?, <- answered, unaborted]
  cases told with
  | refused failure _ cannot closes =>
    apply writeEnds_decided ((quiet rfl).trans (Depot.failedClose?_of_closes closes history))
    exact decided_failed stores.symm (container.trouble?_refused cannot _) (fun _ _ => ⟨rfl, rfl⟩)
  | stored _ _ _ tried unaborted returned failures =>
    apply writeEnds_decided ((quiet unaborted).trans (returned.failedClose? history))
    exact decided_stored (stores.symm.trans tried.stored) failures
  | failed trouble _ _ _ tried _ unaborted returned =>
    apply writeEnds_decided ((quiet unaborted).trans (returned.failedClose? history))
    subst isWork
    exact decided_failed (stores.symm.trans tried.stored) tried.trouble? (fun _ _ => ⟨rfl, rfl⟩)
  | abandoned trouble uploadId _ _ _ tried _ unaborted returned =>
    apply writeEnds_decided ((quiet unaborted).trans (returned.failedClose? history))
    subst isWork
    apply decided_failed (stores.symm.trans tried.stored) tried.trouble?
    intro _ _
    exact Failure.sameError_afterAbort (fun failure same => by cases same; rfl) _ uploadId
  | aborted trouble uploadId answer given _ _ tried begun asked returned =>
    have aborted : depot.failedReturn? events = none := by
      simp [Depot.failedReturn?, <- answered, asked]
    apply writeEnds_decided aborted
    subst isWork
    apply decided_failed (stores.symm.trans tried.stored) tried.trouble?
    intro abortOrdinary closeOrdinary
    apply Failure.sameError_afterAbort
    intro failure fails
    cases given with
    | error _ =>
      cases fails
      exact closeOrdinary failure returned.2
    | ok _ =>
      cases answer with
      | ok _ => cases fails
      | error fault =>
        cases fails
        apply abortOrdinary uploadId
        simp [abortFailure?, <- started, <- answered, begun, asked]
  | lost failure raised _ _ _ unaborted returned raises =>
    have lost := (quiet unaborted).trans (returned.failedClose?_of_failure history)
    apply writeEnds_lost lost rfl
    rcases raises with rfl | ⟨uploadId, rfl⟩
    next => exact ⟨rfl, rfl⟩
    next => exact Failure.sameError_afterAbort (fun failure same => by cases same; rfl) _ uploadId

end Ends

def Container.writeTrouble?
    (container : Container)
    (key : String)
    (size : Int)
    (depot : Depot)
    (events : List Event) : Option Trouble :=
  container.trouble? depot
    (if size <= container.bufferSize then putTrouble? size events
    else partsTrouble? key size events)

def Container.writeProblem (container : Container) (key : String) (size : Int) : Problem :=
  if size <= container.bufferSize then .putFailed key else .uploadFailed key

theorem Lent.writeBlob
    {origin depot : Depot}
    {borrowers : Nat}
    {container : Container}
    {size : Int}
    (lent : Lent origin borrowers depot)
    (leavesOpen : LeavesOpen container.store origin.schedule)
    (accepted : container.store.config.Accepts size)
    (name : String)
    (failIfExists : Bool) :
    Yields (container.writeBlob name size failIfExists) depot (fun outcome next =>
      forall events, next.journal.history = depot.journal.history ++ events ->
        WriteEnds (container.writeProblem (container.key name) size)
          (container.writeTrouble? (container.key name) size depot events) depot next events
          outcome) := by
  have uploads : forall left, Lent origin borrowers left ->
      Yields (if size <= container.bufferSize then container.uploadSingle (container.key name) size
        else container.uploadMultipart (container.key name) size) left (fun outcome next =>
          forall events, next.journal.history = left.journal.history ++ events ->
            WriteEnds (container.writeProblem (container.key name) size)
              (container.writeTrouble? (container.key name) size left events) left next events
              outcome) := by
    intro left lentLeft
    have isWork {next : Depot} {work events : List Event} (trace : next.trace = left.trace ++ work)
        (history : next.journal.history = left.journal.history ++ events) :
        events.filter Event.isWork = work := by
      rw [Depot.trace, Depot.trace, history, List.filter_append] at trace
      exact List.append_cancel_left trace
    by_cases small : size <= container.bufferSize
    next =>
      simp only [Container.writeProblem, Container.writeTrouble?, if_pos small]
      refine (lentLeft.uploadSingle leavesOpen small _).mono (fun outcome next done => ?_)
      obtain ⟨work, trace, told⟩ := done
      intro events history
      rw [<- isWork trace history] at told
      exact told.ends history
    next =>
      simp only [Container.writeProblem, Container.writeTrouble?, if_neg small]
      obtain ⟨most, divisible⟩ := accepted.resolve_left small
      have least : container.store.config.minMultipartSize <= size := by
        have least := container.minMultipartSize_le
        omega
      refine (lentLeft.uploadMultipart leavesOpen least most divisible _).mono
        (fun outcome next done => ?_)
      obtain ⟨work, trace, told⟩ := done
      intro events history
      rw [<- isWork trace history] at told
      exact told.ends history
  rw [Container.writeBlob]
  cases failIfExists with
  | false => exact uploads depot lent
  | true =>
    -- The entry that is made first changes nothing that decides.
    refine yields_log _ (Yields.mono (uploads _ (lent.logs rfl)) (fun outcome next ends => ?_))
    intro events history
    have ends := ends events history
    have lends (level event : String) (fields : List (String × Value)) :=
      lent.acquire_logs leavesOpen (show (depot.journal.log level event fields).events = _ from rfl)
    rw [Container.writeTrouble?, Container.trouble?, lends] at ends
    exact ends.unlogged

/-- A write by either route comes to what its requests come to, if the client that is given back
can be closed.  If it cannot, the write fails with that, even though the object may be stored. -/
theorem writeBlob_ends
    (container : Container)
    (origin : Depot)
    (steps : List StoreStep)
    (name : String)
    (source : Source)
    (size : Int)
    (failIfExists : Bool)
    (leavesOpen : LeavesOpen container.store origin.schedule)
    (opened : origin.closed = false)
    (unmade : origin.current = none)
    (accepted : container.store.config.Accepts size) :
    let depot := { (Tenancy.run container.store origin steps).depot with source := source }
    let ran := container.writeBlob name size failIfExists depot
    exists events, ran.2.journal.history = depot.journal.history ++ events ∧
      WriteEnds (container.writeProblem (container.key name) size)
        (container.writeTrouble? (container.key name) size depot events) depot ran.2 events
        ran.1 := by
  intro depot ran
  have lent : Lent origin _ depot := Tenancy.lent_sourced leavesOpen opened unmade steps source
  obtain ⟨events, history⟩ := writeBlob_grown container name size failIfExists depot
  exact ⟨events, history,
    lent.writeBlob leavesOpen accepted name failIfExists events history⟩

theorem writeBlob_ends_closed_midway :
    let container : Container := ⟨.small, {}⟩
    let schedule := Schedule.calm.add .uploadPart [2]
      { closesStore := true, outcome := some (.error (.of (.transport .noCredentials))) }
    let origin : Depot := { schedule := schedule }
    let depot := { (Tenancy.run container.store origin []).depot with
      source := .ofBody (.bytes [97, 98, 99, 100, 101]) }
    let ran := container.writeBlob "x" 5 false depot
    let events := ran.2.journal.history
    LeavesOpen container.store origin.schedule ∧ origin.closed = false ∧ origin.current = none ∧
      container.store.config.Accepts 5 ∧ depot.failedReturn? events = none ∧
      Decided (.uploadFailed "x") (container.writeTrouble? "x" 5 depot events) depot ran.2 events
        ran.1 := by
  intro container schedule origin depot ran events
  have leavesOpen : LeavesOpen container.store origin.schedule :=
    (leavesOpen_calm .small).add (by decide) [2]
  have accepted : container.store.config.Accepts 5 := by decide
  obtain ⟨all, history, ends⟩ := writeBlob_ends container origin [] "x"
    (.ofBody (.bytes [97, 98, 99, 100, 101])) 5 false leavesOpen rfl rfl accepted
  have same : events = all := history
  subst same
  have returned : depot.failedReturn? events = none :=
    Option.isNone_iff_eq_none.mp (by decide +kernel)
  have key : container.key "x" = "x" := by decide +kernel
  rw [WriteEnds, show Depot.failedReturn? _ events = none from returned, key] at ends
  exact ⟨leavesOpen, rfl, rfl, accepted, returned, ends⟩

/-- A client that cannot be closed hides the failure of a part, and it makes an upload fail that was
completed, which is counted as failed. -/
theorem unclosable_client_hides_outcome :
    let container : Container := ⟨.small, {}⟩
    let unclosable : Failure := .of (.raised .runtime [.text "close failed"] .null .null)
    let calm := Schedule.calm.add .close [1] { outcome := some (.error unclosable) }
    let failing : Depot :=
      { schedule := calm.add .uploadPart [2]
          { closesStore := true, outcome := some (.error (.of (.transport .noCredentials))) }
        source := .ofBody (.bytes [97, 98, 99, 100, 101]) }
    let completing : Depot :=
      { schedule := calm.add .completeUpload [1] { closesStore := true }
        source := .ofBody (.bytes [97, 98, 99, 100, 101]) }
    let failed := container.writeBlob "x" 5 false failing
    let completed := container.writeBlob "x" 5 false completing
    let trouble := container.writeTrouble? "x" 5 failing failed.2.journal.history
    trouble.map (fun trouble => (trouble.failure.wrapped (.uploadFailed "x")).kind) =
        some .blobIO ∧
      failed.1.mapError Failure.kind = .error .runtime ∧
      completed.2.journal.history.any Event.stores = true ∧
      completed.1.mapError Failure.kind = .error .runtime ∧
      completed.2.journal.metrics.failedUploads = 1 := by
  decide +kernel

end BlobDepot
