import BlobDepot.Proofs.Tenancy
import BlobDepot.Proofs.UploadTroubles

set_option autoImplicit false

namespace BlobDepot

open BlobDepot.Action

inductive PlanTold
    (container : Container)
    (key : String)
    (size : Int)
    (origin : Depot)
    (borrowers : Nat)
    (depot : Depot) : UploadProgress × Except Failure ActiveSession -> Depot -> Prop
  | refused (failure : Failure) (next : Depot)
      (cannot : (container.store.acquire depot).1 = .error failure)
      (apart : Apart depot next) (closes : next.closes = depot.closes) :
      PlanTold container key size origin borrowers depot (.notStarted, .error failure) next
  | returned (ended : UploadProgress × Except Failure ActiveSession) (last : Bool)
      (events : List Event) (left next : Depot)
      (lends : (container.store.acquire depot).1 = .ok origin.references.length)
      (traced : Traced depot events left) (told : PartsTold key size ended events)
      (back : GivenBack origin borrowers left (.ok last) next) :
      PlanTold container key size origin borrowers depot ended next
  | lost (ended : UploadProgress × Except Failure ActiveSession) (failure : Failure)
      (events : List Event) (left next : Depot)
      (lends : (container.store.acquire depot).1 = .ok origin.references.length)
      (traced : Traced depot events left) (told : PartsTold key size ended events)
      (back : GivenBack origin borrowers left (.error failure) next) :
      PlanTold container key size origin borrowers depot (ended.1, .error failure) next

inductive AbortTold (origin : Depot) (session : ActiveSession) (depot : Depot) :
    Except Failure Unit -> List Event -> Depot -> Prop
  | refused (next : Depot) (closed : depot.closed = true) (closes : next.closes = depot.closes) :
      AbortTold origin session depot (.error (.of (.state .storeClosed))) [] next
  | asked (answer : Except Failure Answer) (given : Except Failure Bool) (next : Depot)
      (opened : depot.closed = false) (returned : Returned origin given next) :
      AbortTold origin session depot
        (given.bind (fun _ =>
          (answer.map (fun _ => ())).mapError (fun failure => failure.told session.abortion.doing)))
        (session.abortion.events answer) next

theorem Returned.of_closes
    {origin depot next last : Depot}
    {given : Except Failure Bool}
    (returned : Returned origin given next)
    (schedule : depot.schedule = origin.schedule)
    (same : depot.closes = origin.closes)
    (closes : last.closes = next.closes) :
    Returned depot given last := by
  have failure := Depot.closeFailure?_of_closes schedule same
  cases given <;> simpa [Returned, closes, same, failure] using returned

section Ends

variable {origin depot : Depot} {borrowers : Nat} {container : Container}

theorem Lent.borrowForPlan
    (lent : Lent origin borrowers depot)
    (leavesOpen : LeavesOpen container.store origin.schedule)
    (key : String)
    (size : Int)
    (plan : PartPlan) :
    Yields (container.borrowForPlan key size plan) depot (fun result next =>
      exists ended, result = .ok ended ∧
        PlanTold container key size origin borrowers depot ended next) := by
  have lends : Yields container.store.acquire depot (fun outcome next =>
      Borrows origin borrowers depot outcome next ∧ (container.store.acquire depot).1 = outcome) :=
    ⟨lent.borrows leavesOpen, rfl⟩
  refine lends.attempt_bind (fun outcome middle borrowed => ?_)
  cases outcome with
  | error failure =>
    obtain ⟨⟨_, apart, closes⟩, cannot⟩ := borrowed
    exact ⟨_, rfl, .refused failure middle cannot apart closes⟩
  | ok reference =>
    obtain ⟨⟨rfl, _, lentMiddle, apart⟩, lends⟩ := borrowed
    refine Yields.bind (lentMiddle.followPlan container key size plan) (fun result left done => ?_)
      (fun failure left done => ?_)
    · obtain ⟨lentLeft, events, traced, ended, same, told⟩ := done
      cases same
      have traced : Traced depot events left := by simpa using apart.traced.trans traced
      refine lentLeft.givesBack.attempt_bind (fun given next back => ?_)
      cases given with
      | ok last => exact ⟨_, rfl, .returned result last events left next lends traced told back⟩
      | error failure =>
        exact ⟨_, rfl, .lost result failure events left next lends traced told back⟩
    · obtain ⟨_, _, _, _, impossible, _⟩ := done
      cases impossible

theorem Lent.abortUpload
    (lent : Lent origin borrowers depot)
    (leavesOpen : LeavesOpen container.store origin.schedule)
    (usable : depot.closed = false -> depot.current ≠ none)
    (session : ActiveSession) :
    Yields (container.store.borrowing
        (Client.abortUpload session.bucket session.key session.uploadId)) depot
      (fun aborted next => exists events, next.trace = depot.trace ++ events ∧
        AbortTold origin session depot aborted events next) := by
  have works : forall middle, Apart depot middle -> Lent origin (borrowers + 1) middle ->
      Yields (Client.abortUpload session.bucket session.key session.uploadId) middle
        (fun outcome left => Lent origin (borrowers + 1) left ∧ exists answer,
          left.trace = depot.trace ++ session.abortion.events answer ∧
          outcome = (answer.map (fun _ => ())).mapError
            (fun failure => failure.told session.abortion.doing)) := by
    intro middle apart lentMiddle
    refine Yields.bind (lentMiddle.asks session.abortion) (fun answer left asked => ?_)
      (fun failure left asked => ?_)
    · obtain ⟨lentLeft, _, traced, given, rfl, same⟩ := asked
      cases given with
      | error _ => cases same
      | ok _ =>
        have trace := traced.trace
        rw [apart.trace] at trace
        exact ⟨lentLeft, .ok _, trace, rfl⟩
    · obtain ⟨lentLeft, _, traced, given, rfl, same⟩ := asked
      cases given with
      | ok _ => cases same
      | error fault =>
        cases same
        exact ⟨lentLeft, .error fault, by rw [traced.trace, apart.trace], rfl⟩
  refine (lent.borrowing leavesOpen works).mono (fun outcome next loaned => ?_)
  cases loaned with
  | refused failure _ cannot _ apart closes =>
    have closed : depot.closed = true := by
      by_contra opened
      rw [Bool.not_eq_true] at opened
      rw [lent.acquire_of_open container.store opened (usable opened)] at cannot
      cases cannot
    rw [acquire_of_closed container.store closed] at cannot
    cases cannot
    exact ⟨[], by rw [apart.trace, List.append_nil], .refused next closed closes⟩
  | returned outcome given left _ lends worked back =>
    obtain ⟨answer, traced, rfl⟩ := worked
    exact ⟨_, by rw [back.apart.trace, traced],
      .asked answer given next (opened_of_lends lends) back.returned⟩

def Failure.wrapped (problem : Problem) (failure : Failure) : Failure :=
  if failure.isA .backend then .because problem failure else failure

theorem withUploadCause_uploadFailure (key : String) (failure : Failure) :
    Container.withUploadCause (Container.uploadFailure key failure) failure =
      failure.wrapped (.uploadFailed key) := by
  by_cases backend : failure.isA .backend = true <;>
    simp [Container.withUploadCause, Container.uploadFailure, Failure.wrapped, backend, Failure.of,
      Failure.because]

theorem withUploadCause_attachAbort (key uploadId : String) (failure abort : Failure) :
    Container.withUploadCause
        (Container.attachAbort uploadId (Container.uploadFailure key failure) abort) failure =
      Container.attachAbort uploadId (failure.wrapped (.uploadFailed key)) abort := by
  by_cases backend : failure.isA .backend = true
  next =>
    simp only [Container.withUploadCause, Container.uploadFailure, Failure.wrapped, if_pos backend]
    rfl
  next =>
    simp only [Container.withUploadCause, Container.uploadFailure, Failure.wrapped, if_neg backend]

def Failure.afterAbort (raised : Failure) (uploadId : String) : Except Failure Unit -> Failure
  | .ok () => raised
  | .error abort =>
      if abort.isA .ordinary then Container.attachAbort uploadId raised abort else abort

theorem AbortTold.of_closes
    {session : ActiveSession}
    {aborted : Except Failure Unit}
    {events : List Event}
    {next last : Depot}
    (told : AbortTold origin session depot aborted events next)
    (same : last.closes = next.closes) :
    AbortTold origin session depot aborted events last := by
  cases told with
  | refused _ closed closes => exact .refused last closed (same.trans closes)
  | asked answer given _ opened returned =>
    exact .asked answer given last opened (returned.of_closes rfl rfl same)

theorem Lent.givesUp
    (lent : Lent origin borrowers depot)
    (leavesOpen : LeavesOpen container.store origin.schedule)
    (usable : depot.closed = false -> depot.current ≠ none)
    (key : String)
    (session : ActiveSession)
    (failure : Failure) :
    Yields (container.giveUp key (.active session) failure) depot (fun outcome next =>
      exists aborted events,
        outcome = .error ((failure.wrapped (.uploadFailed key)).afterAbort session.uploadId
          aborted) ∧
        next.trace = depot.trace ++ events ∧
        AbortTold origin session depot aborted events next) := by
  have aborts : Yields (container.abort (.active session) (Container.uploadFailure key failure))
      depot (fun outcome next => exists aborted events,
        (match outcome with
          | .ok reported => Container.withUploadCause reported failure =
              (failure.wrapped (.uploadFailed key)).afterAbort session.uploadId aborted
          | .error abort => abort =
              (failure.wrapped (.uploadFailed key)).afterAbort session.uploadId aborted) ∧
        next.trace = depot.trace ++ events ∧
        AbortTold origin session depot aborted events next) := by
    refine (lent.abortUpload leavesOpen usable session).attempt_bind (fun aborted left told => ?_)
    obtain ⟨events, trace, told⟩ := told
    cases aborted with
    | ok _ =>
      refine yields_count _ (yields_log _ ?_)
      exact ⟨.ok (), events, withUploadCause_uploadFailure key failure, trace, told.of_closes rfl⟩
    | error abort =>
      by_cases ordinary : abort.isA .ordinary = true
      next =>
        simp only [if_pos ordinary]
        refine yields_count _ (yields_log _ ?_)
        have attached := withUploadCause_attachAbort key session.uploadId failure abort
        refine ⟨.error abort, events, attached.trans ?_, trace, told.of_closes rfl⟩
        rw [Failure.afterAbort, if_pos ordinary]
      next =>
        simp only [if_neg ordinary]
        refine ⟨.error abort, events, Eq.symm ?_, trace, told⟩
        rw [Failure.afterAbort, if_neg ordinary]
  refine Yields.bind aborts (fun reported left done => ?_) (fun abort left done => ?_)
  · obtain ⟨aborted, events, same, trace, told⟩ := done
    exact yields_count _ ⟨aborted, events, congrArg Except.error same, trace, told.of_closes rfl⟩
  · obtain ⟨aborted, events, rfl, trace, told⟩ := done
    exact ⟨aborted, events, rfl, trace, told⟩

end Ends

structure Tried
    (container : Container)
    (key : String)
    (size : Int)
    (depot : Depot)
    (events : List Event)
    (trouble? : Option Trouble) : Prop where
  lends : exists reference, (container.store.acquire depot).1 = .ok reference
  troubled : partsTrouble? key size events = trouble?
  stored : events.any Event.stores = trouble?.isNone

inductive UploadTold (container : Container) (key : String) (size : Int) (depot : Depot) :
    Except Failure Unit -> List Event -> Depot -> Prop
  | refused (failure : Failure) (next : Depot)
      (cannot : (container.store.acquire depot).1 = .error failure)
      (closes : next.closes = depot.closes) :
      UploadTold container key size depot (.error (failure.wrapped (.uploadFailed key))) [] next
  | stored (last : Bool) (events : List Event) (next : Depot)
      (tried : Tried container key size depot events none)
      (unaborted : abortAnswer? events = none) (returned : Returned depot (.ok last) next)
      (failures : next.journal.metrics.failedUploads = depot.journal.metrics.failedUploads) :
      UploadTold container key size depot (.ok ()) events next
  | failed (trouble : Trouble) (last : Bool) (events : List Event) (next : Depot)
      (tried : Tried container key size depot events (some trouble))
      (unstarted : startedUpload? events = none) (unaborted : abortAnswer? events = none)
      (returned : Returned depot (.ok last) next) :
      UploadTold container key size depot
        (.error (trouble.failure.wrapped (.uploadFailed key))) events next
  | abandoned (trouble : Trouble) (uploadId : String) (last : Bool) (events : List Event)
      (next : Depot) (tried : Tried container key size depot events (some trouble))
      (started : startedUpload? events = some uploadId) (unaborted : abortAnswer? events = none)
      (returned : Returned depot (.ok last) next) :
      UploadTold container key size depot
        (.error ((trouble.failure.wrapped (.uploadFailed key)).afterAbort uploadId
          (.error (.of (.state .storeClosed))))) events next
  | aborted (trouble : Trouble) (uploadId : String) (answer : Except Failure Answer)
      (given : Except Failure Bool) (events : List Event) (next : Depot)
      (tried : Tried container key size depot events (some trouble))
      (started : startedUpload? events = some uploadId)
      (asked : abortAnswer? events = some answer) (returned : Returned depot given next) :
      UploadTold container key size depot
        (.error ((trouble.failure.wrapped (.uploadFailed key)).afterAbort uploadId
          (given.bind (fun _ => (answer.map (fun _ => ())).mapError
            (fun failure => failure.told "Failed to abort multipart upload"))))) events next
  | lost (failure raised : Failure) (events : List Event) (next : Depot)
      (lends : exists reference, (container.store.acquire depot).1 = .ok reference)
      (unaborted : abortAnswer? events = none) (returned : Returned depot (.error failure) next)
      (raises : raised = failure.wrapped (.uploadFailed key) ∨ exists uploadId,
        raised = (failure.wrapped (.uploadFailed key)).afterAbort uploadId
          (.error (.of (.state .storeClosed)))) :
      UploadTold container key size depot (.error raised) events next

theorem yields_unpending
    {container : Container}
    {key : String}
    {progress : UploadProgress}
    {failure : Failure}
    {depot : Depot}
    {expected : Except Failure Unit -> Depot -> Prop}
    (unpending : progress.pending? = none)
    (holds : expected (.error (failure.wrapped (.uploadFailed key)))
      { depot with journal :=
          depot.journal.count (fun metrics => metrics.countUpload .multipart .failure) }) :
    Yields (container.giveUp key progress failure) depot expected := by
  have given : container.abort progress (Container.uploadFailure key failure) depot =
      (.ok (Container.uploadFailure key failure), depot) := by
    cases progress with
    | active session => cases unpending
    | notStarted => rfl
    | completed => rfl
  refine .after given (yields_count _ ?_)
  rw [withUploadCause_uploadFailure]
  exact holds

theorem UploadProgress.of_pending?
    {progress : UploadProgress}
    {uploadId : String}
    (pending : progress.pending? = some uploadId) :
    exists session, progress = .active session ∧ session.uploadId = uploadId := by
  cases progress with
  | active session => exact ⟨session, rfl, Option.some.inj pending⟩
  | notStarted => cases pending
  | completed => cases pending

theorem Tried.abort
    {container : Container}
    {key : String}
    {size : Int}
    {depot : Depot}
    {events : List Event}
    {trouble? : Option Trouble}
    (tried : Tried container key size depot events trouble?)
    (session : ActiveSession)
    (answer : Except Failure Answer) :
    Tried container key size depot (events ++ session.abortion.events answer) trouble? where
  lends := tried.lends
  troubled := by
    rw [<- tried.troubled]
    simp [partsTrouble?, ActiveSession.abortion, Event.trouble?, Event.sentLength]
  stored := by
    rw [<- tried.stored]
    simp [ActiveSession.abortion, Request.events, Event.stores]

def UploadEnds
    (container : Container)
    (key : String)
    (size : Int)
    (depot : Depot)
    (outcome : Except Failure Unit)
    (next : Depot) : Prop :=
  exists events, next.trace = depot.trace ++ events ∧
    UploadTold container key size depot outcome events next

section Whole

variable {origin depot left : Depot} {borrowers : Nat} {container : Container} {key : String}
variable {size : Int} {progress : UploadProgress}

theorem PlanTold.completes
    {session : ActiveSession}
    (told : PlanTold container key size origin borrowers depot (progress, .ok session) left)
    (lent : Lent origin borrowers depot) :
    Yields (do
      count (fun metrics => (metrics.countUpload .multipart .success).countBytes size .multipart)
      log "info" "multipart_upload_completed"
        [("bucket", .text session.bucket),
          ("key", .text key),
          ("upload_id", .text session.uploadId)]) left
      (UploadEnds container key size depot) := by
  cases told with
  | returned _ last events middle _ lends traced told back =>
    have trace : left.trace = depot.trace ++ events := by rw [back.apart.trace, traced.trace]
    have failures : left.journal.metrics.failedUploads = depot.journal.metrics.failedUploads := by
      rw [back.apart.metrics, traced.failures]
    have tried : Tried container key size depot events none :=
      ⟨⟨_, lends⟩, by simpa using told.troubled, told.stored⟩
    have same := lent.closes (.inl (opened_of_lends lends))
    exact yields_count _ ⟨events, trace, .stored last events _ tried told.unaborted
      (back.returned.of_closes lent.sameSchedule same rfl) failures⟩

theorem PlanTold.fails
    {failure : Failure}
    (told : PlanTold container key size origin borrowers depot (progress, .error failure) left)
    (lent : Lent origin borrowers depot)
    (leavesOpen : LeavesOpen container.store origin.schedule) :
    Yields (container.giveUp key progress failure) left
      (UploadEnds container key size depot) := by
  cases told with
  | refused _ _ cannot apart closes =>
    have trace : left.trace = depot.trace ++ [] := apart.traced.trace
    exact yields_unpending rfl ⟨[], trace, .refused failure _ cannot closes⟩
  | returned _ last events middle _ lends traced told back =>
    have trace : left.trace = depot.trace ++ events := by rw [back.apart.trace, traced.trace]
    have same := lent.closes (.inl (opened_of_lends lends))
    obtain ⟨trouble, troubled, rfl⟩ := Option.map_eq_some_iff.mp told.troubled
    have tried : Tried container key size depot events (some trouble) :=
      ⟨⟨_, lends⟩, troubled, told.stored⟩
    have pending : progress.pending? = startedUpload? events := told.pending
    cases started : startedUpload? events with
    | none =>
      exact yields_unpending (pending.trans started) ⟨events, trace, .failed trouble last events _
        tried started told.unaborted (back.returned.of_closes lent.sameSchedule same rfl)⟩
    | some uploadId =>
      obtain ⟨session, rfl, rfl⟩ := UploadProgress.of_pending? (pending.trans started)
      refine (back.lent.givesUp leavesOpen back.usable key session _).mono
        (fun outcome next gaveUp => ?_)
      obtain ⟨aborted, later, rfl, traceNext, abort⟩ := gaveUp
      rw [trace, List.append_assoc] at traceNext
      refine ⟨_, traceNext, ?_⟩
      cases abort with
      | refused _ _ closes =>
        rw [List.append_nil]
        exact .abandoned trouble session.uploadId last events next tried started told.unaborted
          (back.returned.of_closes lent.sameSchedule same closes)
      | asked answer given _ _ returned =>
        exact .aborted trouble session.uploadId answer given _ next (tried.abort session answer)
          (by simp [started]) (by simp [told.unaborted, ActiveSession.abortion, Event.abortAnswer?])
          (returned.of_closes lent.sameSchedule same rfl)
  | lost ended _ events middle _ lends traced told back =>
    have trace : left.trace = depot.trace ++ events := by rw [back.apart.trace, traced.trace]
    have same := lent.closes (.inl (opened_of_lends lends))
    cases pending : ended.1.pending? with
    | none =>
      exact yields_unpending pending ⟨events, trace, .lost failure _ events _ ⟨_, lends⟩
        told.unaborted (back.returned.of_closes lent.sameSchedule same rfl) (.inl rfl)⟩
    | some uploadId =>
      obtain ⟨session, active, rfl⟩ := UploadProgress.of_pending? pending
      rw [active]
      refine (back.lent.givesUp leavesOpen back.usable key session _).mono
        (fun outcome next gaveUp => ?_)
      obtain ⟨aborted, later, rfl, traceNext, abort⟩ := gaveUp
      -- A client that was told to close belongs to a store that was closed.
      cases abort with
      | refused _ _ closes =>
        rw [trace, List.append_nil] at traceNext
        exact ⟨events, traceNext, .lost failure _ events next ⟨_, lends⟩ told.unaborted
          (back.returned.of_closes lent.sameSchedule same closes) (.inr ⟨session.uploadId, rfl⟩)⟩
      | asked _ _ _ opened _ => cases (back.shut failure rfl).symm.trans opened

theorem Lent.uploadMultipart
    (lent : Lent origin borrowers depot)
    (leavesOpen : LeavesOpen container.store origin.schedule)
    (least : container.store.config.minMultipartSize <= size)
    (most : size <= container.store.config.maxMultipartSize)
    (divisible : size <= Limits.partCount * container.bufferSize)
    (key : String) :
    Yields (container.uploadMultipart key size) depot
      (UploadEnds container key size depot) := by
  refine .uploadMultipart least most divisible
    (fun plan _ => lent.borrowForPlan leavesOpen key size plan)
    (fun progress session left done => ?_) (fun progress failure left done => ?_)
    (fun failure left done => ?_)
  · obtain ⟨_, same, told⟩ := done
    cases same
    exact told.completes lent
  · obtain ⟨_, same, told⟩ := done
    cases same
    exact told.fails lent leavesOpen
  · obtain ⟨_, impossible, _⟩ := done
    cases impossible

end Whole

/-- What is raised for a trouble.  A fault is translated, and what it is translated to is the cause,
as is a failure that the client reports itself; any other failure is raised as it is. -/
structure Trouble.RaisedAs (trouble : Trouble) (problem : Problem) (raised : Failure) : Prop where
  translated : forall request fault, trouble = .asked request fault -> fault.IsFault ->
    raised = .because problem (fault.reported request.doing) ∧
      (fault.reported request.doing).isA .backend = true ∧
      (fault.reported request.doing).cause = some fault
  wrapped : forall failure, trouble = .other failure -> failure.isA .backend = true ->
    raised = .because problem failure
  itself : forall failure, trouble = .other failure -> failure.isA .backend = false ->
    raised = failure

theorem Trouble.raisedAs_wrapped (trouble : Trouble) (problem : Problem) :
    trouble.RaisedAs problem (trouble.failure.wrapped problem) where
  translated request fault same isFault := by
    subst same
    have backend := isFault.reported_backend request.doing
    exact ⟨if_pos backend, backend, isFault.reported_cause request.doing⟩
  wrapped failure same backend := by
    subst same
    exact if_pos backend
  itself failure same other := by
    subst same
    exact if_neg (by simp [Trouble.failure, other])

def Container.trouble?
    (container : Container)
    (depot : Depot)
    (shown : Option Trouble) : Option Trouble :=
  match (container.store.acquire depot).1 with
  | .error failure => some (.other failure)
  | .ok _ => shown

theorem Container.trouble?_refused
    (container : Container)
    {depot : Depot}
    {failure : Failure}
    (cannot : (container.store.acquire depot).1 = .error failure)
    (shown : Option Trouble) :
    container.trouble? depot shown = some (.other failure) := by
  rw [trouble?, cannot]

theorem Container.trouble?_lends
    (container : Container)
    {depot : Depot}
    (lends : exists reference, (container.store.acquire depot).1 = .ok reference)
    (shown : Option Trouble) :
    container.trouble? depot shown = shown := by
  obtain ⟨reference, lends⟩ := lends
  rw [trouble?, lends]

/-- The failure to abort the upload that was started.  The store that does not even ask for the
abort was closed. -/
def abortFailure? (events : List Event) : Option (String × Failure) :=
  match startedUpload? events, abortAnswer? events with
  | none, _ | some _, some (.ok _) => none
  | some uploadId, none => some (uploadId, .of (.state .storeClosed))
  | some uploadId, some (.error failure) =>
      some (uploadId, failure.told "Failed to abort multipart upload")

def Failure.withAbort (raised : Failure) : Option (String × Failure) -> Failure
  | none => raised
  | some (uploadId, abort) =>
      if raised.isA .blobIO then
        { raised with suppressed := raised.suppressed ++ [abort] }
      else
        { raised with
          notes := raised.notes ++
            ["Failed to abort multipart upload " ++ uploadId ++ ": " ++ abort.quoted] }

theorem Failure.afterAbort_error
    {abort : Failure}
    (ordinary : abort.isA .ordinary = true)
    (raised : Failure)
    (uploadId : String) :
    raised.afterAbort uploadId (.error abort) = raised.withAbort (some (uploadId, abort)) := by
  rw [Failure.afterAbort, if_pos ordinary, Container.attachAbort, Failure.withAbort]
  rfl

theorem Tried.trouble?
    {container : Container}
    {key : String}
    {size : Int}
    {depot : Depot}
    {events : List Event}
    {trouble? : Option Trouble}
    (tried : Tried container key size depot (events.filter Event.isWork) trouble?) :
    container.trouble? depot (partsTrouble? key size events) = trouble? := by
  have troubled := tried.troubled
  simp only [partsTrouble?, firstTrouble?_work, sentLength_work] at troubled
  exact (container.trouble?_lends tried.lends _).trans troubled

theorem UploadTold.raises
    {container : Container}
    {key : String}
    {size : Int}
    {depot next : Depot}
    {outcome : Except Failure Unit}
    {events : List Event}
    (told : UploadTold container key size depot outcome (events.filter Event.isWork) next)
    (history : next.journal.history = depot.journal.history ++ events)
    (givenBack : depot.failedClose? events = none)
    (ordinary : forall uploadId abort, abortFailure? events = some (uploadId, abort) ->
      abort.isA .ordinary = true) :
    match container.trouble? depot (partsTrouble? key size events) with
    | none => outcome = .ok ()
    | some trouble => exists raised, trouble.RaisedAs (.uploadFailed key) raised ∧
        outcome = .error (raised.withAbort (abortFailure? events)) := by
  generalize isWork : events.filter Event.isWork = work at told
  have startedWork := startedUpload?_work events
  have answered := abortAnswer?_work events
  rw [isWork] at startedWork answered
  cases told with
  | refused failure _ cannot _ =>
    have trouble := container.trouble?_refused cannot (partsTrouble? key size events)
    have unaborted : abortFailure? events = none := by simp [abortFailure?, <- startedWork]
    rw [trouble, unaborted]
    exact ⟨_, Trouble.raisedAs_wrapped (.other failure) _, rfl⟩
  | stored _ _ _ tried =>
    subst isWork
    rw [tried.trouble?]
  | failed trouble _ _ _ tried unstarted =>
    subst isWork
    have unaborted : abortFailure? events = none := by
      simp [abortFailure?, <- startedWork, unstarted]
    rw [tried.trouble?, unaborted]
    exact ⟨_, trouble.raisedAs_wrapped _, rfl⟩
  | abandoned trouble uploadId _ _ _ tried started unaborted =>
    subst isWork
    have failed : abortFailure? events = some (uploadId, .of (.state .storeClosed)) := by
      simp [abortFailure?, <- startedWork, <- answered, started, unaborted]
    rw [tried.trouble?, failed]
    exact ⟨_, trouble.raisedAs_wrapped _, congrArg _ (Failure.afterAbort_error rfl _ uploadId)⟩
  | aborted trouble uploadId answer given _ _ tried started asked returned =>
    subst isWork
    cases given with
    | error failure => cases givenBack.symm.trans (returned.failedClose?_of_failure history)
    | ok last =>
      rw [tried.trouble?]
      refine ⟨_, trouble.raisedAs_wrapped _, ?_⟩
      cases answer with
      | ok _ =>
        have granted : abortFailure? events = none := by
          simp [abortFailure?, <- startedWork, <- answered, started, asked]
        rw [granted]
        rfl
      | error failure =>
        have failed : abortFailure? events =
            some (uploadId, failure.told "Failed to abort multipart upload") := by
          simp [abortFailure?, <- startedWork, <- answered, started, asked]
        rw [failed]
        exact congrArg _ (Failure.afterAbort_error (ordinary _ _ failed) _ uploadId)
  | lost failure _ _ _ _ _ returned =>
    cases givenBack.symm.trans (returned.failedClose?_of_failure history)

/-- An upload in parts, of a size that its checks let pass, raises what is made of the first
trouble it meets.  A failure to abort the upload is attached to that, and the store may have been
closed meanwhile, but the client that is given back has to close as it should. -/
theorem uploadMultipart_raises
    (container : Container)
    (origin : Depot)
    (steps : List StoreStep)
    (key : String)
    (source : Source)
    (size : Int)
    (leavesOpen : LeavesOpen container.store origin.schedule)
    (opened : origin.closed = false)
    (unmade : origin.current = none)
    (least : container.store.config.minMultipartSize <= size)
    (most : size <= container.store.config.maxMultipartSize)
    (divisible : size <= Limits.partCount * container.bufferSize) :
    let depot := { (Tenancy.run container.store origin steps).depot with source := source }
    let ran := container.uploadMultipart key size depot
    exists events, ran.2.journal.history = depot.journal.history ++ events ∧
      (depot.failedClose? events = none ->
        (forall uploadId abort, abortFailure? events = some (uploadId, abort) ->
          abort.isA .ordinary = true) ->
        match container.trouble? depot (partsTrouble? key size events) with
        | none => ran.1 = .ok ()
        | some trouble => exists raised, trouble.RaisedAs (.uploadFailed key) raised ∧
            ran.1 = .error (raised.withAbort (abortFailure? events))) := by
  intro depot ran
  have lent : Lent origin _ depot := Tenancy.lent_sourced leavesOpen opened unmade steps source
  obtain ⟨events, history⟩ : Grown depot ran.2 :=
    ((aloof_grown depot).lending container.store).uploadMultipart (fun _ => lasting_grown depot)
      (fun _ _ => trivial) size depot (Grown.refl depot)
  refine ⟨events, history, ?_⟩
  obtain ⟨work, trace, told⟩ := lent.uploadMultipart leavesOpen least most divisible key
  have isWork : events.filter Event.isWork = work := by
    rw [Depot.trace, Depot.trace, history, List.filter_append] at trace
    exact List.append_cancel_left trace
  rw [<- isWork] at told
  exact told.raises history

theorem uploadMultipart_raises_abort_failing :
    let container : Container := ⟨.small, {}⟩
    let fails : Disruption := { outcome := some (.error (.of (.transport .noCredentials))) }
    let schedule := (Schedule.calm.add .uploadPart [2] fails).add .abortUpload [1] fails
    let origin : Depot := { schedule := schedule }
    let depot := { (Tenancy.run container.store origin []).depot with
      source := .ofBody (.bytes [1, 2, 3, 4, 5]) }
    let ran := container.uploadMultipart "x" 5 depot
    let events := ran.2.journal.history
    LeavesOpen container.store origin.schedule ∧ origin.closed = false ∧ origin.current = none ∧
      container.store.config.minMultipartSize <= 5 ∧ 5 <= container.store.config.maxMultipartSize ∧
      5 <= Limits.partCount * container.bufferSize ∧
      exists trouble raised, container.trouble? depot (partsTrouble? "x" 5 events) = some trouble ∧
        trouble.RaisedAs (.uploadFailed "x") raised ∧ (abortFailure? events).isSome = true ∧
        ran.1 = .error (raised.withAbort (abortFailure? events)) := by
  intro container fails schedule origin depot ran events
  have leavesOpen : LeavesOpen container.store origin.schedule :=
    ((leavesOpen_calm .small).add (by decide) [2]).add (by decide) [1]
  obtain ⟨all, history, raises⟩ := uploadMultipart_raises container origin [] "x"
    (.ofBody (.bytes [1, 2, 3, 4, 5])) 5 leavesOpen rfl rfl (by decide) (by decide) (by decide)
  have same : events = all := history
  subst same
  have givenBack : depot.failedClose? events = none :=
    Option.isNone_iff_eq_none.mp (by decide +kernel)
  have isOrdinary : (abortFailure? events).all (fun abort => abort.2.isA .ordinary) = true := by
    decide +kernel
  have ordinary : forall uploadId abort, abortFailure? events = some (uploadId, abort) ->
      abort.isA .ordinary = true := by
    intro uploadId abort failed
    rwa [failed] at isOrdinary
  have troubled : (container.trouble? depot (partsTrouble? "x" 5 events)).isSome = true := by
    decide +kernel
  obtain ⟨trouble, found⟩ := Option.isSome_iff_exists.mp troubled
  have raises := raises givenBack ordinary
  rw [show container.trouble? _ (partsTrouble? "x" 5 events) = some trouble from found] at raises
  obtain ⟨raised, isRaised, ends⟩ := raises
  exact ⟨leavesOpen, rfl, rfl, by decide, by decide, by decide, trouble, raised, found, isRaised,
    by decide +kernel, ends⟩

end BlobDepot
