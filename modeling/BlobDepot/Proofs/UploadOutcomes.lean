import BlobDepot.Proofs.Transfers

set_option autoImplicit false

namespace BlobDepot

open BlobDepot.Action

inductive PlanEnded
    (schedule : Schedule)
    (container : Container)
    (key : String)
    (size : Int)
    (depot : Depot)
    (bodies : List Body) : UploadProgress × Except Failure ActiveSession -> Depot -> Prop
  | completed (session : ActiveSession) (next : Depot)
      (isSession : session =
        (container.session key depot.service.nextUpload).withParts bodies)
      (whole : session.bytesSent = size)
      (passed : Passed depot (container.sendEvents key depot.service.nextUpload bodies ++
        session.completion.events (.ok .empty)) (Metrics.countParts bodies) next) :
      PlanEnded schedule container key size depot bodies (.completed, .ok session) next
  | incomplete (session : ActiveSession) (next : Depot)
      (isSession : session =
        (container.session key depot.service.nextUpload).withParts bodies)
      (short : session.bytesSent ≠ size)
      (passed : Passed depot (container.sendEvents key depot.service.nextUpload bodies)
        (Metrics.countParts bodies) next) :
      PlanEnded schedule container key size depot bodies
        (.active session, .error (.of (.sizeMismatch session.key size session.bytesSent))) next
  | failed (progress : UploadProgress) (failure : Failure) (next : Depot)
      (faulted : Faulted schedule depot failure next) :
      PlanEnded schedule container key size depot bodies (progress, .error failure) next

theorem PlanEnded.around
    {schedule : Schedule}
    {container : Container}
    {key : String}
    {size : Int}
    {origin depot left next : Depot}
    {bodies : List Body}
    {ended : UploadProgress × Except Failure ActiveSession}
    (before : Idle origin depot)
    (planEnded : PlanEnded schedule container key size depot bodies ended left)
    (later : Idle left next) :
    PlanEnded schedule container key size origin bodies ended next := by
  have same : depot.service.nextUpload = origin.service.nextUpload := by rw [before.service]
  cases planEnded with
  | completed session _ isSession whole passed =>
    rw [same] at isSession passed
    exact .completed session next isSession whole ((passed.since before).later later)
  | incomplete session _ isSession short passed =>
    rw [same] at isSession passed
    exact .incomplete session next isSession short ((passed.since before).later later)
  | failed progress failure _ faulted =>
    exact .failed progress failure next ((faulted.since before.met).later later.met)

namespace Attended

variable {origin depot : Depot} {borrowers : Nat} {container : Container} {size : Int}

theorem followPlan
    (attended : Attended origin (borrowers + 1) depot)
    (faulty : origin.schedule.OnlyFaults)
    (sound : depot.source.Sound)
    {plan : PartPlan}
    (fits : plan.Fits size container.bufferSize)
    (filled : 0 < size)
    (key : String) :
    Yields (container.followPlan key size plan) depot (fun outcome next =>
      exists ended, outcome = .ok ended ∧ Attended origin (borrowers + 1) next ∧
        PlanEnded origin.schedule container key size depot
          (depot.source.pieces (partSizes size container.bufferSize)) ended next) := by
  refine (attended.initiate faulty container key).attempt_bind (fun outcome started done => ?_)
  obtain ⟨attendedStarted, done⟩ := done
  cases outcome with
  | error failure => exact ⟨_, rfl, attendedStarted, .failed _ failure started done⟩
  | ok session =>
    obtain ⟨met, rfl, source, storing, created⟩ := done
    refine attendedStarted.log_bind (fun middle attendedMiddle idle => ?_)
    have sourceMiddle := idle.source.trans source
    refine Yields.bind (attendedMiddle.uploadParts faulty (sourceMiddle ▸ sound)
      (storing.aside idle.toSameWork) plan container.bufferSize plan.partCount.toNat)
      (fun progress left uploaded => ?_) (fun failure left uploaded => ?_)
    · obtain ⟨final, ended, isProgress, attendedLeft, uploaded⟩ := uploaded
      cases isProgress
      cases ended with
      | error failure =>
        have faulted := (Faulted.since idle.met uploaded).since met
        exact ⟨_, rfl, attendedLeft, .failed _ failure left faulted⟩
      | ok _ =>
        obtain ⟨unfaulted, sent⟩ := uploaded
        -- A session that was just started has no parts, so the plan is followed from its first.
        have bodies : plan.sizes container.bufferSize _ plan.partCount.toNat =
            partSizes size container.bufferSize := fits.sizes_one container.bufferSize_pos filled
        have passed := created.trans (sent.passed.since idle)
        have isFinal := sent.parts
        rw [sourceMiddle] at passed isFinal
        refine (attendedLeft.complete faulty sent.storing size).attempt_bind
          (fun outcome next completed => ?_)
        obtain ⟨attendedNext, completed⟩ := completed
        rw [<- bodies]
        cases completed with
        | granted _ whole completed =>
          exact ⟨_, rfl, attendedNext,
            .completed final next isFinal whole (passed.trans completed)⟩
        | untried short => exact ⟨_, rfl, attendedNext, .incomplete final _ isFinal short passed⟩
        | failed failure _ faulted =>
          have faulted := ((faulted.since unfaulted).since idle.met).since met
          exact ⟨_, rfl, attendedNext, .failed _ failure next faulted⟩
    · obtain ⟨_, _, impossible, _⟩ := uploaded
      cases impossible

theorem borrowForPlan
    (attended : Attended origin borrowers depot)
    (faulty : origin.schedule.OnlyFaults)
    (leavesOpen : LeavesOpen container.store origin.schedule)
    (canLend : container.store.CanLend depot)
    (sound : depot.source.Sound)
    {plan : PartPlan}
    (fits : plan.Fits size container.bufferSize)
    (filled : 0 < size)
    (key : String) :
    Yields (container.borrowForPlan key size plan) depot (fun outcome next =>
      exists ended, outcome = .ok ended ∧ Attended origin borrowers next ∧ next.current ≠ none ∧
        PlanEnded origin.schedule container key size depot
          (depot.source.pieces (partSizes size container.bufferSize)) ended next) := by
  refine (attended.acquire leavesOpen canLend).attempt_bind (fun outcome middle acquired => ?_)
  obtain ⟨rfl, attendedMiddle, before⟩ := acquired
  have follows := attendedMiddle.followPlan faulty (before.source ▸ sound) fits filled key
  rw [before.source] at follows
  refine follows.bind (fun ended left followed => ?_) (fun failure left followed => ?_)
  · obtain ⟨_, isEnded, attendedLeft, followed⟩ := followed
    cases isEnded
    -- The store is open, so giving the client back does not fail.
    refine attendedLeft.release.attempt_bind (fun outcome next released => ?_)
    obtain ⟨rfl, attendedNext, later, current⟩ := released
    exact ⟨ended, rfl, attendedNext, current, followed.around before later⟩
  · obtain ⟨_, impossible, _⟩ := followed
    cases impossible

end Attended

inductive AbortEnded
    (schedule : Schedule)
    (session : ActiveSession)
    (failure : Failure)
    (depot : Depot) : Except Failure Failure -> Depot -> Prop
  | granted (next : Depot)
      (passed : Passed depot (session.abortion.events (.ok .empty))
        (fun metrics => metrics.countAbort .success) next) :
      AbortEnded schedule session failure depot (.ok failure) next
  | refused (fault : Failure) (doing : String) (next : Depot)
      (raised : schedule.Raises fault)
      (passed : Passed depot (session.abortion.events (.error fault))
        (fun metrics => metrics.countAbort .failure) next) :
      AbortEnded schedule session failure depot (.ok (failure.suppress (fault.reported doing))) next

namespace Attended

variable {origin depot : Depot} {borrowers : Nat} {container : Container} {size : Int}

theorem abort
    {session : ActiveSession}
    {failure : Failure}
    (attended : Attended origin borrowers depot)
    (faulty : origin.schedule.OnlyFaults)
    (leavesOpen : LeavesOpen container.store origin.schedule)
    (current : depot.current ≠ none)
    (pending : (depot.service.uploads.get? session.uploadId).isSome = true)
    (isIO : failure.isA .blobIO = true) :
    Yields (container.abort (.active session) failure) depot (fun outcome next =>
      Attended origin borrowers next ∧ AbortEnded origin.schedule session failure depot outcome
        next) := by
  obtain ⟨parts, found⟩ := Option.isSome_iff_exists.mp pending
  have works : forall middle, Attended origin (borrowers + 1) middle -> Idle depot middle ->
      Yields (Client.abortUpload session.bucket session.key session.uploadId) middle
        (fun outcome left => Attended origin (borrowers + 1) left ∧
          AbortReplied origin.schedule session depot outcome left) :=
    fun middle attendedMiddle before => (attendedMiddle.abortUpload faulty
      (before.service.symm ▸ found)).mono (fun _ _ done => ⟨done.1, done.2.since before⟩)
  refine (attended.borrowing leavesOpen (.inl current) works).attempt_bind
    (fun outcome next borrowed => ?_)
  obtain ⟨attendedNext, _, left, replied, same⟩ := borrowed
  cases replied with
  | granted _ passed =>
    refine attendedNext.count_bind (fun middle attendedMiddle counted => ?_)
    refine attendedMiddle.log_bind (fun last attendedLast idle => ?_)
    have passed := (passed.later same).counted counted
    exact ⟨attendedLast, .granted last (passed.later idle)⟩
  | refused fault _ isFault raised passed =>
    -- A fault of the abort is attached; it does not hide the failure that led to it.
    have ordinary := isFault.reported_ordinary "Failed to abort multipart upload"
    simp only [ordinary, if_true, Container.attachAbort, isIO]
    refine attendedNext.count_bind (fun middle attendedMiddle counted => ?_)
    refine attendedMiddle.log_bind (fun last attendedLast idle => ?_)
    have passed := (passed.later same).counted counted
    exact ⟨attendedLast, .refused fault _ last raised (passed.later idle)⟩

end Attended

inductive PutEnded
    (schedule : Schedule)
    (container : Container)
    (key : String)
    (size : Int)
    (depot : Depot) : Except Failure Unit -> Depot -> Prop
  | stored (next : Depot)
      (whole : ((depot.source.taken size).length : Int) = size)
      (passed : Passed depot ((Request.putObject container.bucket key (depot.source.taken size) size
        container.store.config.uploadSettings.sent).events (.ok .empty))
        (fun metrics => (metrics.countUpload .single .success).countBytes size .single) next) :
      PutEnded schedule container key size depot (.ok ()) next
  | short (next : Depot)
      (short : ((depot.source.taken size).length : Int) ≠ size)
      (passed : Passed depot [] (fun metrics => metrics.countUpload .single .failure) next) :
      PutEnded schedule container key size depot (.error (.because (.putFailed key)
        (.of (Client.shortStream (depot.source.taken size).length size)))) next
  | failed (failure : Failure) (next : Depot) (faulted : Faulted schedule depot failure next) :
      PutEnded schedule container key size depot (.error (.because (.putFailed key) failure)) next

inductive PartsEnded
    (schedule : Schedule)
    (container : Container)
    (key : String)
    (size : Int)
    (depot : Depot)
    (bodies : List Body) : Except Failure Unit -> Depot -> Prop
  | completed (next : Depot) (session : ActiveSession)
      (isSession : session =
        (container.session key depot.service.nextUpload).withParts bodies)
      (whole : session.bytesSent = size)
      (passed : Passed depot (container.sendEvents key depot.service.nextUpload bodies ++
        session.completion.events (.ok .empty))
        (fun metrics => ((metrics.countParts bodies).countUpload .multipart .success).countBytes
          size .multipart) next) :
      PartsEnded schedule container key size depot bodies (.ok ()) next
  | aborted (next : Depot) (session : ActiveSession)
      (isSession : session =
        (container.session key depot.service.nextUpload).withParts bodies)
      (short : session.bytesSent ≠ size)
      (passed : Passed depot (container.sendEvents key depot.service.nextUpload bodies ++
        session.abortion.events (.ok .empty))
        (fun metrics => ((metrics.countParts bodies).countAbort .success).countUpload .multipart
          .failure) next) :
      PartsEnded schedule container key size depot bodies
        (.error (.of (.sizeMismatch session.key size session.bytesSent))) next
  | abandoned (failure fault : Failure) (next : Depot) (session : ActiveSession)
      (isSession : session =
        (container.session key depot.service.nextUpload).withParts bodies)
      (short : session.bytesSent ≠ size)
      (raised : schedule.Raises fault) :
      PartsEnded schedule container key size depot bodies (.error failure) next
  | failed (reported failure : Failure) (next : Depot)
      (problem : reported.problem = .uploadFailed key)
      (cause : reported.cause = some failure)
      (faulted : Faulted schedule depot failure next) :
      PartsEnded schedule container key size depot bodies (.error reported) next

theorem Faulted.backend
    {schedule : Schedule}
    {depot next : Depot}
    {failure : Failure}
    (faulted : Faulted schedule depot failure next) :
    failure.isA .backend = true := by
  obtain ⟨_, fault, doing, rfl, isFault, _⟩ := faulted
  exact isFault.reported_backend doing

namespace Attended

variable {origin depot : Depot} {borrowers : Nat} {container : Container} {size : Int}

theorem borrowsPut
    (attended : Attended origin borrowers depot)
    (faulty : origin.schedule.OnlyFaults)
    (leavesOpen : LeavesOpen container.store origin.schedule)
    (canLend : container.store.CanLend depot)
    (sound : depot.source.Sound)
    (whole : ((depot.source.taken size).length : Int) = size)
    (key : String) :
    Reports origin borrowers (container.store.borrowing (Client.putObject container.bucket key size
      container.store.config.uploadSettings)) depot (fun _ next =>
        Passed depot ((Request.putObject container.bucket key (depot.source.taken size) size
          container.store.config.uploadSettings.sent).events (.ok .empty)) id next) := by
  refine attended.reportsBorrowed leavesOpen canLend (fun middle attendedMiddle before => ?_)
    (fun _ _ _ idle passed => passed.later idle)
  rw [<- before.source] at whole sound ⊢
  exact (attendedMiddle.putObject faulty sound whole container.bucket key
    container.store.config.uploadSettings).imp (fun _ _ passed => passed.since before)

theorem borrowsPut_short
    (attended : Attended origin borrowers depot)
    (leavesOpen : LeavesOpen container.store origin.schedule)
    (canLend : container.store.CanLend depot)
    (sound : depot.source.Sound)
    (short : ((depot.source.taken size).length : Int) ≠ size)
    (key : String) :
    Yields (container.store.borrowing (Client.putObject container.bucket key size
      container.store.config.uploadSettings)) depot (fun outcome next =>
        Attended origin borrowers next ∧
          outcome = .error (.of (Client.shortStream (depot.source.taken size).length size)) ∧
            Passed depot [] id next) := by
  have works : forall middle, Attended origin (borrowers + 1) middle -> Idle depot middle ->
      Yields (Client.putObject container.bucket key size container.store.config.uploadSettings)
        middle (fun outcome left => Attended origin (borrowers + 1) left ∧
          outcome = .error (.of (Client.shortStream (depot.source.taken size).length size)) ∧
            Passed depot [] id left) := by
    intro middle attendedMiddle before
    rw [<- before.source] at short sound
    obtain ⟨left, ran, attendedLeft, passed⟩ := attendedMiddle.putObject_short sound short
      container.bucket key container.store.config.uploadSettings
    rw [Yields, ran, before.source]
    exact ⟨attendedLeft, rfl, passed.since before⟩
  refine (attended.borrowing leavesOpen canLend works).mono (fun outcome next borrowed => ?_)
  obtain ⟨attendedNext, _, left, ⟨isShort, passed⟩, same⟩ := borrowed
  exact ⟨attendedNext, isShort, passed.later same⟩

theorem uploadSingle
    (attended : Attended origin borrowers depot)
    (faulty : origin.schedule.OnlyFaults)
    (leavesOpen : LeavesOpen container.store origin.schedule)
    (canLend : container.store.CanLend depot)
    (sound : depot.source.Sound)
    (small : size <= container.bufferSize)
    (key : String) :
    Yields (container.uploadSingle key size) depot (fun outcome next =>
      Attended origin borrowers next ∧ PutEnded origin.schedule container key size depot outcome
        next) := by
  have fits : size <= container.store.config.bufferSize := small
  have allowed := container.store.config.bufferSize_le
  refine Yields.check (fun large => by omega) (fun _ => ?_)
  refine Yields.check (fun large => by omega) (fun _ => ?_)
  -- The stream is read before anything is sent, so a short one is found out in time.
  by_cases whole : ((depot.source.taken size).length : Int) = size
  next =>
    have puts := attended.borrowsPut faulty leavesOpen canLend sound whole key
    refine Yields.attempt_bind puts (fun outcome next put => ?_)
    obtain ⟨attendedNext, ended⟩ := put
    cases outcome with
    | ok _ =>
      refine attendedNext.count_bind (fun middle attendedMiddle counted => ?_)
      refine attendedMiddle.log_last (fun last attendedLast idle => ?_)
      have passed := ended.2.counted counted
      exact ⟨attendedLast, .stored last whole (passed.later idle)⟩
    | error failure =>
      have faulted : Faulted origin.schedule depot failure next := ended
      simp only [faulted.backend, if_true]
      refine attendedNext.count_bind (fun last attendedLast counted => ?_)
      exact ⟨attendedLast, .failed failure last (faulted.later counted.met)⟩
  next =>
    have puts := attended.borrowsPut_short leavesOpen canLend sound whole key
    refine puts.attempt_bind (fun outcome next put => ?_)
    obtain ⟨attendedNext, rfl, passed⟩ := put
    have backend : (Failure.of (Client.shortStream (depot.source.taken size).length size)).isA
        .backend = true := rfl
    simp only [backend, if_true]
    refine attendedNext.count_bind (fun last attendedLast counted => ?_)
    exact ⟨attendedLast, .short last whole (passed.counted counted)⟩

theorem abort_planned
    {start : Depot}
    {key : String}
    {progress : UploadProgress}
    {failure report : Failure}
    (attended : Attended origin borrowers depot)
    (faulty : origin.schedule.OnlyFaults)
    (leavesOpen : LeavesOpen container.store origin.schedule)
    (current : depot.current ≠ none)
    (planned : Planned container key size start (progress, .error failure) depot)
    (isIO : report.isA .blobIO = true) :
    Yields (container.abort progress report) depot (fun outcome next =>
      Attended origin borrowers next ∧ exists reported others, outcome = .ok reported ∧
        reported.problem = report.problem ∧ Met others depot next) := by
  cases planned with
  | refused _ _ _ =>
    exact ⟨attended, report, none, rfl, rfl, (SameWork.refl depot).met⟩
  | lost _ _ _ _ closed =>
    -- Only in a closed store can an upload be completed and the client not be given back.
    rw [attended.opened] at closed
    cases closed
  | stopped session _ _ _ _ begun _ =>
    have early : start.schedule.FailsEarly :=
      begun.schedule ▸ attended.lent.sameSchedule.symm ▸ faulty.failsEarly
    refine (attended.abort faulty leavesOpen current (begun.pending early) isIO).mono
      (fun outcome next aborted => ?_)
    obtain ⟨attendedNext, aborted⟩ := aborted
    cases aborted with
    | granted _ passed => exact ⟨attendedNext, report, _, rfl, rfl, passed.met⟩
    | refused fault doing _ _ passed => exact ⟨attendedNext, _, _, rfl, rfl, passed.met⟩

theorem givesUp_short
    {start : Depot}
    {key : String}
    {session : ActiveSession}
    {bodies : List Body}
    (attended : Attended origin borrowers depot)
    (faulty : origin.schedule.OnlyFaults)
    (leavesOpen : LeavesOpen container.store origin.schedule)
    (current : depot.current ≠ none)
    (pending : (depot.service.uploads.get? session.uploadId).isSome = true)
    (isSession : session = (container.session key start.service.nextUpload).withParts bodies)
    (short : session.bytesSent ≠ size)
    (passed : Passed start (container.sendEvents key start.service.nextUpload bodies)
      (Metrics.countParts bodies) depot) :
    Yields (container.giveUp key (.active session)
      (.of (.sizeMismatch session.key size session.bytesSent))) depot (fun outcome next =>
        Attended origin borrowers next ∧
          PartsEnded origin.schedule container key size start bodies outcome next) := by
  have aborts := attended.abort faulty leavesOpen current pending
    (show (Failure.of (.sizeMismatch session.key size session.bytesSent)).isA .blobIO = true
      from rfl)
  refine Yields.bind aborts (fun reported next aborted => ?_)
    (fun failure next aborted => by cases aborted.2)
  obtain ⟨attendedNext, aborted⟩ := aborted
  refine attendedNext.count_bind (fun last attendedLast counted => ?_)
  -- An abort that is refused leaves the upload with the service.
  cases aborted with
  | granted _ granted =>
    have passed := (passed.trans granted).counted counted
    exact ⟨attendedLast, .aborted last session isSession short passed⟩
  | refused fault doing _ raised _ =>
    exact ⟨attendedLast, .abandoned _ fault last session isSession short raised⟩

theorem givesUp_faulted
    {start : Depot}
    {key : String}
    {progress : UploadProgress}
    {failure : Failure}
    {bodies : List Body}
    (attended : Attended origin borrowers depot)
    (faulty : origin.schedule.OnlyFaults)
    (leavesOpen : LeavesOpen container.store origin.schedule)
    (current : depot.current ≠ none)
    (planned : Planned container key size start (progress, .error failure) depot)
    (faulted : Faulted origin.schedule start failure depot) :
    Yields (container.giveUp key progress failure) depot (fun outcome next =>
      Attended origin borrowers next ∧
        PartsEnded origin.schedule container key size start bodies outcome next) := by
  have backend := faulted.backend
  have report : Container.uploadFailure key failure = .of (.uploadFailed key) := if_pos backend
  rw [Container.giveUp, report]
  have aborts := attended.abort_planned faulty leavesOpen current planned
    (show (Failure.of (.uploadFailed key)).isA .blobIO = true from rfl)
  refine aborts.bind (fun reported next aborted => ?_) (fun failure next aborted => ?_)
  · obtain ⟨attendedNext, _, others, isReported, problem, met⟩ := aborted
    cases isReported
    refine attendedNext.count_bind (fun last attendedLast counted => ?_)
    have caused : Container.withUploadCause reported failure =
        { reported with cause := some failure } := if_pos backend
    rw [caused]
    exact ⟨attendedLast, .failed _ failure last problem rfl
      ((faulted.later met).later counted.met)⟩
  · obtain ⟨_, _, _, impossible, _⟩ := aborted
    cases impossible

theorem uploadMultipart
    (attended : Attended origin borrowers depot)
    (faulty : origin.schedule.OnlyFaults)
    (leavesOpen : LeavesOpen container.store origin.schedule)
    (canLend : container.store.CanLend depot)
    (sound : depot.source.Sound)
    (least : container.store.config.minMultipartSize <= size)
    (allowed : size <= container.store.config.maxMultipartSize)
    (divisible : size <= Limits.partCount * container.bufferSize)
    (key : String) :
    Yields (container.uploadMultipart key size) depot (fun outcome next =>
      Attended origin borrowers next ∧
        PartsEnded origin.schedule container key size depot
          (depot.source.pieces (partSizes size container.bufferSize)) outcome next) := by
  have filled : 0 < size := by
    have smallest := container.store.config.minMultipartSize_pos
    omega
  -- That an upload that was started is still in progress is known of all uploads that fail.
  have follows : forall plan, plan.Fits size container.bufferSize ->
      Yields (container.borrowForPlan key size plan) depot _ := fun plan fits =>
    (attended.borrowForPlan faulty leavesOpen canLend sound fits filled key).and
      (borrowForPlan_planned attended.lent leavesOpen key size plan)
  refine .uploadMultipart least allowed divisible follows (fun progress session left done => ?_)
    (fun progress failure left done => ?_) (fun failure left done => ?_)
  · obtain ⟨⟨_, isEnded, attendedLeft, _, ended⟩, _⟩ := done
    cases isEnded
    cases ended with
    | completed _ _ isSession whole passed =>
      refine attendedLeft.count_bind (fun middle attendedMiddle counted => ?_)
      refine attendedMiddle.log_last (fun last attendedLast idle => ?_)
      have passed := passed.counted counted
      exact ⟨attendedLast, .completed last session isSession whole (passed.later idle)⟩
  · obtain ⟨⟨_, isEnded, attendedLeft, current, ended⟩, _, same, _, progressed⟩ := done
    cases isEnded
    cases same
    cases ended with
    | incomplete session _ isSession short passed =>
      cases progressed with
      | stopped _ _ _ _ _ begun _ =>
        have early : depot.schedule.FailsEarly := attended.lent.sameSchedule ▸ faulty.failsEarly
        exact attendedLeft.givesUp_short faulty leavesOpen current (begun.pending early)
          isSession short passed
    | failed _ _ _ faulted =>
      exact attendedLeft.givesUp_faulted faulty leavesOpen current progressed faulted
  · obtain ⟨⟨_, impossible, _⟩, _⟩ := done
    cases impossible

theorem writes
    {name : String}
    {failIfExists : Bool}
    {expected : Except Failure Unit -> Depot -> Prop}
    (attended : Attended origin borrowers depot)
    (leavesOpen : LeavesOpen container.store origin.schedule)
    (canLend : container.store.CanLend depot)
    (uploads : forall middle, Attended origin borrowers middle -> Idle depot middle ->
      container.store.CanLend middle ->
        Yields (if size <= container.bufferSize then
            container.uploadSingle (container.key name) size
          else container.uploadMultipart (container.key name) size) middle expected) :
    Yields (container.writeBlob name size failIfExists) depot expected := by
  rw [Container.writeBlob]
  cases failIfExists with
  | false => exact uploads depot attended (Idle.refl depot) canLend
  | true =>
    have same := attended.lent.sameSchedule.symm ▸ leavesOpen
    exact yields_log _ (uploads _ (attended.logs rfl) ⟨SameWork.logged depot _ _ _, rfl⟩
      (canLend.logs same rfl))

end Attended

end BlobDepot
