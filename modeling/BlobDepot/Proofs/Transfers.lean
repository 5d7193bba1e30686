import BlobDepot.Proofs.Parts
import BlobDepot.Proofs.Reports
import BlobDepot.Proofs.Sessions

set_option autoImplicit false

namespace BlobDepot

open BlobDepot.Action

def Service.nextUpload (service : Service) : String :=
  "upload-" ++ toString (service.started + 1)

def partTag (number : Int) : Value :=
  .text ("\"etag-" ++ toString number ++ "\"")

namespace Answer

def empty : Answer :=
  .data (.map [])

def started (uploadId : String) : Answer :=
  .data (.ofFields [("UploadId", .text uploadId)])

def tagged (number : Int) : Answer :=
  .data (.ofFields [("ETag", partTag number)])

end Answer

namespace ActiveSession

def withPart (session : ActiveSession) (body : Body) : ActiveSession :=
  { session with
    parts := session.parts ++ [⟨session.nextNumber, partTag session.nextNumber⟩]
    bytesSent := session.bytesSent + body.length }

def withParts (session : ActiveSession) (bodies : List Body) : ActiveSession :=
  bodies.foldl withPart session

def partRequest (session : ActiveSession) (body : Body) : Request :=
  .uploadPart session.bucket session.key session.uploadId session.nextNumber body

def partEvents : ActiveSession -> List Body -> List Event
  | _, [] => []
  | session, body :: rest =>
      (session.partRequest body).events (.ok (.tagged session.nextNumber)) ++
        (session.withPart body).partEvents rest

def completion (session : ActiveSession) : Request :=
  .completeUpload session.bucket session.key session.uploadId session.parts

def abortion (session : ActiveSession) : Request :=
  .abortUpload session.bucket session.key session.uploadId

end ActiveSession

def Metrics.countParts (bodies : List Body) (metrics : Metrics) : Metrics :=
  { metrics with
    partSizes := metrics.partSizes ++ bodies.map (fun body => (body.length : Int)) }

structure Passed
    (depot : Depot)
    (events : List Event)
    (change : Metrics -> Metrics)
    (next : Depot) : Prop where
  exchange : next.exchange = depot.exchange ++ events
  metrics : next.journal.metrics = change depot.journal.metrics

structure Counted (change : Metrics -> Metrics) (depot next : Depot) : Prop
    extends SameWork depot next where
  metrics : next.journal.metrics = change depot.journal.metrics

namespace Attended

variable {α : Type} {origin depot : Depot} {borrowers : Nat}

theorem log_bind
    {level event : String}
    {fields : List (String × Value)}
    {next : Unit -> Action α}
    {expected : Except Failure α -> Depot -> Prop}
    (attended : Attended origin borrowers depot)
    (rest : forall middle, Attended origin borrowers middle -> Idle depot middle ->
      Yields (next ()) middle expected) :
    Yields (log level event fields >>= next) depot expected :=
  yields_log _ (rest _ (attended.logs rfl) ⟨SameWork.logged depot level event fields, rfl⟩)

theorem log_last
    {level event : String}
    {fields : List (String × Value)}
    {expected : Except Failure Unit -> Depot -> Prop}
    (attended : Attended origin borrowers depot)
    (rest : forall next, Attended origin borrowers next -> Idle depot next ->
      expected (.ok ()) next) :
    Yields (log level event fields) depot expected :=
  rest _ (attended.logs rfl) ⟨SameWork.logged depot level event fields, rfl⟩

theorem count_bind
    {change : Metrics -> Metrics}
    {next : Unit -> Action α}
    {expected : Except Failure α -> Depot -> Prop}
    (attended : Attended origin borrowers depot)
    (rest : forall middle, Attended origin borrowers middle -> Counted change depot middle ->
      Yields (next ()) middle expected) :
    Yields (count change >>= next) depot expected :=
  yields_count _ (rest _ (attended.logs rfl) ⟨(SameWork.refl depot).logs rfl, rfl⟩)

end Attended

theorem Responded.passed
    {origin depot next : Depot}
    {borrowers : Nat}
    {request : Request}
    {given : Except Failure Answer}
    (responded : Responded origin borrowers request depot given next) :
    Passed depot (request.events given) id next :=
  ⟨responded.sent.exchange, responded.metrics⟩

namespace Passed

variable {depot middle next : Depot} {events others : List Event}
variable {change another : Metrics -> Metrics}

theorem trans
    (passed : Passed depot events change middle)
    (rest : Passed middle others another next) :
    Passed depot (events ++ others) (fun metrics => another (change metrics)) next := by
  refine ⟨?_, ?_⟩
  · rw [rest.exchange, passed.exchange, List.append_assoc]
  · rw [rest.metrics, passed.metrics]

theorem met (passed : Passed depot events change next) : Met (firstFault? events) depot next :=
  ⟨events, passed.exchange, rfl⟩

theorem since (idle : Idle depot middle) (passed : Passed middle events change next) :
    Passed depot events change next :=
  ⟨idle.exchange ▸ passed.exchange, idle.metrics ▸ passed.metrics⟩

theorem later (passed : Passed depot events change middle) (idle : Idle middle next) :
    Passed depot events change next :=
  ⟨idle.exchange.trans passed.exchange, idle.metrics.trans passed.metrics⟩

theorem counted
    {count : Metrics -> Metrics}
    (passed : Passed depot events change middle)
    (counted : Counted count middle next) :
    Passed depot events (fun metrics => count (change metrics)) next :=
  ⟨counted.exchange.trans passed.exchange, counted.metrics.trans (congrArg count passed.metrics)⟩

end Passed

namespace Attended

variable {origin depot : Depot} {borrowers : Nat} {size : Int}

theorem readSource
    (attended : Attended origin (borrowers + 1) depot)
    (sound : depot.source.Sound)
    (size : Int) :
    exists next, Client.readSource size depot = (.ok (depot.source.taken size), next) ∧
      Attended origin (borrowers + 1) next ∧ Moved size depot (.ok (depot.source.taken size)) next ∧
      next.source = depot.source.after size ∧ Passed depot [] id next := by
  have quiet : depot.source.nextEvent.closesStore = false := sound.quiet _ (Nat.lt_succ_self _)
  have ran : Client.readSource size depot = (.ok (depot.source.taken size),
      Depot.recorded { depot with source := depot.source.after size }
        (.read size (.ok (depot.source.taken size)))) := by
    simp only [Client.readSource, run_bind, run_get, quiet, Bool.false_eq_true, if_false,
      sound.read, run_set, run_record, run_settle]
  have lent := (Lent.lasting origin borrowers).reads size depot attended.lent
  have moved := readSource_moved size depot
  rw [Yields, ran] at moved
  rw [ran] at lent
  refine ⟨_, ran, ⟨lent, attended.opened⟩, moved, rfl, ?_, rfl⟩
  rw [moved.exchange, List.append_nil]

theorem putObject
    (attended : Attended origin (borrowers + 1) depot)
    (faulty : origin.schedule.OnlyFaults)
    (sound : depot.source.Sound)
    (whole : ((depot.source.taken size).length : Int) = size)
    (bucket key : String)
    (settings : UploadSettings) :
    Reports origin (borrowers + 1) (Client.putObject bucket key size settings) depot
      (fun _ next => Passed depot ((Request.putObject bucket key (depot.source.taken size) size
        settings.sent).events (.ok .empty)) id next) := by
  obtain ⟨middle, read, attendedMiddle, moved, _, passed⟩ := attended.readSource sound size
  obtain ⟨service, performed, _⟩ := middle.service.perform_putObject bucket key
    (depot.source.taken size) size settings.sent
  refine .after read ⟨[], passed.exchange, rfl⟩ ?_
  rw [if_pos whole]
  refine (attendedMiddle.reports faulty performed "Failed to put object").bind
    (fun given next attendedNext answered => ?_)
  exact ⟨attendedNext, (SameWork.refl next).met, passed.trans answered.2.passed⟩

theorem putObject_short
    (attended : Attended origin (borrowers + 1) depot)
    (sound : depot.source.Sound)
    (short : ((depot.source.taken size).length : Int) ≠ size)
    (bucket key : String)
    (settings : UploadSettings) :
    exists next, Client.putObject bucket key size settings depot =
        (.error (.of (Client.shortStream (depot.source.taken size).length size)), next) ∧
      Attended origin (borrowers + 1) next ∧ Passed depot [] id next := by
  obtain ⟨next, read, attendedNext, _, _, passed⟩ := attended.readSource sound size
  refine ⟨next, ?_, attendedNext, passed⟩
  rw [Client.putObject, run_bind_ok _ read, if_neg short]
  rfl

end Attended

structure PartsSent
    (start : Depot)
    (session : ActiveSession)
    (sent bodies : List Body)
    (depot : Depot)
    (extended : ActiveSession)
    (next : Depot) : Prop where
  parts : extended = session.withParts bodies
  storing : Storing start extended (sent ++ bodies) next
  passed : Passed depot (session.partEvents bodies) (Metrics.countParts bodies) next

theorem PartsSent.nil
    {start depot : Depot}
    {session : ActiveSession}
    {sent : List Body}
    (storing : Storing start session sent depot) :
    PartsSent start session sent [] depot session depot := by
  refine ⟨rfl, by simpa using storing, ?_, ?_⟩
  · exact (List.append_nil _).symm
  · simp [Metrics.countParts]

theorem PartsSent.cons
    {start depot middle next : Depot}
    {session extended final : ActiveSession}
    {sent bodies : List Body}
    {body : Body}
    (first : PartsSent start session sent [body] depot extended middle)
    (rest : PartsSent start extended (sent ++ [body]) bodies middle final next) :
    PartsSent start session sent (body :: bodies) depot final next := by
  obtain ⟨rfl, _, passed⟩ := first
  obtain ⟨isFinal, storing, later⟩ := rest
  refine ⟨isFinal, by simpa using storing, ?_⟩
  obtain ⟨exchange, metrics⟩ := passed.trans later
  refine ⟨?_, ?_⟩
  · simpa [ActiveSession.partEvents, ActiveSession.withParts] using exchange
  · rw [metrics]
    simp [Metrics.countParts]

namespace Attended

variable {origin depot start : Depot} {borrowers : Nat} {session : ActiveSession}
variable {sent : List Body}

theorem uploadNext
    (attended : Attended origin (borrowers + 1) depot)
    (faulty : origin.schedule.OnlyFaults)
    (sound : depot.source.Sound)
    (storing : Storing start session sent depot)
    (size : Int) :
    Reports origin (borrowers + 1) (Container.uploadNext session size) depot
      (fun extended next => next.source = depot.source.after size ∧
        PartsSent start session sent [depot.source.taken size] depot extended next) := by
  obtain ⟨middle, read, attendedMiddle, moved, source, passed⟩ := attended.readSource sound size
  -- The upload is still in progress, so the service takes the part.
  have early : start.schedule.FailsEarly :=
    storing.schedule ▸ attended.lent.sameSchedule.symm ▸ faulty.failsEarly
  obtain ⟨parts, found, _⟩ := storing.stored early
  rw [<- moved.service] at found
  have performed : middle.service.perform (session.partRequest (depot.source.taken size)) =
      (.ok (.tagged session.nextNumber), _) := Service.perform_uploadPart found
  have uploads : Reports origin (borrowers + 1)
      (Client.uploadPart session.bucket session.key session.uploadId session.nextNumber size) depot
      (fun uploaded next =>
        uploaded = ⟨⟨session.nextNumber, partTag session.nextNumber⟩,
          (depot.source.taken size).length⟩ ∧
        next.source = depot.source.after size ∧
        Storing start (session.withPart (depot.source.taken size))
          (sent ++ [depot.source.taken size]) next ∧
        Passed depot (session.partEvents [depot.source.taken size]) id next) := by
    refine .after read ⟨[], passed.exchange, rfl⟩ ?_
    refine (attendedMiddle.reports faulty performed _).bind
      (fun given next attendedNext answered => ?_)
    obtain ⟨rfl, responded⟩ := answered
    have tagged : (Answer.tagged session.nextNumber).description.entry "ETag" =
        .ok (partTag session.nextNumber) := rfl
    have stored := storing.partStored moved responded.sent tagged
    refine ⟨attendedNext, (SameWork.refl next).met, rfl, ?_, stored, passed.trans ?_⟩
    · exact responded.sent.source.trans source
    · simp only [ActiveSession.partEvents]
      exact responded.passed
  refine uploads.bind (fun uploaded next attendedNext done => ?_)
  obtain ⟨rfl, source, stored, passed⟩ := done
  have added : session.addPart ⟨⟨session.nextNumber, partTag session.nextNumber⟩,
      (depot.source.taken size).length⟩ = .ok (session.withPart (depot.source.taken size)) :=
    ActiveSession.addPart_next rfl
  rw [added]
  refine attendedNext.count_bind (fun last attendedLast counted => ?_)
  exact ⟨attendedLast, counted.met, counted.source.trans source, rfl,
    stored.aside counted.toSameWork, passed.counted counted⟩

theorem uploadParts
    (attended : Attended origin (borrowers + 1) depot)
    (faulty : origin.schedule.OnlyFaults)
    (sound : depot.source.Sound)
    (storing : Storing start session sent depot)
    (plan : PartPlan)
    (partSize : Int)
    (left : Nat) :
    Yields (Container.uploadParts plan partSize left session) depot (fun outcome next =>
      exists final ended, outcome = .ok (final, ended) ∧
        Attended origin (borrowers + 1) next ∧
        Ended origin.schedule depot (fun _ next => PartsSent start session sent
          (depot.source.pieces (plan.sizes partSize session.nextNumber left)) depot final next)
          ended next) := by
  -- The session and what was sent so far change from part to part.
  induction left generalizing session sent depot with
  | zero =>
    exact ⟨session, .ok (), rfl, attended, (SameWork.refl depot).met, .nil storing⟩
  | succ left ih =>
    refine (attended.uploadNext faulty sound storing _).attempt_bind (fun outcome middle done => ?_)
    obtain ⟨attendedMiddle, done⟩ := done
    cases outcome with
    | error failure => exact ⟨session, .error failure, rfl, attendedMiddle, done⟩
    | ok extended =>
      obtain ⟨met, source, first⟩ := done
      have number : extended.nextNumber = session.nextNumber + 1 := by
        rw [first.parts]
        simp [ActiveSession.withParts, ActiveSession.withPart, ActiveSession.nextNumber]
      have later := ih attendedMiddle (source ▸ sound.after _) first.storing
      refine later.mono (fun outcome next uploaded => ?_)
      obtain ⟨final, ended, isOutcome, attendedNext, uploaded⟩ := uploaded
      refine ⟨final, ended, isOutcome, attendedNext, ?_⟩
      cases ended with
      | error failure => exact Faulted.since met uploaded
      | ok _ =>
        obtain ⟨unfaulted, rest⟩ := uploaded
        rw [source, number] at rest
        exact ⟨met.trans unfaulted, first.cons rest⟩

inductive Completion
    (schedule : Schedule)
    (session : ActiveSession)
    (size : Int)
    (depot : Depot) : Except Failure Unit -> Depot -> Prop
  | granted (next : Depot)
      (whole : session.bytesSent = size)
      (passed : Passed depot (session.completion.events (.ok .empty)) id next) :
      Completion schedule session size depot (.ok ()) next
  | untried (short : session.bytesSent ≠ size) :
      Completion schedule session size depot
        (.error (.of (.sizeMismatch session.key size session.bytesSent))) depot
  | failed (failure : Failure) (next : Depot) (faulted : Faulted schedule depot failure next) :
      Completion schedule session size depot (.error failure) next

theorem complete
    (attended : Attended origin (borrowers + 1) depot)
    (faulty : origin.schedule.OnlyFaults)
    (storing : Storing start session sent depot)
    (size : Int) :
    Yields (Container.complete session size) depot (fun outcome next =>
      Attended origin (borrowers + 1) next ∧
        Completion origin.schedule session size depot outcome next) := by
  by_cases whole : session.bytesSent = size
  next =>
    have early : start.schedule.FailsEarly :=
      storing.schedule ▸ attended.lent.sameSchedule.symm ▸ faulty.failsEarly
    obtain ⟨parts, found, matched⟩ := storing.stored early
    -- Every part that the session names is there under its number.
    have bodies := Service.mapM_partBody (matched.imp (fun _ _ known => known.2))
    have performed : depot.service.perform session.completion = (.ok .empty, _) :=
      Service.perform_completeUpload found bodies
    rw [Container.complete, if_pos whole]
    have asks := attended.reports faulty performed "Failed to complete multipart upload"
    refine Yields.bind asks (fun given next answered => ?_) (fun failure next answered => ?_)
    · obtain ⟨attendedNext, _, _, responded⟩ := answered
      exact ⟨attendedNext, .granted next whole responded.passed⟩
    · exact ⟨answered.1, .failed failure next answered.2⟩
  next =>
    rw [Container.complete, if_neg whole]
    exact ⟨attended, .untried whole⟩

end Attended

namespace Container

def session (container : Container) (key uploadId : String) : ActiveSession :=
  ⟨container.bucket, key, uploadId, [], 0⟩

def creation (container : Container) (key : String) : Request :=
  .createUpload container.bucket key container.store.config.uploadSettings.sent

def sendEvents (container : Container) (key uploadId : String) (bodies : List Body) : List Event :=
  (container.creation key).events (.ok (.started uploadId)) ++
    (container.session key uploadId).partEvents bodies

end Container

inductive AbortReplied
    (schedule : Schedule)
    (session : ActiveSession)
    (depot : Depot) : Except Failure Unit -> Depot -> Prop
  | granted (next : Depot)
      (passed : Passed depot (session.abortion.events (.ok .empty)) id next) :
      AbortReplied schedule session depot (.ok ()) next
  | refused (fault : Failure) (next : Depot)
      (isFault : fault.IsFault)
      (raised : schedule.Raises fault)
      (passed : Passed depot (session.abortion.events (.error fault)) id next) :
      AbortReplied schedule session depot
        (.error (Failure.reported fault "Failed to abort multipart upload")) next

theorem AbortReplied.since
    {schedule : Schedule}
    {session : ActiveSession}
    {depot middle next : Depot}
    {outcome : Except Failure Unit}
    (before : Idle depot middle)
    (replied : AbortReplied schedule session middle outcome next) :
    AbortReplied schedule session depot outcome next := by
  cases replied with
  | granted _ passed => exact .granted next (passed.since before)
  | refused fault _ isFault raised passed =>
    exact .refused fault next isFault raised (passed.since before)

namespace Attended

variable {origin depot : Depot} {borrowers : Nat} {container : Container} {size : Int}

theorem initiate
    (attended : Attended origin (borrowers + 1) depot)
    (faulty : origin.schedule.OnlyFaults)
    (container : Container)
    (key : String) :
    Reports origin (borrowers + 1) (container.initiate key) depot (fun session next =>
      session = container.session key depot.service.nextUpload ∧ next.source = depot.source ∧
        Storing depot session [] next ∧
        Passed depot ((container.creation key).events (.ok (.started depot.service.nextUpload))) id
          next) := by
  have filled : depot.service.nextUpload ≠ "" := by
    intro empty
    simpa [Service.nextUpload] using congrArg String.toList empty
  have performed : depot.service.perform (container.creation key) =
      (.ok (.started depot.service.nextUpload), _) :=
    depot.service.perform_createUpload container.bucket key _
  have initiates : Reports origin (borrowers + 1) (container.initiate key) depot
      (fun session next => session = container.session key depot.service.nextUpload ∧
        next.source = depot.source ∧ Passed depot ((container.creation key).events
          (.ok (.started depot.service.nextUpload))) id next) := by
    have names : Reports origin (borrowers + 1)
        (Client.initiateUpload container.bucket key container.store.config.uploadSettings) depot
        (fun uploadId next => uploadId = depot.service.nextUpload ∧
          next.source = depot.source ∧ Passed depot ((container.creation key).events
            (.ok (.started depot.service.nextUpload))) id next) := by
      refine (attended.reports faulty performed _).bind
        (fun given next attendedNext answered => ?_)
      obtain ⟨rfl, responded⟩ := answered
      have found : shaped ((Answer.started depot.service.nextUpload).description.findEntry
          "UploadId") next = (.ok (some (.text depot.service.nextUpload)), next) := rfl
      refine .after found (SameWork.refl next).met ?_
      refine ⟨attendedNext, (SameWork.refl next).met, ?_, responded.sent.source, responded.passed⟩
      simp [Value.isTruthy, filled, Value.plain]
    refine names.bind (fun uploadId next attendedNext named => ?_)
    obtain ⟨rfl, source, passed⟩ := named
    rw [if_neg filled]
    exact ⟨attendedNext, (SameWork.refl next).met, rfl, source, passed⟩
  -- That the upload is in progress is told by what is known of uploads that may also fail.
  refine ((initiate_initiated container key depot).and initiates).mono (fun outcome next done => ?_)
  obtain ⟨initiated, attendedNext, ended⟩ := done
  cases outcome with
  | error failure => exact ⟨attendedNext, ended⟩
  | ok session =>
    obtain ⟨met, isSession, source, passed⟩ := ended
    exact ⟨attendedNext, met, isSession, source, initiated.storing, passed⟩

theorem abortUpload
    {session : ActiveSession}
    {parts : List (Int × Body)}
    (attended : Attended origin (borrowers + 1) depot)
    (faulty : origin.schedule.OnlyFaults)
    (found : depot.service.uploads.get? session.uploadId = some parts) :
    Yields (Client.abortUpload session.bucket session.key session.uploadId) depot
      (fun outcome next => Attended origin (borrowers + 1) next ∧
        AbortReplied origin.schedule session depot outcome next) := by
  have performed : depot.service.perform session.abortion = (.ok .empty, _) :=
    Service.perform_abortUpload found
  refine (attended.ask_accepted faulty performed "Failed to abort multipart upload").bind
    (fun answer next asked => ?_) (fun failure next asked => ?_)
  · rcases asked with ⟨_, responded⟩ | ⟨fault, impossible, _⟩
    next => exact ⟨responded.attended, .granted next responded.passed⟩
    next => cases impossible
  · rcases asked with ⟨impossible, _⟩ | ⟨fault, isFailure, isFault, raised, responded⟩
    next => cases impossible
    next =>
      cases isFailure
      exact ⟨responded.attended, .refused fault next isFault raised responded.passed⟩

end Attended

def Container.giveUp
    (container : Container)
    (key : String)
    (progress : UploadProgress)
    (failure : Failure) : Action Unit := do
  let reported <- container.abort progress (Container.uploadFailure key failure)
  count (fun metrics => metrics.countUpload .multipart .failure)
  throw (Container.withUploadCause reported failure)

theorem Action.Yields.uploadMultipart
    {container : Container}
    {key : String}
    {size : Int}
    {depot : Depot}
    {middle : Except Failure (UploadProgress × Except Failure ActiveSession) -> Depot -> Prop}
    {expected : Except Failure Unit -> Depot -> Prop}
    (least : container.store.config.minMultipartSize <= size)
    (most : size <= container.store.config.maxMultipartSize)
    (divisible : size <= Limits.partCount * container.bufferSize)
    (follows : forall plan, plan.Fits size container.bufferSize ->
      Yields (container.borrowForPlan key size plan) depot middle)
    (completed : forall progress session left, middle (.ok (progress, .ok session)) left ->
      Yields (do
        count (fun metrics =>
          (metrics.countUpload .multipart .success).countBytes size .multipart)
        log "info" "multipart_upload_completed"
          [("bucket", .text session.bucket),
            ("key", .text key),
            ("upload_id", .text session.uploadId)]) left expected)
    (failed : forall progress failure left, middle (.ok (progress, .error failure)) left ->
      Yields (container.giveUp key progress failure) left expected)
    (followed : forall failure left, Not (middle (.error failure) left)) :
    Yields (container.uploadMultipart key size) depot expected := by
  have positive := container.bufferSize_pos
  have filled : 0 < size := by
    have smallest := container.store.config.minMultipartSize_pos
    omega
  obtain ⟨plan, planned, fits⟩ : exists plan,
      PartPlan.ofSizes size container.bufferSize = .ok plan ∧
        plan.Fits size container.bufferSize := PartPlan.exists_fits positive (Int.le_of_lt filled)
  have few : plan.partCount <= Limits.partCount :=
    (fits.partCount_le positive (by decide)).mpr divisible
  refine Yields.check (fun exceeds => by omega) (fun _ => ?_)
  refine Yields.check (fun small => by omega) (fun _ => ?_)
  refine .after (show checked _ depot = _ by rw [planned]; rfl) ?_
  refine Yields.check (fun many => by omega) (fun _ => ?_)
  refine Yields.check (fun differs => absurd fits.total differs) (fun _ => ?_)
  refine (follows plan fits).bind (fun ended left done => ?_) (fun failure left done => ?_)
  · obtain ⟨progress, outcome⟩ := ended
    cases outcome with
    | ok session => exact completed progress session left done
    | error failure => exact failed progress failure left done
  · exact absurd done (followed failure left)

end BlobDepot
