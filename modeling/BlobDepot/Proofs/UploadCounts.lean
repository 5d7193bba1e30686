import BlobDepot.Proofs.AcceptedWrites
import BlobDepot.Proofs.FailedUploads
import BlobDepot.Proofs.Ordinary

set_option autoImplicit false

namespace BlobDepot

open BlobDepot.Action

namespace Metrics

def uploads (metrics : Metrics) : UploadRoute -> Outcome -> Nat
  | .single, .success => metrics.singleSuccesses
  | .single, .failure => metrics.singleFailures
  | .multipart, .success => metrics.multipartSuccesses
  | .multipart, .failure => metrics.multipartFailures

def uploadedBytes (metrics : Metrics) : UploadRoute -> Int
  | .single => metrics.singleBytes
  | .multipart => metrics.multipartBytes

def uploadTotal (metrics : Metrics) : Nat :=
  metrics.singleSuccesses + metrics.singleFailures + metrics.multipartSuccesses
    + metrics.multipartFailures

structure SameUploads (before after : Metrics) : Prop where
  uploads : after.uploads = before.uploads
  bytes : after.uploadedBytes = before.uploadedBytes

structure CountsOne
    (before after : Metrics)
    (route : UploadRoute)
    (outcome : Outcome)
    (size : Int) : Prop where
  uploads : forall other ended, after.uploads other ended =
    before.uploads other ended + if other = route ∧ ended = outcome then 1 else 0
  bytes : forall other, after.uploadedBytes other =
    before.uploadedBytes other + if other = route ∧ outcome = .success then size else 0

theorem SameUploads.refl (metrics : Metrics) : metrics.SameUploads metrics :=
  ⟨rfl, rfl⟩

theorem uploadTotal_eq (metrics : Metrics) :
    metrics.uploadTotal = metrics.uploads .single .success + metrics.uploads .single .failure
      + metrics.uploads .multipart .success + metrics.uploads .multipart .failure :=
  rfl

section Counts

variable {before after : Metrics} {route : UploadRoute} {size : Int}

theorem SameUploads.total (same : before.SameUploads after) :
    after.uploadTotal = before.uploadTotal := by
  rw [uploadTotal_eq, uploadTotal_eq, same.uploads]

theorem CountsOne.total {outcome : Outcome} (one : before.CountsOne after route outcome size) :
    after.uploadTotal = before.uploadTotal + 1 := by
  simp only [uploadTotal_eq, one.uploads]
  cases route <;> cases outcome <;> simp <;> omega

theorem countsOne_success (same : before.SameUploads after) (route : UploadRoute) (size : Int) :
    before.CountsOne ((after.countUpload route .success).countBytes size route) route .success
      size where
  uploads other ended := by
    rw [<- same.uploads]
    cases route <;> cases other <;> cases ended <;> simp [uploads, countUpload, countBytes]
  bytes other := by
    rw [<- same.bytes]
    cases route <;> cases other <;> simp [uploadedBytes, countUpload, countBytes]

theorem countsOne_failure (same : before.SameUploads after) (route : UploadRoute) (size : Int) :
    before.CountsOne (after.countUpload route .failure) route .failure size where
  uploads other ended := by
    rw [<- same.uploads]
    cases route <;> cases other <;> cases ended <;> simp [uploads, countUpload]
  bytes other := by
    rw [<- same.bytes]
    cases route <;> cases other <;> simp [uploadedBytes, countUpload]

end Counts

end Metrics

def Uncounted (metrics : Metrics) (depot : Depot) : Prop :=
  metrics.SameUploads depot.journal.metrics

namespace Uncounted

variable {metrics : Metrics}

theorem detached : Detached (Uncounted metrics) where
  enters _ _ _ _ same := same
  records _ _ _ same := same
  lends _ _ _ _ same := same
  shuts _ same := same

theorem ask (request : Request) (doing : String) :
    Keeps (Uncounted metrics) (Client.ask request doing) := by
  have sends : Keeps (Uncounted metrics) (send request) :=
    keeps_send (fun _ same => same) (fun _ _ same => same) (fun _ same => same) detached.close
  refine sends.attempt.bind (fun outcome => ?_)
  cases outcome with
  | ok answer => exact keeps_pure answer
  | error failure => exact keeps_throw _

theorem reads (size : Int) : Keeps (Uncounted metrics) (Client.readSource size) :=
  keeps_readSource detached.close (fun _ _ _ same => same)

theorem borrowing
    {α : Type}
    {work : Action α}
    (works : Keeps (Uncounted metrics) work)
    (store : Store) :
    Keeps (Uncounted metrics) (store.borrowing work) := by
  refine (detached.acquire store).bind (fun reference => works.attempt.bind (fun outcome => ?_))
  refine (detached.release reference).bind (fun _ => ?_)
  cases outcome with
  | ok result => exact keeps_pure result
  | error failure => exact keeps_throw failure

theorem putObject (bucket key : String) (length : Int) (settings : UploadSettings) :
    Keeps (Uncounted metrics) (Client.putObject bucket key length settings) := by
  refine (reads length).bind (fun body => Keeps.ite ?_ (keeps_fail _))
  exact (ask _ _).bind (fun _ => keeps_pure _)

theorem initiate (container : Container) (key : String) :
    Keeps (Uncounted metrics) (container.initiate key) := by
  refine Keeps.bind ?_ (fun uploadId => Keeps.ite (keeps_fail _) (keeps_pure _))
  refine (ask _ _).bind (fun answer => (keeps_shaped _).bind (fun found => ?_))
  cases found with
  | none => exact keeps_pure ""
  | some value => exact keeps_pure _

theorem uploadNext (session : ActiveSession) (size : Int) :
    Keeps (Uncounted metrics) (Container.uploadNext session size) := by
  have uploads : Keeps (Uncounted metrics)
      (Client.uploadPart session.bucket session.key session.uploadId session.nextNumber size) := by
    refine (reads size).bind (fun body => (ask _ _).bind (fun answer => ?_))
    exact (keeps_shaped _).bind (fun tag => keeps_pure _)
  refine uploads.bind (fun uploaded => Keeps.bind ?_ (fun _ => keeps_checked _))
  exact fun _ same => ⟨same.uploads, same.bytes⟩

theorem uploadParts (plan : PartPlan) (partSize : Int) (left : Nat) (session : ActiveSession) :
    Keeps (Uncounted metrics) (Container.uploadParts plan partSize left session) := by
  induction left generalizing session with
  | zero => exact keeps_pure _
  | succ left ih =>
    refine (uploadNext session _).attempt.bind (fun outcome => ?_)
    cases outcome with
    | ok extended => exact ih extended
    | error failure => exact keeps_pure _

theorem complete (session : ActiveSession) (size : Int) :
    Keeps (Uncounted metrics) (Container.complete session size) :=
  Keeps.ite ((ask _ _).bind (fun _ => keeps_pure _)) (keeps_fail _)

theorem followPlan (container : Container) (key : String) (size : Int) (plan : PartPlan) :
    Keeps (Uncounted metrics) (container.followPlan key size plan) := by
  refine (initiate container key).attempt.bind (fun started => ?_)
  cases started with
  | error failure => exact keeps_pure _
  | ok session =>
    refine (detached.log _ _ _).bind (fun _ => (uploadParts _ _ _ _).bind (fun sent => ?_))
    obtain ⟨grown, outcome⟩ := sent
    cases outcome with
    | error failure => exact keeps_pure _
    | ok _ =>
      refine (complete grown size).attempt.bind (fun completed => ?_)
      cases completed with
      | error failure => exact keeps_pure _
      | ok _ => exact keeps_pure _

theorem borrowForPlan (container : Container) (key : String) (size : Int) (plan : PartPlan) :
    Keeps (Uncounted metrics) (container.borrowForPlan key size plan) := by
  refine (detached.acquire container.store).attempt.bind (fun acquired => ?_)
  cases acquired with
  | error failure => exact keeps_pure _
  | ok reference =>
    refine (followPlan container key size plan).bind (fun ended => ?_)
    refine (detached.release reference).attempt.bind (fun given => ?_)
    cases given with
    | ok _ => exact keeps_pure _
    | error failure => exact keeps_pure _

theorem abort (container : Container) (progress : UploadProgress) (failure : Failure) :
    Keeps (Uncounted metrics) (container.abort progress failure) := by
  have counts (outcome : Outcome) :
      Keeps (Uncounted metrics) (count (fun counted => counted.countAbort outcome)) := by
    intro depot same
    cases outcome <;> exact ⟨same.uploads, same.bytes⟩
  cases progress with
  | notStarted => exact keeps_pure failure
  | completed => exact keeps_pure failure
  | active session =>
    refine (borrowing ((ask _ _).bind (fun _ => keeps_pure _)) container.store).attempt.bind
      (fun aborted => ?_)
    cases aborted with
    | ok _ =>
      exact (counts .success).bind (fun _ => (detached.log _ _ _).bind (fun _ => keeps_pure _))
    | error other =>
      refine Keeps.ite ?_ (keeps_throw other)
      exact (counts .failure).bind (fun _ => (detached.log _ _ _).bind (fun _ => keeps_pure _))

end Uncounted

def Outcome.of {α : Type} : Except Failure α -> Outcome
  | .ok _ => .success
  | .error _ => .failure

namespace Container

def putOnce (container : Container) (key : String) (size : Int) : Action Unit :=
  container.store.borrowing
    (Client.putObject container.store.config.bucket key size container.store.config.uploadSettings)

theorem uploadSingle_counted
    {container : Container}
    {size : Int}
    (small : size <= container.bufferSize)
    (key : String)
    (depot : Depot) :
    Yields (container.uploadSingle key size) depot (fun outcome next =>
      outcome = (container.putOnce key size depot).1.mapError (Failure.wrapped (.putFailed key)) ∧
        match (container.putOnce key size depot).1 with
        | .ok () =>
            depot.journal.metrics.CountsOne next.journal.metrics .single .success size
        | .error failure =>
            if failure.isA .backend then
              depot.journal.metrics.CountsOne next.journal.metrics .single .failure size
            else depot.journal.metrics.SameUploads next.journal.metrics) := by
  have fits : size <= container.store.config.bufferSize := small
  have allowed := container.store.config.bufferSize_le
  refine Yields.check (fun large => by omega) (fun _ => ?_)
  refine Yields.check (fun large => by omega) (fun _ => ?_)
  have puts : Yields (container.putOnce key size) depot (fun outcome left =>
      (container.putOnce key size depot).1 = outcome ∧ Uncounted depot.journal.metrics left) :=
    ⟨rfl, Uncounted.borrowing (Uncounted.putObject _ _ _ _) container.store depot
      (Metrics.SameUploads.refl _)⟩
  refine puts.attempt_bind (fun outcome left done => ?_)
  obtain ⟨met, same⟩ := done
  rw [met]
  cases outcome with
  | ok _ => exact yields_count _ ⟨rfl, Metrics.countsOne_success same .single size⟩
  | error failure =>
    by_cases backend : failure.isA .backend = true
    next =>
      simp only [if_pos backend, Except.mapError, Failure.wrapped]
      exact yields_count _ ⟨rfl, Metrics.countsOne_failure same .single size⟩
    next =>
      simp only [if_neg backend, Except.mapError, Failure.wrapped]
      exact ⟨rfl, same⟩

theorem borrowForPlan_settles
    (container : Container)
    (key : String)
    (size : Int)
    (plan : PartPlan) :
    Settles (container.borrowForPlan key size plan) := by
  refine (settles_attempt _).bind (fun acquired => ?_)
  cases acquired with
  | error failure => exact settles_pure _
  | ok reference =>
    refine (followPlan_settles container key size plan).bind (fun ended => ?_)
    refine (settles_attempt _).bind (fun given => ?_)
    cases given with
    | ok _ => exact settles_pure _
    | error failure => exact settles_pure _

theorem aloof_schedule (schedule : Schedule) : Aloof (fun depot => depot.schedule = schedule) :=
  SameWork.aloof_of_stable (fun _ _ same holds => same.schedule.trans holds)

theorem lasting_schedule (schedule : Schedule) :
    Lasting (fun _ => True) (fun depot => depot.schedule = schedule) where
  logs := (aloof_schedule schedule).logs
  reads _ := keeps_readSource (aloof_schedule schedule).close (fun _ _ _ holds => holds)
  sends _ _ := keeps_send (fun _ holds => holds) (fun _ _ holds => holds) (fun _ holds => holds)
    (aloof_schedule schedule).close

theorem abort_settles
    {depot : Depot}
    (raises : depot.schedule.RaisesOrdinary)
    (container : Container)
    (progress : UploadProgress)
    (failure : Failure) :
    exists reported next, container.abort progress failure depot = (.ok reported, next) := by
  cases progress with
  | notStarted => exact ⟨_, _, rfl⟩
  | completed => exact ⟨_, _, rfl⟩
  | active session =>
    have aborts : Ordinary depot.schedule (container.store.borrowing
        (Client.abortUpload session.bucket session.key session.uploadId)) :=
      ordinary_of_confined (raises.confines.borrowing (raises.confines.abortUpload _ _ _) _)
    have ordinary := (aborts depot rfl).2
    simp only [abort, run_bind, run_attempt]
    cases aborted : (container.store.borrowing
        (Client.abortUpload session.bucket session.key session.uploadId) depot).1 with
    | ok _ => exact ⟨_, _, rfl⟩
    | error other =>
      simp only [if_pos (ordinary other aborted)]
      exact ⟨_, _, rfl⟩

theorem uploadMultipart_counted
    {container : Container}
    {size : Int}
    {depot : Depot}
    (raises : depot.schedule.RaisesOrdinary)
    (least : container.store.config.minMultipartSize <= size)
    (most : size <= container.store.config.maxMultipartSize)
    (divisible : size <= Limits.partCount * container.bufferSize)
    (key : String) :
    Yields (container.uploadMultipart key size) depot (fun outcome next =>
      depot.journal.metrics.CountsOne next.journal.metrics .multipart (.of outcome) size) := by
  have follows (plan : PartPlan) : Yields (container.borrowForPlan key size plan) depot
      (fun result left => result.isOk = true ∧ left.schedule = depot.schedule ∧
        Uncounted depot.journal.metrics left) := by
    obtain ⟨ended, left, ran⟩ := borrowForPlan_settles container key size plan depot
    refine ⟨by rw [ran]; rfl, ?_, Uncounted.borrowForPlan container key size plan depot
      (Metrics.SameUploads.refl _)⟩
    exact ((aloof_schedule depot.schedule).lending container.store).borrowForPlan
      (fun _ => lasting_schedule depot.schedule) (fun _ _ => trivial) size plan depot rfl
  refine Yields.uploadMultipart least most divisible (fun plan _ => follows plan) ?_ ?_ ?_
  · rintro progress session left ⟨_, _, same⟩
    exact yields_count _ (Metrics.countsOne_success same .multipart size)
  · rintro progress failure left ⟨_, schedule, same⟩
    rw [<- schedule] at raises
    have aborts := Uncounted.abort container progress (uploadFailure key failure) left same
    obtain ⟨reported, next, ran⟩ :=
      abort_settles raises container progress (uploadFailure key failure)
    rw [ran] at aborts
    exact .after ran (yields_count _ (Metrics.countsOne_failure aborts .multipart size))
  · rintro failure left ⟨fails, _⟩
    cases fails

end Container

structure WriteCall where
  path : BlobPath
  name : String
  source : Source
  size : Int
  failIfExists : Bool := false

inductive WriteStep where
  | write (call : WriteCall)
  | close

structure WriteRecord where
  call : WriteCall
  found : Depot
  outcome : Except Failure Unit
  left : Depot

namespace Store

def write (store : Store) (call : WriteCall) : Action Unit := do
  modify (fun depot => { depot with source := call.source })
  Container.writeBlob ⟨store, call.path⟩ call.name call.size call.failIfExists

def writeAll (store : Store) : List WriteStep -> Depot -> List WriteRecord × Depot
  | [], depot => ([], depot)
  | .close :: rest, depot => writeAll store rest (close depot).2
  | .write call :: rest, depot =>
      let (outcome, left) := store.write call depot
      let (later, last) := writeAll store rest left
      (⟨call, depot, outcome, left⟩ :: later, last)

end Store

namespace WriteCall

def container (store : Store) (call : WriteCall) : Container :=
  ⟨store, call.path⟩

def route (store : Store) (call : WriteCall) : UploadRoute :=
  if call.size <= (call.container store).bufferSize then .single else .multipart

def put (store : Store) (call : WriteCall) : Action Unit := do
  modify (fun depot => { depot with source := call.source })
  if call.failIfExists then
    log "debug" "fail_if_already_exists_ignored" [("blob", .text call.name)]
  (call.container store).putOnce ((call.container store).key call.name) call.size

/-- The call writes in one request, and fails with what the client does not report. -/
def isLost (store : Store) (call : WriteCall) (depot : Depot) : Bool :=
  call.route store == .single &&
    match (call.put store depot).1 with
    | .ok () => false
    | .error failure => !failure.isA .backend

end WriteCall

/-- How a call is counted: not at all if its size is refused or if it is lost, and otherwise once,
as it ends. -/
structure WriteRecord.Counted (store : Store) (written : WriteRecord) : Prop where
  refused : Not (store.config.Accepts written.call.size) ->
    written.left.journal.metrics = written.found.journal.metrics ∧
      exists error, written.outcome = .error (.of (.argument error))
  lost : written.call.isLost store written.found = true ->
    written.found.journal.metrics.SameUploads written.left.journal.metrics ∧
      exists failure, written.outcome = .error failure ∧ failure.isA .backend = false
  counted : store.config.Accepts written.call.size ->
    written.call.isLost store written.found = false ->
      written.found.journal.metrics.CountsOne written.left.journal.metrics
        (written.call.route store) (.of written.outcome) written.call.size

theorem WriteRecord.Counted.balanced
    {store : Store}
    {written : WriteRecord}
    (counts : written.Counted store) :
    written.left.journal.metrics.uploadTotal
        + (if written.call.isLost store written.found then 1 else 0) =
      written.found.journal.metrics.uploadTotal
        + (if decide (store.config.Accepts written.call.size) then 1 else 0) := by
  by_cases accepted : store.config.Accepts written.call.size
  next =>
    simp only [accepted, decide_true, if_true]
    cases lost : written.call.isLost store written.found with
    | true => rw [(counts.lost lost).1.total, if_pos rfl]
    | false => rw [(counts.counted accepted lost).total, if_neg (by decide)]
  next =>
    have unlost : written.call.isLost store written.found = false := by
      have above : Not (written.call.size <= (written.call.container store).bufferSize) :=
        fun small => accepted (.inl small)
      simp [WriteCall.isLost, WriteCall.route, if_neg above]
    rw [(counts.refused accepted).1, unlost]
    simp [accepted]

namespace Store

theorem write_routed (store : Store) (call : WriteCall) (depot : Depot) :
    let container := call.container store
    exists ready, ready.schedule = depot.schedule ∧
      ready.journal.metrics = depot.journal.metrics ∧
      call.put store depot = container.putOnce (container.key call.name) call.size ready ∧
      store.write call depot =
        (if call.size <= container.bufferSize then
          container.uploadSingle (container.key call.name) call.size
        else container.uploadMultipart (container.key call.name) call.size) ready := by
  obtain ⟨path, name, source, size, failIfExists⟩ := call
  cases failIfExists with
  | false => exact ⟨{ depot with source := source }, rfl, rfl, rfl, rfl⟩
  | true =>
    exact ⟨{ depot with
      source := source
      journal := depot.journal.log "debug" "fail_if_already_exists_ignored"
        [("blob", .text name)] }, rfl, rfl, rfl, rfl⟩

theorem write_counted
    {depot : Depot}
    (raises : depot.schedule.RaisesOrdinary)
    (store : Store)
    (call : WriteCall) :
    WriteRecord.Counted store
      ⟨call, depot, (store.write call depot).1, (store.write call depot).2⟩ := by
  obtain ⟨ready, schedule, metrics, puts, routed⟩ := store.write_routed call depot
  by_cases small : call.size <= (call.container store).bufferSize
  next =>
    have accepted : store.config.Accepts call.size := .inl small
    have counts := Container.uploadSingle_counted small ((call.container store).key call.name) ready
    simp only [if_pos small] at routed
    rw [Yields, <- routed, <- puts, metrics] at counts
    obtain ⟨ended, counted⟩ := counts
    have route : call.route store = .single := if_pos small
    cases put : (call.put store depot).1 with
    | ok _ =>
      simp only [put] at ended counted
      refine ⟨fun refused => absurd accepted refused, fun lost => ?_, fun _ _ => ?_⟩
      · simp [WriteCall.isLost, put] at lost
      · rw [route, ended]
        exact counted
    | error failure =>
      simp only [put] at ended counted
      have isLost : call.isLost store depot = !failure.isA .backend := by
        simp [WriteCall.isLost, put, route]
      refine ⟨fun refused => absurd accepted refused, fun lost => ?_, fun _ kept => ?_⟩
      · have other : failure.isA .backend = false := by simpa [isLost] using lost
        rw [other] at counted
        refine ⟨counted, failure, ?_, other⟩
        rw [ended, Except.mapError, Failure.wrapped, if_neg (by simp [other])]
      · have backend : failure.isA .backend = true := by simpa [isLost] using kept
        rw [if_pos backend] at counted
        rw [route, ended]
        exact counted
  next =>
    have route : call.route store = .multipart := if_neg small
    have unlost : call.isLost store depot = false := by simp [WriteCall.isLost, route]
    refine ⟨fun (refused : Not ((call.container store).store.config.Accepts call.size)) => ?_,
      fun lost => absurd (unlost.symm.trans lost) (by decide), fun accepted _ => ?_⟩
    · have refuses := writeBlob_refuses refused call.name call.failIfExists
        { depot with source := call.source }
      exact ⟨refuses.2.metrics, refuses.1⟩
    · have least : (call.container store).store.config.minMultipartSize <= call.size :=
        Int.le_trans (call.container store).minMultipartSize_le (Int.le_of_lt (Int.not_le.mp small))
      have readyRaises : ready.schedule.RaisesOrdinary := schedule.symm ▸ raises
      obtain ⟨most, divisible⟩ := accepted.resolve_left small
      have counts := Container.uploadMultipart_counted readyRaises least most divisible
        ((call.container store).key call.name)
      simp only [if_neg small] at routed
      rw [Yields, <- routed, metrics] at counts
      rw [route]
      exact counts

theorem write_schedule (store : Store) (call : WriteCall) (depot : Depot) :
    (store.write call depot).2.schedule = depot.schedule :=
  ((Container.aloof_schedule depot.schedule).lending (call.container store).store).writeBlob
    (fun _ => Container.lasting_schedule depot.schedule) call.name call.size call.failIfExists
    { depot with source := call.source } rfl

theorem writeAll_write
    (store : Store)
    (call : WriteCall)
    (rest : List WriteStep)
    (depot : Depot) :
    store.writeAll (.write call :: rest) depot =
      let ran := store.write call depot
      let later := store.writeAll rest ran.2
      (⟨call, depot, ran.1, ran.2⟩ :: later.1, later.2) :=
  rfl

/-- Every write of a run is counted as it ends, unless it is refused or lost, so that the counts of
uploads and the lost writes add up to the accepted ones. -/
theorem writeAll_counted
    {depot : Depot}
    (raises : depot.schedule.RaisesOrdinary)
    (store : Store)
    (steps : List WriteStep) :
    let ran := store.writeAll steps depot
    (forall written, written ∈ ran.1 -> written.Counted store) ∧
      ran.2.journal.metrics.uploadTotal
          + ran.1.countP (fun written => written.call.isLost store written.found) =
        depot.journal.metrics.uploadTotal
          + ran.1.countP (fun written => decide (store.config.Accepts written.call.size)) := by
  induction steps generalizing depot with
  | nil => exact ⟨List.forall_mem_nil _, rfl⟩
  | cons step rest ih =>
    cases step with
    | close =>
      have schedule : (Store.close depot).2.schedule = depot.schedule :=
        (Container.aloof_schedule depot.schedule).toDetached.close depot rfl
      have same : Uncounted depot.journal.metrics (Store.close depot).2 :=
        Uncounted.detached.close depot (Metrics.SameUploads.refl _)
      have closedRaises : (Store.close depot).2.schedule.RaisesOrdinary := schedule.symm ▸ raises
      have later := ih closedRaises
      simp only [same.total] at later
      simp only [writeAll]
      exact later
    | write call =>
      have schedule := store.write_schedule call depot
      have counted := store.write_counted raises call
      have leftRaises : (store.write call depot).2.schedule.RaisesOrdinary :=
        schedule.symm ▸ raises
      obtain ⟨all, total⟩ := ih leftRaises
      refine ⟨List.forall_mem_cons.mpr ⟨counted, all⟩, ?_⟩
      have one := counted.balanced
      simp only [writeAll_write, List.countP_cons] at one total ⊢
      omega

theorem writeAll_counted_closed_between :
    let faulty := Schedule.calm.add .uploadPart [2]
      { outcome := some (.error (.of (.transport .noCredentials))) }
    let depot : Depot := { schedule := faulty }
    let call (content : List UInt8) : WriteCall :=
      ⟨{}, "x", .ofBody (.bytes content), content.length, false⟩
    let ran := Store.small.writeAll
      [.write (call [97, 98]), .write (call [97, 98, 99, 100, 101]),
        .write (call (List.replicate 11 97)), .close, .write (call [97])] depot
    depot.schedule.RaisesOrdinary ∧
      ((forall written, written ∈ ran.1 -> written.Counted .small) ∧
        ran.2.journal.metrics.uploadTotal
            + ran.1.countP (fun written => written.call.isLost .small written.found) =
          depot.journal.metrics.uploadTotal
            + ran.1.countP (fun written =>
              decide (Store.small.config.Accepts written.call.size))) ∧
      ran.1.countP (fun written => written.call.isLost .small written.found) = 1 ∧
      ran.2.journal.metrics.uploadTotal = 2 := by
  intro faulty depot call
  have raises : depot.schedule.RaisesOrdinary :=
    Schedule.raisesOrdinary_calm.add (by rintro failure ⟨⟩; rfl) .uploadPart [2]
  exact ⟨raises, Store.small.writeAll_counted raises _, by decide +kernel, by decide +kernel⟩

/-- A write whose stream cannot be read fails, and is counted only if it is one in parts. -/
theorem unread_stream_uncounted :
    let unread : Failure := .of (.raised .operatingSystem [.text "no data"] .null .null)
    let broken (content : List UInt8) : Source :=
      { Source.ofBody (.bytes content) with events := fun _ => { failure := some unread } }
    let written (content : List UInt8) :=
      Store.small.write ⟨{}, "x", broken content, content.length, false⟩ {}
    let short := written [97, 98]
    let long := written [97, 98, 99]
    Store.small.config.Accepts 2 ∧ short.1.mapError Failure.kind = .error .operatingSystem ∧
      short.2.journal.metrics = {} ∧
      Store.small.config.Accepts 3 ∧ long.1.mapError Failure.kind = .error .operatingSystem ∧
      long.2.journal.metrics.multipartFailures = 1 := by
  decide +kernel

end Store

end BlobDepot
