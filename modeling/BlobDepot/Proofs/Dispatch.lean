import BlobDepot.Proofs.Calm
import BlobDepot.Proofs.Configs
import BlobDepot.Proofs.Confined
import BlobDepot.Proofs.Operations
import BlobDepot.Proofs.Reports
import BlobDepot.Proofs.Sessions

set_option autoImplicit false

namespace BlobDepot

open BlobDepot.Action

namespace PartPlan

def covering (size partSize : Int) : PartPlan :=
  let count := (size + partSize - 1) / partSize
  ⟨count, size - (count - 1) * partSize⟩

theorem ofSizes_eq_covering
    {size partSize : Int}
    (positive : 0 < partSize)
    (filled : 0 < size) :
    ofSizes size partSize = .ok (covering size partSize) := by
  obtain ⟨⟨partCount, last⟩, planned, fits⟩ := exists_fits positive (Int.le_of_lt filled)
  obtain rfl : partCount = (size + partSize - 1) / partSize := fits.count positive filled
  have total := fits.total
  simp only [totalSize] at total
  have isLast : last = size - ((size + partSize - 1) / partSize - 1) * partSize := by omega
  rw [planned, isLast, covering]

theorem totalSize_covering (size partSize : Int) :
    (covering size partSize).totalSize partSize = size := by
  simp only [covering, totalSize]
  omega

end PartPlan

namespace ActiveSession

def TakesNext (take : ActiveSession -> UploadedPart -> Except ArgumentError ActiveSession) : Prop :=
  forall session uploaded, uploaded.part.number = session.nextNumber ->
    take session uploaded = .ok (session.push uploaded)

theorem takesNext_addPart : TakesNext addPart :=
  fun _ _ next => addPart_next next

def takeAny
    (session : ActiveSession)
    (uploaded : UploadedPart) : Except ArgumentError ActiveSession :=
  .ok (session.push uploaded)

theorem takesNext_takeAny : TakesNext takeAny :=
  fun _ _ _ => rfl

end ActiveSession

namespace Container

section Numbered

variable (take : ActiveSession -> UploadedPart -> Except ArgumentError ActiveSession)

def uploadTaken (session : ActiveSession) (number size : Int) : Action ActiveSession := do
  let uploaded <- Client.uploadPart session.bucket session.key session.uploadId number size
  count (fun metrics => { metrics with partSizes := metrics.partSizes ++ [uploaded.size] })
  checked (take session uploaded)

/-- Upload so many parts, the numbers of which are counted on without a look at the session. -/
def uploadNumbered
    (plan : PartPlan)
    (partSize : Int) : Nat -> Int -> ActiveSession -> Action (ActiveSession × Except Failure Unit)
  | 0, _, session => return (session, .ok ())
  | left + 1, number, session => do
      match <- attempt (uploadTaken take session number (plan.partSizeFor number partSize)) with
      | .ok extended => uploadNumbered plan partSize left (number + 1) extended
      | .error failure => return (session, .error failure)

variable {take}

theorem uploadNext_eq_uploadTaken
    (takes : ActiveSession.TakesNext take)
    (session : ActiveSession)
    (size : Int) :
    uploadNext session size = uploadTaken take session session.nextNumber size := by
  have taken (tag : Value) (sent : Int) : take session ⟨⟨session.nextNumber, tag⟩, sent⟩ =
      session.addPart ⟨⟨session.nextNumber, tag⟩, sent⟩ :=
    (takes _ _ rfl).trans (ActiveSession.takesNext_addPart _ _ rfl).symm
  simp only [uploadNext, uploadTaken, Client.uploadPart, bind_assoc, pure_bind, taken]

theorem uploadNext_nextNumber (session : ActiveSession) (size : Int) (depot : Depot) :
    Yields (uploadNext session size) depot (fun outcome _ => forall extended,
      outcome = .ok extended -> extended.nextNumber = session.nextNumber + 1) := by
  have uploads : Yields (Client.uploadPart session.bucket session.key session.uploadId
      session.nextNumber size) depot (fun _ _ => True) := trivial
  rw [uploadNext_eq_uploadTaken ActiveSession.takesNext_takeAny]
  refine uploads.bind (fun uploaded _ _ => yields_count _ ?_) (fun _ _ _ => nofun)
  rintro _ ⟨⟩
  exact session.nextNumber_push uploaded

theorem uploadParts_eq_uploadNumbered
    (takes : ActiveSession.TakesNext take)
    (plan : PartPlan)
    (partSize : Int)
    (left : Nat)
    (session : ActiveSession) :
    uploadParts plan partSize left session =
      uploadNumbered take plan partSize left session.nextNumber session := by
  -- The induction is on the parts that are left; what carries it is that a part which was taken
  -- moves the session on to the number that is counted on.
  induction left generalizing session with
  | zero => rfl
  | succ left ih =>
    funext depot
    have numbered := uploadNext_nextNumber session
      (plan.partSizeFor session.nextNumber partSize) depot
    rw [Yields] at numbered
    rw [uploadParts, uploadNumbered, <- uploadNext_eq_uploadTaken takes, run_bind, run_bind,
      run_attempt]
    cases outcome : (uploadNext session
        (plan.partSizeFor session.nextNumber partSize) depot).1 with
    | ok extended => simp only [ih, numbered extended outcome]
    | error failure => rfl

end Numbered

def putWhole (container : Container) (key : String) (size : Int) : Action Unit := do
  let config := container.store.config
  let put :=
    container.store.borrowing (Client.putObject config.bucket key size config.uploadSettings)
  match <- attempt put with
  | .ok () =>
      count (fun metrics => (metrics.countUpload .single .success).countBytes size .single)
      log "debug" "single_upload_completed"
        [("bucket", .text config.bucket), ("key", .text key), ("size", .int size)]
  | .error failure =>
      if failure.isA .backend then
        count (fun metrics => metrics.countUpload .single .failure)
        throw (.because (.putFailed key) failure)
      else
        throw failure

def sendPlanned
    (container : Container)
    (key : String)
    (size : Int)
    (plan : PartPlan) : Action Unit := do
  let (progress, outcome) <- borrowForPlan container key size plan
  match outcome with
  | .ok session =>
      count (fun metrics =>
        (metrics.countUpload .multipart .success).countBytes size .multipart)
      log "info" "multipart_upload_completed"
        [("bucket", .text session.bucket),
          ("key", .text key),
          ("upload_id", .text session.uploadId)]
  | .error failure =>
      let reported <- abort container progress (uploadFailure key failure)
      count (fun metrics => metrics.countUpload .multipart .failure)
      throw (withUploadCause reported failure)

/-- A size is for an upload in parts, and larger than these take or more than the parts that they
take can hold. -/
def Exceeds (container : Container) (size : Int) : Prop :=
  container.bufferSize < size ∧
    (container.store.config.maxMultipartSize < size ∨
      Limits.partCount < (size + container.bufferSize - 1) / container.bufferSize)

instance (container : Container) (size : Int) : Decidable (container.Exceeds size) :=
  inferInstanceAs (Decidable (_ ∧ (_ ∨ _)))

def refusal (container : Container) (size : Int) : ArgumentError :=
  if container.store.config.maxMultipartSize < size then
    .multipartTooLarge size container.store.config.maxMultipartSize
  else
    .tooManyParts

/-- Upload a blob, looking at its size only to refuse what no upload takes and to choose how. -/
def uploadUnguarded (container : Container) (key : String) (size : Int) : Action Unit :=
  if container.Exceeds size then
    fail (.argument (container.refusal size))
  else if size <= container.bufferSize then
    container.putWhole key size
  else
    container.sendPlanned key size (PartPlan.covering size container.bufferSize)

def writeUnguarded
    (container : Container)
    (name : String)
    (size : Int)
    (failIfExists : Bool) : Action Unit := do
  if failIfExists then
    log "debug" "fail_if_already_exists_ignored" [("blob", .text name)]
  container.uploadUnguarded (container.key name) size

section Equal

variable {container : Container} {size : Int}

theorem uploadSingle_eq_uploadUnguarded (small : size <= container.bufferSize) (key : String) :
    container.uploadSingle key size = container.uploadUnguarded key size := by
  have most : container.bufferSize <= container.store.config.maxFileSize :=
    Int.ofNat_le.mpr container.store.config.bufferSize_le
  have isBuffer : (container.store.config.bufferSize : Int) = container.bufferSize := rfl
  have held : Not (container.Exceeds size) := fun exceeds => absurd exceeds.1 (Int.not_lt.mpr small)
  rw [uploadSingle, if_neg (by omega), if_neg (by omega), uploadUnguarded, if_neg held,
    if_pos small]
  rfl

theorem uploadMultipart_eq_uploadUnguarded (large : container.bufferSize < size) (key : String) :
    container.uploadMultipart key size = container.uploadUnguarded key size := by
  have positive := container.bufferSize_pos
  have least := container.minMultipartSize_le
  have total := PartPlan.totalSize_covering size container.bufferSize
  rw [uploadMultipart, PartPlan.ofSizes_eq_covering positive (by omega), uploadUnguarded]
  -- Five checks in a row, of which the second, the planner's and the last one always pass.
  split
  next most =>
    have exceeds : container.Exceeds size := ⟨large, .inl most⟩
    rw [if_pos exceeds, refusal, if_pos most]
    rfl
  next allowed =>
    rw [if_neg (by omega)]
    change (if _ then _ else _) = _
    split
    next many =>
      have exceeds : container.Exceeds size := ⟨large, .inr many⟩
      rw [if_pos exceeds, refusal, if_neg allowed]
      rfl
    next few =>
      have held : Not (container.Exceeds size) := fun exceeds => exceeds.2.elim allowed few
      rw [if_neg held, if_neg (Int.not_le.mpr large), if_neg (not_not.mpr total)]
      rfl

theorem writeBlob_eq_writeUnguarded
    (container : Container)
    (name : String)
    (size : Int)
    (failIfExists : Bool) :
    container.writeBlob name size failIfExists =
      container.writeUnguarded name size failIfExists := by
  have uploads : (if size <= container.bufferSize then
        container.uploadSingle (container.key name) size
      else container.uploadMultipart (container.key name) size) =
      container.uploadUnguarded (container.key name) size := by
    split
    next small => exact uploadSingle_eq_uploadUnguarded small _
    next above => exact uploadMultipart_eq_uploadUnguarded (Int.not_le.mp above) _
  simp only [writeBlob, writeUnguarded, uploads]

end Equal

end Container

structure Depot.Faultless (depot : Depot) : Prop where
  calm : depot.schedule.IsCalm
  reads : forall number, (depot.source.events number).failure = none

namespace Failure

structure OfWork (failure : Failure) : Prop where
  value : failure.isA .value = false
  assertion : failure.isA .assertion = false
  fault : failure.fromService = true -> failure.IsFault

theorem ofWork_aside
    {failure : Failure}
    (value : failure.isA .value = false)
    (assertion : failure.isA .assertion = false)
    (aside : failure.fromService = false) :
    failure.OfWork :=
  ⟨value, assertion, fun served => absurd (aside.symm.trans served) Bool.false_ne_true⟩

theorem ofWork_reported {failure : Failure} (fault : failure.IsFault) (doing : String) :
    (failure.reported doing).OfWork := by
  have kind := fault.reported_kind doing
  cases absent : failure.isAbsent <;> rw [absent] at kind <;>
    refine ofWork_aside ?_ ?_ ?_ <;> simp only [fromService, isA, kind] <;> rfl

theorem OfWork.congr
    {failure other : Failure}
    (work : failure.OfWork)
    (same : other.problem = failure.problem) :
    other.OfWork := by
  have kinds (kind : Kind) : other.isA kind = failure.isA kind := by
    rw [isA, Failure.kind, same]
    rfl
  refine ⟨(kinds _).trans work.value, (kinds _).trans work.assertion, fun served => ?_⟩
  rw [fromService, kinds, kinds] at served
  cases work.fault served with
  | rejected rejection status problem readable =>
    exact .rejected rejection status (same.trans problem) readable
  | unanswered transport => exact .unanswered ((kinds _).trans transport)

theorem ofWork_findEntry
    {value : Value}
    {name : String}
    {error : ShapeError}
    (read : value.findEntry name = .error error) :
    (Failure.of (.shape error)).OfWork := by
  rw [Value.findEntry.eq_def] at read
  split at read <;> cases read
  exact ofWork_aside rfl rfl rfl

theorem ofWork_entry
    {value : Value}
    {name : String}
    {error : ShapeError}
    (read : value.entry name = .error error) :
    (Failure.of (.shape error)).OfWork := by
  rw [Value.entry.eq_def] at read
  (repeat' split at read) <;> cases read <;> exact ofWork_aside rfl rfl rfl

end Failure

theorem confines_faultless : Confines Depot.Faultless Failure.OfWork where
  stays _ _ schedule events faultless :=
    ⟨schedule ▸ faultless.calm, fun number => events ▸ faultless.reads number⟩
  raises depot method number disruption failure faultless listed := by
    rw [faultless.calm] at listed
    cases listed
  states _ := Failure.ofWork_aside rfl rfl rfl
  rejects _ _ _ rejected := ⟨rfl, rfl, fun _ => Service.isFault_of_rejected rejected⟩
  reports _ doing work served := Failure.ofWork_reported (work.fault served) doing

theorem Source.read_ok
    {source : Source}
    (reads : forall number, (source.events number).failure = none)
    (size : Int) :
    exists body, (source.read size).1 = .ok body := by
  rw [read, nextEvent, reads]
  exact ⟨_, rfl⟩

namespace Action

abbrev OfWork {α : Type} (expected : α -> Prop) (action : Action α) : Prop :=
  Confined Depot.Faultless Failure.OfWork expected action

theorem ofWork_readSource (size : Int) : OfWork (fun _ => True) (Client.readSource size) := by
  refine Confined.get_bind (fun _ _ => Confined.optional confines_faultless.close ?_)
  refine Confined.get_bind (fun depot same => ?_)
  obtain ⟨body, isBody⟩ := Source.read_ok same.reads size
  have events := depot.source.events_read size
  cases read : depot.source.read size with
  | mk outcome source =>
    rw [read] at isBody events
    cases isBody
    refine (confined_set (by exact confines_faultless.stays depot _ rfl events same)).bind
      (fun _ _ => ?_)
    exact (confines_faultless.record _).bind (fun _ _ => confined_any body)

theorem ofWork_putObject
    (bucket key : String)
    (length : Int)
    (settings : UploadSettings) :
    OfWork (fun _ => True) (Client.putObject bucket key length settings) := by
  refine (ofWork_readSource length).bind (fun body _ => Confined.ite ?_ ?_)
  · exact (confines_faultless.ask _ _).bind (fun _ _ => confined_any _)
  · exact confined_throw (Failure.ofWork_aside rfl rfl rfl)

theorem ofWork_initiateUpload (bucket key : String) (settings : UploadSettings) :
    OfWork (fun _ => True) (Client.initiateUpload bucket key settings) := by
  refine (confines_faultless.ask _ _).bind (fun answer _ => ?_)
  refine (confined_shaped (fun _ => Failure.ofWork_findEntry)).bind (fun found _ => ?_)
  cases found <;> exact confined_any _

theorem ofWork_uploadPart (bucket key uploadId : String) (number size : Int) :
    OfWork (fun _ => True) (Client.uploadPart bucket key uploadId number size) := by
  refine (ofWork_readSource size).bind (fun body _ => ?_)
  refine (confines_faultless.ask _ _).bind (fun answer _ => ?_)
  exact (confined_shaped (fun _ => Failure.ofWork_entry)).bind (fun _ _ => confined_any _)

theorem ofWork_initiate (container : Container) (key : String) :
    OfWork (fun _ => True) (container.initiate key) := by
  refine (ofWork_initiateUpload _ _ _).bind (fun uploadId _ => Confined.ite ?_ (confined_any _))
  exact confined_throw (Failure.ofWork_aside rfl rfl rfl)

theorem ofWork_uploadNumbered
    (plan : PartPlan)
    (partSize : Int)
    (left : Nat)
    (number : Int)
    (session : ActiveSession) :
    OfWork (fun ended => Ends Failure.OfWork (fun _ => True) ended.2)
      (Container.uploadNumbered ActiveSession.takeAny plan partSize left number session) := by
  induction left generalizing number session with
  | zero => exact confined_pure trivial
  | succ left ih =>
    have uploads : OfWork (fun _ => True)
        (Container.uploadTaken ActiveSession.takeAny session number
          (plan.partSizeFor number partSize)) :=
      (ofWork_uploadPart _ _ _ _ _).bind (fun _ _ =>
        (confines_faultless.count _).bind (fun _ _ => confined_any _))
    refine uploads.attempt_bind (fun outcome ends => ?_)
    cases outcome with
    | ok extended => exact ih (number + 1) extended
    | error failure => exact confined_pure ends

theorem ofWork_complete (session : ActiveSession) (size : Int) :
    OfWork (fun _ => True) (Container.complete session size) := by
  refine Confined.ite ?_ (confined_throw (Failure.ofWork_aside rfl rfl rfl))
  exact (confines_faultless.ask _ _).bind (fun _ _ => confined_any _)

theorem ofWork_followPlan
    (container : Container)
    (key : String)
    (size : Int)
    (plan : PartPlan) :
    OfWork (fun ended => Ends Failure.OfWork (fun _ => True) ended.2)
      (container.followPlan key size plan) := by
  refine (ofWork_initiate container key).attempt_bind (fun outcome ends => ?_)
  cases outcome with
  | error failure => exact confined_pure ends
  | ok session =>
    refine (confines_faultless.log _ _ _).bind (fun _ _ => ?_)
    rw [Container.uploadParts_eq_uploadNumbered ActiveSession.takesNext_takeAny]
    refine (ofWork_uploadNumbered _ _ _ _ _).bind (fun ended ends => ?_)
    obtain ⟨session, outcome⟩ := ended
    cases outcome with
    | error failure => exact confined_pure ends
    | ok _ =>
      refine (ofWork_complete session size).attempt_bind (fun outcome ends => ?_)
      cases outcome <;> exact confined_pure ends

theorem ofWork_borrowForPlan
    (container : Container)
    (key : String)
    (size : Int)
    (plan : PartPlan) :
    OfWork (fun ended => Ends Failure.OfWork (fun _ => True) ended.2)
      (container.borrowForPlan key size plan) := by
  refine (confines_faultless.acquire container.store).attempt_bind (fun outcome ends => ?_)
  cases outcome with
  | error failure => exact confined_pure ends
  | ok reference =>
    -- How the plan ended is a result here, also where it failed.
    refine (ofWork_followPlan container key size plan).bind (fun ended ends => ?_)
    refine (confines_faultless.release reference).attempt_bind (fun given returns => ?_)
    cases given with
    | ok _ => exact confined_pure ends
    | error failure => exact confined_pure returns

theorem ofWork_abort
    (container : Container)
    (progress : UploadProgress)
    (failure : Failure) :
    OfWork (fun reported => reported.problem = failure.problem)
      (container.abort progress failure) := by
  cases progress with
  | notStarted => exact confined_pure rfl
  | completed => exact confined_pure rfl
  | active session =>
    have aborts := confines_faultless.borrowing
      (confines_faultless.abortUpload session.bucket session.key session.uploadId) container.store
    refine aborts.attempt_bind (fun outcome ends => ?_)
    cases outcome with
    | ok _ =>
      exact (confines_faultless.count _).bind (fun _ _ =>
        (confines_faultless.log _ _ _).bind (fun _ _ => confined_pure rfl))
    | error other =>
      refine Confined.ite ?_ (confined_throw ends)
      refine (confines_faultless.count _).bind (fun _ _ => ?_)
      refine (confines_faultless.log _ _ _).bind (fun _ _ => confined_pure ?_)
      rw [Container.attachAbort]
      split <;> rfl

theorem ofWork_sendPlanned
    (container : Container)
    (key : String)
    (size : Int)
    (plan : PartPlan) :
    OfWork (fun _ => True) (container.sendPlanned key size plan) := by
  refine (ofWork_borrowForPlan container key size plan).bind (fun ended ends => ?_)
  obtain ⟨progress, outcome⟩ := ended
  cases outcome with
  | ok session =>
    exact (confines_faultless.count _).bind (fun _ _ => confines_faultless.log _ _ _)
  | error failure =>
    have work : (Container.uploadFailure key failure).OfWork := by
      rw [Container.uploadFailure]
      split
      next => exact Failure.ofWork_aside rfl rfl rfl
      next => exact ends
    -- An abort attaches what it meets to the failure, but leaves its problem as it is.
    refine (ofWork_abort container progress _).bind (fun reported same => ?_)
    refine (confines_faultless.count _).bind (fun _ _ => confined_throw (work.congr ?_))
    rw [<- same, Container.withUploadCause]
    split <;> rfl

theorem ofWork_putWhole (container : Container) (key : String) (size : Int) :
    OfWork (fun _ => True) (container.putWhole key size) := by
  have puts := confines_faultless.borrowing
    (ofWork_putObject container.store.config.bucket key size
      container.store.config.uploadSettings) container.store
  refine puts.attempt_bind (fun outcome ends => ?_)
  cases outcome with
  | ok _ => exact (confines_faultless.count _).bind (fun _ _ => confines_faultless.log _ _ _)
  | error failure =>
    refine Confined.ite ?_ (confined_throw ends)
    exact (confines_faultless.count _).bind (fun _ _ =>
      confined_throw (Failure.ofWork_aside rfl rfl rfl))

theorem ofWork_uploadUnguarded
    {container : Container}
    {size : Int}
    (held : Not (container.Exceeds size))
    (key : String) :
    OfWork (fun _ => True) (container.uploadUnguarded key size) := by
  rw [Container.uploadUnguarded, if_neg held]
  exact Confined.ite (ofWork_putWhole container key size) (ofWork_sendPlanned container key size _)

end Action

namespace Container

theorem writeUnguarded_exceeds
    {container : Container}
    {size : Int}
    (exceeds : container.Exceeds size)
    (name : String)
    (failIfExists : Bool)
    (depot : Depot) :
    exists entries, container.writeUnguarded name size failIfExists depot =
      (.error (.of (.argument (container.refusal size))),
        { depot with journal := { depot.journal with entries := entries } }) := by
  rw [writeUnguarded, uploadUnguarded, if_pos exceeds]
  cases failIfExists with
  | false => exact ⟨depot.journal.entries, rfl⟩
  | true => exact ⟨_, rfl⟩

/-- The checks that a write is left with.  Just the fields whose sizes go together give a
configuration; therefore no check of an upload, of its plan or of the order of its parts ever
fails, and a write is refused just if it is for an upload in parts and exceeds what these take, in
which case nothing has been done yet.  Numbers in messages are written in full, so sizes of more
than `Number.digitLimit` digits are outside of what this tells. -/
theorem writeBlob_unguarded
    (container : Container)
    (name : String)
    (size : Int)
    (failIfExists : Bool) :
    (forall fields draft,
      (exists config, config.toConfigDraft = draft ∧ Config.ofFields fields = .ok config) <->
        Config.Reads fields draft ∧ draft.GoTogether) ∧
      container.writeBlob name size failIfExists =
        container.writeUnguarded name size failIfExists ∧
      (forall take, ActiveSession.TakesNext take -> forall plan partSize left session,
        uploadParts plan partSize left session =
          uploadNumbered take plan partSize left session.nextNumber session) ∧
      forall depot : Depot,
        (container.Exceeds size -> exists entries,
          container.writeBlob name size failIfExists depot =
            (.error (.of (.argument (container.refusal size))),
              { depot with journal := { depot.journal with entries := entries } })) ∧
        (depot.Faultless ->
          Yields (container.writeBlob name size failIfExists) depot (fun outcome _ =>
            ((exists failure, outcome = .error failure ∧ failure.isA .value = true) <->
              container.Exceeds size) ∧
            forall failure, outcome = .error failure -> failure.isA .assertion = false)) := by
  refine ⟨fun _ _ => Config.exists_ofFields_iff, writeBlob_eq_writeUnguarded ..,
    fun _ => uploadParts_eq_uploadNumbered, fun depot => ?_⟩
  rw [writeBlob_eq_writeUnguarded]
  refine ⟨fun exceeds => writeUnguarded_exceeds exceeds name failIfExists depot,
    fun faultless => ?_⟩
  by_cases exceeds : container.Exceeds size
  next =>
    obtain ⟨entries, refuses⟩ := writeUnguarded_exceeds exceeds name failIfExists depot
    rw [Yields, refuses]
    refine ⟨⟨fun _ => exceeds, fun _ => ⟨_, rfl, rfl⟩⟩, ?_⟩
    rintro _ ⟨⟩
    rfl
  next =>
    have works : OfWork (fun _ => True) (container.writeUnguarded name size failIfExists) :=
      Confined.optional (confines_faultless.log _ _ _) (ofWork_uploadUnguarded exceeds _)
    refine (works depot faultless).mono (fun outcome next ended => ⟨?_, ?_⟩)
    · refine ⟨?_, fun other => absurd other exceeds⟩
      rintro ⟨failure, rfl, value⟩
      exact absurd (ended.2.value.symm.trans value) Bool.false_ne_true
    · rintro failure rfl
      exact ended.2.assertion

theorem writeBlob_unguarded_small :
    ActiveSession.TakesNext ActiveSession.addPart ∧
      uploadParts ⟨2, 1⟩ 2 2 ⟨"b", "a", "u", [], 0⟩ =
        uploadNumbered ActiveSession.addPart ⟨2, 1⟩ 2 2 1 ⟨"b", "a", "u", [], 0⟩ ∧
      Container.Exceeds ⟨.small, {}⟩ 11 ∧
      (exists entries, Container.writeBlob ⟨.small, {}⟩ "a" 11 true {} =
        (.error (.of (.argument (.multipartTooLarge 11 10))),
          { journal := { entries := entries } })) ∧
      Depot.Faultless {} ∧ Not (Container.Exceeds ⟨.small, {}⟩ (-1)) ∧
      Yields (Container.writeBlob ⟨.small, {}⟩ "a" (-1) false) {} (fun outcome _ =>
        forall failure, outcome = .error failure -> failure.isA .value = false) := by
  have exceeds : Container.Exceeds ⟨.small, {}⟩ 11 := by decide
  have held : Not (Container.Exceeds ⟨.small, {}⟩ (-1)) := by decide
  have faultless : Depot.Faultless {} := ⟨fun _ _ => rfl, fun _ => rfl⟩
  have large := writeBlob_unguarded ⟨.small, {}⟩ "a" 11 true
  have negative := ((writeBlob_unguarded ⟨.small, {}⟩ "a" (-1) false).2.2.2 {}).2 faultless
  refine ⟨ActiveSession.takesNext_addPart, large.2.2.1 _ ActiveSession.takesNext_addPart _ _ _ _,
    exceeds, (large.2.2.2 {}).1 exceeds, faultless, held, negative.mono ?_⟩
  intro outcome _ ended failure failed
  by_contra value
  exact held (ended.1.mp ⟨failure, failed, Bool.not_eq_false _ ▸ value⟩)

end Container

end BlobDepot
