import BlobDepot.Proofs.Lifecycle
import BlobDepot.Proofs.Uploads

set_option autoImplicit false

namespace BlobDepot

open BlobDepot.Action

theorem Begun.around
    {origin first depot next : Depot}
    {upload : Upload}
    (before : SameWork origin first)
    (begun : Begun first upload depot)
    (later : SameWork depot next) :
    Begun origin upload next where
  schedule := (later.schedule.trans begun.schedule).trans before.schedule
  steps := by rw [later.exchange, begun.steps, before.exchange]
  objects early := by
    rw [later.service, begun.objects (before.schedule ▸ early), before.service]
  others early uploadId other := by
    rw [later.service, begun.others (before.schedule ▸ early) uploadId other, before.service]
  pending early := by
    rw [later.service]
    exact begun.pending (before.schedule ▸ early)

theorem Refused.around
    {origin first depot next : Depot}
    (before : SameWork origin first)
    (refused : Refused first depot)
    (later : SameWork depot next) :
    Refused origin next where
  schedule := (later.schedule.trans refused.schedule).trans before.schedule
  steps := by rw [later.exchange, refused.steps, before.exchange]
  objects early := by
    rw [later.service, refused.objects (before.schedule ▸ early), before.service]

theorem Replaced.around
    {origin first depot next : Depot}
    {bucket key : String}
    {size : Int}
    (before : SameWork origin first)
    (replaced : Replaced first bucket key size depot)
    (later : SameWork depot next) :
    Replaced origin bucket key size next := by
  rw [Replaced, before.service, before.source] at replaced
  rw [Replaced, later.service]
  exact replaced

theorem Finished.around
    {origin first depot next : Depot}
    {upload : Upload}
    {size : Int}
    (before : SameWork origin first)
    (finished : Finished first upload size depot)
    (later : SameWork depot next) :
    Finished origin upload size next where
  schedule := (later.schedule.trans finished.schedule).trans before.schedule
  steps := by rw [later.exchange, finished.steps, before.exchange]
  object early := (finished.object (before.schedule ▸ early)).around before later
  gone early uploadId := by
    rw [later.service, finished.gone (before.schedule ▸ early) uploadId, before.service]

theorem Sent.later
    {request : Request}
    {depot middle next : Depot}
    {outcome : Except Failure Answer}
    (sent : Sent request depot outcome middle)
    (same : SameWork middle next) :
    Sent request depot outcome next where
  source := same.source.trans sent.source
  schedule := same.schedule.trans sent.schedule
  exchange := same.exchange.trans sent.exchange
  grown := sent.grown.trans same.grown
  effect early writing := by
    rw [same.service]
    exact sent.effect early writing

def Acquired (origin : Depot) (borrowers : Nat) (depot : Depot) :
    Except Failure Nat -> Depot -> Prop
  | .ok reference, next => reference = origin.references.length ∧
      Lent origin (borrowers + 1) next ∧ next.closed = false ∧ SameWork depot next
  | .error _, next => Lent origin borrowers next ∧ SameWork depot next ∧
      (depot.closed = true ∨ depot.current = none)

theorem acquire_acquired
    {origin depot : Depot}
    {borrowers : Nat}
    {store : Store}
    (lent : Lent origin borrowers depot)
    (leavesOpen : LeavesOpen store origin.schedule) :
    Yields store.acquire depot (Acquired origin borrowers depot) := by
  have acquired := lent.acquire leavesOpen
  have same := (SameWork.aloof depot).acquire store depot (SameWork.refl depot)
  have lends := lent.acquire_of_open store
  rw [Yields]
  cases ran : store.acquire depot with
  | mk outcome next =>
    rw [ran] at acquired same lends
    cases outcome with
    | ok reference => exact ⟨acquired.1, acquired.2.1, acquired.2.2, same⟩
    | error failure =>
      refine ⟨acquired, same, ?_⟩
      by_contra both
      obtain ⟨isOpen, has⟩ := not_or.mp both
      cases lends (Bool.eq_false_iff.mpr isOpen) has

def Released (origin : Depot) (borrowers : Nat) (depot : Depot) :
    Except Failure Bool -> Depot -> Prop
  | .ok _, next => Lent origin borrowers next ∧ SameWork depot next ∧
      (next.closed = false -> next.current ≠ none)
  | .error _, next => Lent origin borrowers next ∧ SameWork depot next ∧ next.closed = true

theorem release_released
    {origin depot : Depot}
    {borrowers : Nat}
    (lent : Lent origin (borrowers + 1) depot) :
    Yields (Reference.release origin.references.length) depot
      (Released origin borrowers depot) := by
  have given := lent.release
  have same := (SameWork.aloof depot).release origin.references.length depot (SameWork.refl depot)
  rw [Yields]
  cases closed : depot.closed with
  | false =>
    obtain ⟨next, released, current⟩ := lent.release_of_open closed
    rw [released] at given same ⊢
    exact ⟨given, same, fun _ => by simp [current]⟩
  | true =>
    have stays := aloof_closed.release origin.references.length depot closed
    cases released : Reference.release origin.references.length depot with
    | mk outcome next =>
      rw [released] at given same stays
      cases outcome with
      | ok last => exact ⟨given, same, fun isOpen => by cases stays.symm.trans isOpen⟩
      | error failure => exact ⟨given, same, stays⟩

inductive Borrowed
    {α : Type}
    (origin : Depot)
    (borrowers : Nat)
    (depot : Depot)
    (expected : Except Failure α -> Depot -> Prop) : Except Failure α -> Depot -> Prop
  | refused (failure : Failure) (next : Depot) (lent : Lent origin borrowers next)
      (same : SameWork depot next) (cannot : depot.closed = true ∨ depot.current = none) :
      Borrowed origin borrowers depot expected (.error failure) next
  | done (outcome : Except Failure α) (left next : Depot) (lent : Lent origin borrowers next)
      (yields : expected outcome left) (same : SameWork left next)
      (current : next.closed = false -> next.current ≠ none) :
      Borrowed origin borrowers depot expected outcome next
  | lost (outcome : Except Failure α) (failure : Failure) (left next : Depot)
      (lent : Lent origin borrowers next) (yields : expected outcome left)
      (same : SameWork left next) (closed : next.closed = true) :
      Borrowed origin borrowers depot expected (.error failure) next

theorem borrowing_borrowed
    {α : Type}
    {origin depot : Depot}
    {borrowers : Nat}
    {store : Store}
    {work : Action α}
    {expected : Except Failure α -> Depot -> Prop}
    (lent : Lent origin borrowers depot)
    (leavesOpen : LeavesOpen store origin.schedule)
    (keeps : Keeps (Lent origin (borrowers + 1)) work)
    (works : forall middle, SameWork depot middle -> Lent origin (borrowers + 1) middle ->
      middle.closed = false -> Yields work middle expected) :
    Yields (store.borrowing work) depot (Borrowed origin borrowers depot expected) := by
  refine (acquire_acquired lent leavesOpen).bind (fun reference middle acquired => ?_)
    (fun failure next acquired => ?_)
  · obtain ⟨rfl, lentMiddle, opened, same⟩ := acquired
    have worked := (works middle same lentMiddle opened).keeping keeps lentMiddle
    refine worked.attempt_bind (fun outcome left done => ?_)
    refine (release_released done.2).bind (fun last next released => ?_)
      (fun failure next released => ?_)
    · obtain ⟨lentNext, same, current⟩ := released
      rw [Yields, run_settle]
      exact .done outcome left next lentNext done.1 same current
    · obtain ⟨lentNext, same, closed⟩ := released
      exact .lost outcome failure left next lentNext done.1 same closed
  · obtain ⟨lentNext, same, cannot⟩ := acquired
    exact .refused failure next lentNext same cannot

inductive Planned (container : Container) (key : String) (size : Int) (origin : Depot) :
    UploadProgress × Except Failure ActiveSession -> Depot -> Prop
  | refused (failure : Failure) (next : Depot) (refused : Refused origin next) :
      Planned container key size origin (.notStarted, .error failure) next
  | stopped (session : ActiveSession) (failure : Failure) (next : Depot)
      (bucket : session.upload.bucket = container.bucket) (object : session.upload.key = key)
      (begun : Begun origin session.upload next)
      (current : next.closed = false -> next.current ≠ none) :
      Planned container key size origin (.active session, .error failure) next
  | finished (session : ActiveSession) (next : Depot)
      (bucket : session.upload.bucket = container.bucket) (object : session.upload.key = key)
      (finished : Finished origin session.upload size next) :
      Planned container key size origin (.completed, .ok session) next
  | lost (upload : Upload) (failure : Failure) (next : Depot)
      (finished : Finished origin upload size next) (closed : next.closed = true) :
      Planned container key size origin (.completed, .error failure) next

theorem borrowForPlan_planned
    {origin depot : Depot}
    {borrowers : Nat}
    {container : Container}
    (lent : Lent origin borrowers depot)
    (leavesOpen : LeavesOpen container.store origin.schedule)
    (key : String)
    (size : Int)
    (plan : PartPlan) :
    Yields (container.borrowForPlan key size plan) depot (fun outcome next =>
      exists ended, outcome = .ok ended ∧ Lent origin borrowers next ∧
        Planned container key size depot ended next) := by
  refine (acquire_acquired lent leavesOpen).attempt_bind (fun outcome middle acquired => ?_)
  cases outcome with
  | error failure =>
    obtain ⟨lentNext, same, _⟩ := acquired
    exact ⟨_, rfl, lentNext, .refused failure middle same.refused⟩
  | ok reference =>
    obtain ⟨rfl, lentMiddle, _, before⟩ := acquired
    have keeps : Keeps (Lent origin (borrowers + 1)) (container.followPlan key size plan) :=
      (Lent.lasting origin borrowers).followPlan (fun _ _ => trivial) size plan
    have followed := (followPlan_followed container key size plan middle).keeping keeps lentMiddle
    refine followed.bind (fun ended left done => ?_) (fun failure left done => ?_)
    · obtain ⟨⟨_, isEnded, followed⟩, lentLeft⟩ := done
      cases isEnded
      refine (release_released lentLeft).attempt_bind (fun outcome next released => ?_)
      cases outcome with
      | ok last =>
        obtain ⟨lentNext, later, current⟩ := released
        refine ⟨_, rfl, lentNext, ?_⟩
        -- Once the client is given back the outcome of the upload stands.
        cases followed with
        | refused failure _ refused => exact .refused failure next (refused.around before later)
        | stopped session failure _ bucket object begun =>
          exact .stopped session failure next bucket object (begun.around before later) current
        | finished session _ bucket object finished =>
          exact .finished session next bucket object (finished.around before later)
      | error failure =>
        obtain ⟨lentNext, later, closed⟩ := released
        refine ⟨_, rfl, lentNext, ?_⟩
        cases followed with
        | refused _ _ refused => exact .refused failure next (refused.around before later)
        | stopped session _ _ bucket object begun =>
          exact .stopped session failure next bucket object (begun.around before later)
            (fun isOpen => by cases closed.symm.trans isOpen)
        | finished session _ bucket object finished =>
          exact .lost session.upload failure next (finished.around before later) closed
    · obtain ⟨⟨_, impossible, _⟩, _⟩ := done
      cases impossible

/-- What is done about an upload that failed: its abort is asked for while the store is open, or
the client could not be had. -/
inductive AbortTried
    (origin : Depot)
    (borrowers : Nat)
    (session : ActiveSession)
    (depot next : Depot) : Prop
  | refused (same : SameWork depot next) (cannot : depot.closed = true ∨ depot.current = none)
  | asked (given : Except Failure Answer) (middle : Depot) (before : SameWork depot middle)
      (lent : Lent origin (borrowers + 1) middle) (opened : middle.closed = false)
      (sent : Sent (.abortUpload session.bucket session.key session.uploadId) middle given next)

theorem AbortTried.later
    {origin depot middle next : Depot}
    {borrowers : Nat}
    {session : ActiveSession}
    (same : SameWork middle next)
    (tried : AbortTried origin borrowers session depot middle) :
    AbortTried origin borrowers session depot next := by
  cases tried with
  | refused before cannot => exact .refused (before.trans same) cannot
  | asked given lending before lent opened sent =>
    exact .asked given lending before lent opened (sent.later same)

theorem abort_tried
    {origin depot : Depot}
    {borrowers : Nat}
    {container : Container}
    (lent : Lent origin borrowers depot)
    (leavesOpen : LeavesOpen container.store origin.schedule)
    (session : ActiveSession)
    (failure : Failure) :
    Yields (container.abort (.active session) failure) depot (fun _ next =>
      AbortTried origin borrowers session depot next) := by
  have keeps : Keeps (Lent origin (borrowers + 1))
      (Client.abortUpload session.bucket session.key session.uploadId) :=
    (Lent.lasting origin borrowers).abortUpload trivial
  have works : forall middle, SameWork depot middle -> Lent origin (borrowers + 1) middle ->
      middle.closed = false ->
      Yields (Client.abortUpload session.bucket session.key session.uploadId) middle
        (fun _ left => AbortTried origin borrowers session depot left) := by
    intro middle before lent opened
    refine (ask_asked _ _ middle).bind (fun answer left sent => ?_) (fun failure left asked => ?_)
    · exact .asked _ middle before lent opened sent
    · obtain ⟨given, sent⟩ := asked
      exact .asked _ middle before lent opened sent
  have aloof : Aloof (AbortTried origin borrowers session depot) :=
    SameWork.aloof_of_stable (fun _ _ same tried => tried.later same)
  refine (borrowing_borrowed lent leavesOpen keeps works).attempt_bind ?_
  intro outcome left borrowed
  have tried : AbortTried origin borrowers session depot left := by
    cases borrowed with
    | refused failure _ _ same cannot => exact .refused same cannot
    | done _ middle _ _ tried same _ => exact tried.later same
    | lost _ failure middle _ _ tried same _ => exact tried.later same
  cases outcome with
  | ok _ =>
    exact (aloof.count _).bind (fun _ => (aloof.log _ _ _).bind (fun _ => keeps_pure _)) left tried
  | error aborted =>
    refine Keeps.ite ?_ (keeps_throw aborted) left tried
    exact (aloof.count _).bind (fun _ => (aloof.log _ _ _).bind (fun _ => keeps_pure _))

theorem steps_of_grown
    {origin depot : Depot}
    {events : List Event}
    {steps : List UploadStep}
    (history : depot.journal.history = origin.journal.history ++ events)
    (known : uploadSteps depot.exchange = uploadSteps origin.exchange ++ steps) :
    uploadSteps events = steps := by
  rw [uploadSteps_exchange, uploadSteps_exchange, history, uploadSteps_append] at known
  exact List.append_cancel_left known

def Upload.abortCall (upload : Upload) : Event :=
  .called (.request (.abortUpload upload.bucket upload.key upload.uploadId))

def AskedInTime (upload : Upload) (events : List Event) : Prop :=
  exists before later, events = before ++ upload.abortCall :: later ∧
    before.any Event.isStoreClosed = false ∧ uploadSteps before = [.started upload]

structure Aborted (origin : Depot) (upload : Upload) (depot : Depot) : Prop where
  schedule : depot.schedule = origin.schedule
  inTime : exists events, depot.journal.history = origin.journal.history ++ events ∧
    AskedInTime upload events
  objects : origin.schedule.FailsEarly -> depot.service.objects = origin.service.objects
  ended :
    uploadSteps depot.exchange =
        uploadSteps origin.exchange ++ [.started upload, .abortAsked upload] ∨
      uploadSteps depot.exchange =
        uploadSteps origin.exchange ++ [.started upload, .abortAsked upload, .aborted upload] ∧
      (origin.schedule.FailsEarly -> forall uploadId, depot.service.uploads.get? uploadId =
        if uploadId = upload.uploadId then none else origin.service.uploads.get? uploadId)

theorem Begun.aborted
    {origin depot next : Depot}
    {session : ActiveSession}
    {given : Except Failure Answer}
    {before : List Event}
    (begun : Begun origin session.upload depot)
    (history : depot.journal.history = origin.journal.history ++ before)
    (unclosed : before.any Event.isStoreClosed = false)
    (sent : Sent (.abortUpload session.bucket session.key session.uploadId) depot given next) :
    Aborted origin session.upload next := by
  have steps := sent.steps
  rw [begun.steps, List.append_assoc] at steps
  have effect (early : origin.schedule.FailsEarly) := sent.effect (begun.schedule ▸ early) rfl
  have performed (early : origin.schedule.FailsEarly) :
      depot.service.perform (.abortUpload session.bucket session.key session.uploadId) =
        (.ok (.data (.map [])),
          { depot.service with uploads := depot.service.uploads.erase session.uploadId }) := by
    obtain ⟨parts, found⟩ := Option.isSome_iff_exists.mp (begun.pending early)
    exact Service.perform_abortUpload found
  refine ⟨sent.schedule.trans begun.schedule, ?_, fun early => ?_, ?_⟩
  · obtain ⟨later, laterHistory⟩ := sent.grown
    refine ⟨before ++ session.upload.abortCall :: later, ?_, before, later, rfl, unclosed,
      steps_of_grown history begun.steps⟩
    rw [laterHistory, Depot.history_recorded, history]
    simp [Upload.abortCall, ActiveSession.upload]
  · obtain same | done := (effect early).service
    · rw [same]
      exact begun.objects early
    · rw [done, performed early]
      exact begun.objects early
  · cases given with
    | error failure => exact .inl steps
    | ok answer =>
      refine .inr ⟨steps, fun early uploadId => ?_⟩
      have done := (effect early).of_ok id
      rw [performed early] at done
      have left : next.service =
          { depot.service with uploads := depot.service.uploads.erase session.uploadId } :=
        (congrArg Prod.snd done).symm
      rw [left]
      by_cases same : uploadId = session.upload.uploadId
      next =>
        rw [if_pos same, same]
        simp [ActiveSession.upload]
      next =>
        have different : uploadId ≠ session.uploadId := same
        rw [if_neg same, <- begun.others early uploadId same]
        simp [different]

structure Stored (origin : Depot) (bucket key : String) (size : Int) (depot : Depot) : Prop where
  schedule : depot.schedule = origin.schedule
  steps : uploadSteps depot.exchange = uploadSteps origin.exchange
  object : origin.schedule.FailsEarly -> Replaced origin bucket key size depot
  uploads : origin.schedule.FailsEarly -> depot.service.uploads = origin.service.uploads

theorem Stored.around
    {origin first depot next : Depot}
    {bucket key : String}
    {size : Int}
    (before : SameWork origin first)
    (stored : Stored first bucket key size depot)
    (later : SameWork depot next) :
    Stored origin bucket key size next where
  schedule := (later.schedule.trans stored.schedule).trans before.schedule
  steps := by rw [later.exchange, stored.steps, before.exchange]
  object early := (stored.object (before.schedule ▸ early)).around before later
  uploads early := by
    rw [later.service, stored.uploads (before.schedule ▸ early), before.service]

/-- How a write ends.  It fails after the object was stored only if giving the client back
fails. -/
inductive Written (container : Container) (key : String) (size : Int) (origin : Depot) :
    Except Failure Unit -> Depot -> Prop
  | refused (failure : Failure) (next : Depot) (refused : Refused origin next) :
      Written container key size origin (.error failure) next
  | aborted (upload : Upload) (failure : Failure) (next : Depot)
      (bucket : upload.bucket = container.bucket) (object : upload.key = key)
      (aborted : Aborted origin upload next) :
      Written container key size origin (.error failure) next
  | orphaned (upload : Upload) (failure : Failure) (next : Depot)
      (bucket : upload.bucket = container.bucket) (object : upload.key = key)
      (begun : Begun origin upload next) (closed : next.closed = true) :
      Written container key size origin (.error failure) next
  | lost (upload : Upload) (failure : Failure) (next : Depot)
      (finished : Finished origin upload size next) (closed : next.closed = true) :
      Written container key size origin (.error failure) next
  | finished (upload : Upload) (next : Depot)
      (bucket : upload.bucket = container.bucket) (object : upload.key = key)
      (finished : Finished origin upload size next) :
      Written container key size origin (.ok ()) next
  | lostAtOnce (failure : Failure) (next : Depot)
      (stored : Stored origin container.bucket key size next) (closed : next.closed = true) :
      Written container key size origin (.error failure) next
  | stored (next : Depot) (stored : Stored origin container.bucket key size next) :
      Written container key size origin (.ok ()) next

theorem Aborted.since
    {origin first depot : Depot}
    {upload : Upload}
    (before : SameWork origin first)
    (history : first.journal.history = origin.journal.history)
    (aborted : Aborted first upload depot) :
    Aborted origin upload depot where
  schedule := aborted.schedule.trans before.schedule
  inTime := history ▸ aborted.inTime
  objects early := (aborted.objects (before.schedule ▸ early)).trans
    (congrArg Service.objects before.service)
  ended := by
    have ended := aborted.ended
    rw [before.schedule, before.service, before.exchange] at ended
    exact ended

theorem Aborted.later
    {origin depot next : Depot}
    {upload : Upload}
    (aborted : Aborted origin upload depot)
    (same : SameWork depot next) :
    Aborted origin upload next where
  schedule := same.schedule.trans aborted.schedule
  inTime := by
    obtain ⟨events, history, before, later, asked, unclosed⟩ := aborted.inTime
    obtain ⟨more, moreHistory⟩ := same.grown
    refine ⟨events ++ more, ?_, before, later ++ more, ?_, unclosed⟩
    · rw [moreHistory, history, List.append_assoc]
    · simp [asked]
  objects early := same.service ▸ aborted.objects early
  ended := by
    rw [same.exchange, same.service]
    exact aborted.ended

theorem aloof_refused (origin : Depot) : Aloof (Refused origin) :=
  SameWork.aloof_of_stable (fun _ _ same refused => refused.around (SameWork.refl origin) same)

theorem aloof_begun (origin : Depot) (upload : Upload) : Aloof (Begun origin upload) :=
  SameWork.aloof_of_stable (fun _ _ same begun => begun.around (SameWork.refl origin) same)

theorem aloof_finished (origin : Depot) (upload : Upload) (size : Int) :
    Aloof (Finished origin upload size) :=
  SameWork.aloof_of_stable (fun _ _ same finished => finished.around (SameWork.refl origin) same)

theorem aloof_aborted (origin : Depot) (upload : Upload) : Aloof (Aborted origin upload) :=
  SameWork.aloof_of_stable (fun _ _ same aborted => aborted.later same)

theorem abort_then_report
    {container : Container}
    {progress : UploadProgress}
    {failure : Failure}
    {depot : Depot}
    {kept : Depot -> Prop}
    {expected : Except Failure Unit -> Depot -> Prop}
    (aloof : Aloof kept)
    (aborts : Yields (container.abort progress failure) depot (fun _ next => kept next))
    (expects : forall failure next, kept next -> expected (.error failure) next)
    (change : Metrics -> Metrics)
    (report : Failure -> Failure) :
    Yields (do
      let reported <- container.abort progress failure
      count change
      throw (report reported)) depot expected :=
  aborts.bind (fun _ next holds => expects _ _ (aloof.count change next holds))
    (fun failure next holds => expects failure next holds)

theorem abort_of_begun
    {origin depot start : Depot}
    {before borrowers : Nat}
    {container : Container}
    {session : ActiveSession}
    (lentStart : Lent origin before start)
    (grown : Grown start depot)
    (lent : Lent origin borrowers depot)
    (leavesOpen : LeavesOpen container.store origin.schedule)
    (begun : Begun start session.upload depot)
    (current : depot.closed = false -> depot.current ≠ none)
    (failure : Failure) :
    Yields (container.abort (.active session) failure) depot (fun _ next =>
      Aborted start session.upload next ∨
        Begun start session.upload next ∧ next.closed = true) := by
  have tried := abort_tried lent leavesOpen session failure
  have stays : Keeps (fun depot => depot.closed = true)
      (container.abort (.active session) failure) :=
    (aloof_closed.lending container.store).abort
      (fun _ => lasting_closed) (fun _ _ _ => trivial) _ failure
  cases tried with
  | asked given middle same lentMiddle opened sent =>
    obtain ⟨events, history⟩ := grown.trans same.grown
    have since := lentStart.closed_since lentMiddle history
    rw [opened] at since
    have unclosed := (Bool.or_eq_false_iff.mp since.symm).2
    have begun := begun.around (SameWork.refl start) same
    exact .inl (begun.aborted history unclosed sent)
  | refused same cannot =>
    have closed : depot.closed = true := by
      cases closed : depot.closed with
      | true => rfl
      | false =>
        obtain isClosed | unmade := cannot
        · exact closed.symm.trans isClosed
        · exact absurd unmade (current closed)
    exact .inr ⟨begun.around (SameWork.refl start) same, stays depot closed⟩

theorem uploadMultipart_written
    {origin depot : Depot}
    {borrowers : Nat}
    {container : Container}
    (lent : Lent origin borrowers depot)
    (leavesOpen : LeavesOpen container.store origin.schedule)
    (key : String)
    (size : Int) :
    Yields (container.uploadMultipart key size) depot
      (Written container key size depot) := by
  have untouched : Refused depot depot := (SameWork.refl depot).refused
  refine Yields.check (fun _ => .refused _ depot untouched) (fun _ => ?_)
  refine Yields.check (fun _ => .refused _ depot untouched) (fun _ => ?_)
  cases planned : PartPlan.ofSizes size container.bufferSize with
  | error error => exact .refused _ depot untouched
  | ok plan =>
    refine Yields.check (fun _ => .refused _ depot untouched) (fun _ => ?_)
    refine Yields.check (fun _ => .refused _ depot untouched) (fun _ => ?_)
    have grows : Keeps (Grown depot) (container.borrowForPlan key size plan) :=
      ((aloof_grown depot).lending container.store).borrowForPlan
        (fun _ => lasting_grown depot) (fun _ _ => trivial) size plan
    have planned := borrowForPlan_planned lent leavesOpen key size plan
    refine (planned.keeping grows (Grown.refl depot)).bind ?_ ?_
    · intro ended left done
      obtain ⟨⟨_, isEnded, lentLeft, planned⟩, grown⟩ := done
      cases isEnded
      cases planned with
      | finished session _ bucket object finished =>
        have aloof := aloof_finished depot session.upload size
        refine yields_count _ ?_
        exact .finished session.upload _ bucket object
          (aloof.log _ _ _ _ (aloof.logs left _ rfl finished))
      | refused failure _ refused =>
        have aborts : Yields (container.abort .notStarted (Container.uploadFailure key failure))
            left (fun _ next => Refused depot next) := refused
        exact abort_then_report (aloof_refused depot) aborts .refused _ _
      | lost upload failure _ finished closed =>
        have aborts : Yields (container.abort .completed (Container.uploadFailure key failure))
            left (fun _ next => Finished depot upload size next ∧ next.closed = true) :=
          ⟨finished, closed⟩
        refine abort_then_report ((aloof_finished depot upload size).and aloof_closed) aborts ?_ _ _
        exact fun failure next lost => .lost upload failure next lost.1 lost.2
      | stopped session failure _ bucket object begun current =>
        have aborts := abort_of_begun lent grown lentLeft leavesOpen begun current
          (Container.uploadFailure key failure)
        -- What the abort leaves is not touched by the count and the report after it.
        have aloof := (aloof_aborted depot session.upload).or
          ((aloof_begun depot session.upload).and aloof_closed)
        refine abort_then_report aloof aborts (fun failure next ended => ?_) _ _
        obtain aborted | ⟨begun, closed⟩ := ended
        · exact .aborted session.upload failure next bucket object aborted
        · exact .orphaned session.upload failure next bucket object begun closed
    · intro failure left done
      obtain ⟨⟨_, impossible, _⟩, _⟩ := done
      cases impossible

theorem aloof_stored (origin : Depot) (bucket key : String) (size : Int) :
    Aloof (Stored origin bucket key size) :=
  SameWork.aloof_of_stable (fun _ _ same stored => stored.around (SameWork.refl origin) same)

def Put (origin : Depot) (bucket key : String) (size : Int) : Except Failure Unit -> Depot -> Prop
  | .ok (), next => Stored origin bucket key size next
  | .error _, next => Refused origin next

theorem Put.around
    {origin first depot next : Depot}
    {bucket key : String}
    {size : Int}
    {outcome : Except Failure Unit}
    (before : SameWork origin first)
    (put : Put first bucket key size outcome depot)
    (later : SameWork depot next) :
    Put origin bucket key size outcome next := by
  cases outcome with
  | ok _ => exact Stored.around before put later
  | error failure => exact Refused.around before put later

theorem Moved.refused
    {size : Int}
    {depot next : Depot}
    {outcome : Except Failure Body}
    (moved : Moved size depot outcome next) :
    Refused depot next where
  schedule := moved.schedule
  steps := congrArg uploadSteps moved.exchange
  objects _ := congrArg Service.objects moved.service

theorem stored_of_sent
    {bucket key : String}
    {size : Int}
    {settings : UploadSettings}
    {depot middle next : Depot}
    {body : Body}
    {answer : Answer}
    (moved : Moved size depot (.ok body) middle)
    (whole : (body.length : Int) = size)
    (sent : Sent (.putObject bucket key body size settings) middle (.ok answer) next) :
    Stored depot bucket key size next := by
  obtain ⟨performed, made, objects, uploads⟩ :=
    Service.perform_putObject depot.service bucket key body size settings
  have done : depot.schedule.FailsEarly -> next.service = performed := by
    intro early
    have effect := (sent.effect (moved.schedule ▸ early) rfl).of_ok id
    rw [moved.service, made] at effect
    exact (congrArg Prod.snd effect).symm
  have content := ((Cut.refl depot.source.rest).read (moved.read body rfl)).single
  refine {
    schedule := sent.schedule.trans moved.schedule
    steps := (sent.quiet trivial).trans (congrArg uploadSteps moved.exchange)
    object := fun early => ⟨body, whole, fun known isKnown => ?_, ?_⟩
    uploads := fun early => by rw [done early, uploads] }
  · rw [<- whole, Int.toNat_natCast]
    exact content known isKnown
  · rw [done early, objects]

theorem refused_of_sent
    {bucket key : String}
    {size : Int}
    {settings : UploadSettings}
    {depot middle next : Depot}
    {body : Body}
    {outcome : Except Failure Body}
    {failure : Failure}
    (moved : Moved size depot outcome middle)
    (sent : Sent (.putObject bucket key body size settings) middle (.error failure) next) :
    Refused depot next where
  schedule := sent.schedule.trans moved.schedule
  steps := (sent.quiet trivial).trans (congrArg uploadSteps moved.exchange)
  objects early := by
    obtain ⟨performed, made, _⟩ :=
      Service.perform_putObject depot.service bucket key body size settings
    obtain same | ⟨rejection, rejected⟩ :=
      (sent.effect (moved.schedule ▸ early) rfl).of_error rfl
    · rw [same, moved.service]
    · rw [moved.service, made] at rejected
      cases rejected

theorem putObject_put
    (bucket key : String)
    (size : Int)
    (settings : UploadSettings)
    (depot : Depot) :
    Yields (Client.putObject bucket key size settings) depot (Put depot bucket key size) := by
  refine (readSource_moved size depot).bind (fun body middle moved => ?_)
    (fun failure middle moved => moved.refused)
  by_cases whole : (body.length : Int) = size
  next =>
    rw [if_pos whole]
    refine (ask_asked _ _ middle).bind (fun answer next sent => ?_) (fun failure next asked => ?_)
    · exact stored_of_sent moved whole sent
    · obtain ⟨given, sent⟩ := asked
      exact refused_of_sent moved sent
  next =>
    rw [if_neg whole]
    exact moved.refused

theorem uploadSingle_written
    {origin depot : Depot}
    {borrowers : Nat}
    {container : Container}
    (lent : Lent origin borrowers depot)
    (leavesOpen : LeavesOpen container.store origin.schedule)
    (key : String)
    (size : Int) :
    Yields (container.uploadSingle key size) depot (Written container key size depot) := by
  have untouched : Refused depot depot := (SameWork.refl depot).refused
  refine Yields.check (fun _ => .refused _ depot untouched) (fun _ => ?_)
  refine Yields.check (fun _ => .refused _ depot untouched) (fun _ => ?_)
  have keeps : Keeps (Lent origin (borrowers + 1)) (Client.putObject container.bucket key size
      container.store.config.uploadSettings) :=
    (Lent.lasting origin borrowers).putObject (fun _ => trivial)
  have works : forall middle, SameWork depot middle -> Lent origin (borrowers + 1) middle ->
      middle.closed = false ->
      Yields (Client.putObject container.bucket key size container.store.config.uploadSettings)
        middle (Put depot container.bucket key size) :=
    fun middle before _ _ => (putObject_put _ _ _ _ middle).mono
      (fun _ left put => put.around before (SameWork.refl left))
  refine (borrowing_borrowed lent leavesOpen keeps works).attempt_bind ?_
  intro outcome left borrowed
  cases outcome with
  | ok _ =>
    have stored : Stored depot container.bucket key size left := by
      cases borrowed with
      | done _ middle _ _ put same _ => exact put.around (SameWork.refl depot) same
    refine yields_count _ ?_
    have aloof := aloof_stored depot container.bucket key size
    exact .stored _ (aloof.log _ _ _ _ (aloof.logs left _ rfl stored))
  | error failure =>
    have written : forall failure next, SameWork left next -> next.closed = left.closed ->
        Written container key size depot (.error failure) next := by
      intro failure next later closed
      cases borrowed with
      | refused _ _ _ same _ =>
        exact .refused failure next (same.trans later).refused
      | done _ middle _ _ put same _ =>
        exact .refused failure next (put.around (SameWork.refl depot) (same.trans later))
      | lost outcome _ middle _ _ put same isClosed =>
        have put := put.around (SameWork.refl depot) (same.trans later)
        cases outcome with
        | ok _ => exact .lostAtOnce failure next put (closed.trans isClosed)
        | error _ => exact .refused failure next put
    simp only [Yields]
    split
    next =>
      refine yields_count _ ?_
      exact written _ _ ((SameWork.refl left).logs rfl) rfl
    next => exact written failure left (SameWork.refl left) rfl

theorem Written.since
    {container : Container}
    {key : String}
    {size : Int}
    {origin first next : Depot}
    {outcome : Except Failure Unit}
    (before : SameWork origin first)
    (history : first.journal.history = origin.journal.history)
    (written : Written container key size first outcome next) :
    Written container key size origin outcome next := by
  have same := SameWork.refl next
  cases written with
  | refused failure _ refused => exact .refused failure next (refused.around before same)
  | aborted upload failure _ bucket object aborted =>
    exact .aborted upload failure next bucket object (aborted.since before history)
  | orphaned upload failure _ bucket object begun closed =>
    exact .orphaned upload failure next bucket object (begun.around before same) closed
  | lost upload failure _ finished closed =>
    exact .lost upload failure next (finished.around before same) closed
  | finished upload _ bucket object finished =>
    exact .finished upload next bucket object (finished.around before same)
  | lostAtOnce failure _ stored closed =>
    exact .lostAtOnce failure next (stored.around before same) closed
  | stored _ stored => exact .stored next (stored.around before same)

theorem writeBlob_written
    {origin depot : Depot}
    {borrowers : Nat}
    {container : Container}
    (lent : Lent origin borrowers depot)
    (leavesOpen : LeavesOpen container.store origin.schedule)
    (name : String)
    (size : Int)
    (failIfExists : Bool) :
    Yields (container.writeBlob name size failIfExists) depot
      (Written container (container.key name) size depot) := by
  have writes : forall middle, Lent origin borrowers middle -> SameWork depot middle ->
      middle.journal.history = depot.journal.history ->
      Yields (if size <= container.bufferSize then
          container.uploadSingle (container.key name) size
        else container.uploadMultipart (container.key name) size) middle
        (Written container (container.key name) size depot) := by
    intro middle lent before history
    split
    next =>
      exact (uploadSingle_written lent leavesOpen _ size).mono
        (fun _ _ written => written.since before history)
    next =>
      exact (uploadMultipart_written lent leavesOpen _ size).mono
        (fun _ _ written => written.since before history)
  cases failIfExists with
  | false => exact writes depot lent (SameWork.refl depot) rfl
  | true =>
    refine yields_log _ ?_
    exact writes _ ((Lent.lending leavesOpen borrowers).logs depot _ rfl lent)
      (SameWork.logged depot _ _ _) rfl

end BlobDepot
