import BlobDepot.Proofs.Exchange
import BlobDepot.Proofs.Requests
import BlobDepot.Proofs.Sessions
import Mathlib.Data.List.Forall2

set_option autoImplicit false

namespace BlobDepot

open BlobDepot.Action

structure Upload where
  bucket : String
  key : String
  uploadId : String
  deriving DecidableEq

def ActiveSession.upload (session : ActiveSession) : Upload :=
  ⟨session.bucket, session.key, session.uploadId⟩

inductive UploadStep where
  | started (upload : Upload)
  | completed (upload : Upload)
  | abortAsked (upload : Upload)
  | aborted (upload : Upload)
  deriving DecidableEq

/-- What an event shows of an upload: an answer starts one if it names it, and only an answer that
is no failure says that one was completed or aborted. -/
def Event.uploadStep? : Event -> Option UploadStep
  | .answered (.createUpload bucket key _) (.ok answer) =>
      answer.uploadId?.map (fun uploadId => .started ⟨bucket, key, uploadId⟩)
  | .answered (.completeUpload bucket key uploadId _) (.ok _) =>
      some (.completed ⟨bucket, key, uploadId⟩)
  | .called (.request (.abortUpload bucket key uploadId)) =>
      some (.abortAsked ⟨bucket, key, uploadId⟩)
  | .answered (.abortUpload bucket key uploadId) (.ok _) =>
      some (.aborted ⟨bucket, key, uploadId⟩)
  | _ => none

def uploadSteps (events : List Event) : List UploadStep :=
  events.filterMap Event.uploadStep?

theorem uploadSteps_append (before later : List Event) :
    uploadSteps (before ++ later) = uploadSteps before ++ uploadSteps later :=
  List.filterMap_append

theorem uploadSteps_exchange (depot : Depot) :
    uploadSteps depot.exchange = uploadSteps depot.journal.history := by
  rw [uploadSteps, Depot.exchange, List.filterMap_filter]
  congr 1
  funext event
  cases event with
  | called call => cases call <;> rfl
  | _ => rfl

theorem Sent.steps
    {request : Request}
    {depot next : Depot}
    {outcome : Except Failure Answer}
    (sent : Sent request depot outcome next) :
    uploadSteps next.exchange = uploadSteps depot.exchange ++
      uploadSteps [.called (.request request), .answered request outcome] := by
  rw [sent.exchange, uploadSteps_append]

def Request.isQuiet : Request -> Prop
  | .createUpload .. | .completeUpload .. | .abortUpload .. => False
  | _ => True

theorem Sent.quiet
    {request : Request}
    {depot next : Depot}
    {outcome : Except Failure Answer}
    (sent : Sent request depot outcome next)
    (quiet : request.isQuiet) :
    uploadSteps next.exchange = uploadSteps depot.exchange := by
  rw [sent.steps]
  cases request <;> first | exact quiet.elim | exact List.append_nil _

def Named (request : Request) (depot : Depot) : Except Failure String -> Depot -> Prop
  | .ok uploadId, next => exists answer, Sent request depot (.ok answer) next ∧
      answer.uploadId? = if uploadId = "" then none else some uploadId
  | .error _, next => exists given, Sent request depot given next ∧
      forall answer, given = .ok answer -> answer.uploadId? = none

theorem initiateUpload_named
    (bucket key : String)
    (settings : UploadSettings)
    (depot : Depot) :
    Yields (Client.initiateUpload bucket key settings) depot
      (Named (.createUpload bucket key settings.sent) depot) := by
  refine (ask_asked _ _ depot).bind (fun answer next sent => ?_) (fun failure next asked => ?_)
  · simp only [Yields]
    cases found : answer.description.findEntry "UploadId" with
    | error error =>
      refine ⟨.ok answer, sent, fun other same => ?_⟩
      cases same
      simp [Answer.uploadId?, found]
    | ok entry =>
      cases entry with
      | none => exact ⟨answer, sent, by simp [Answer.uploadId?, found]⟩
      | some value =>
        refine ⟨answer, sent, ?_⟩
        simp only [Answer.uploadId?, found]
        by_cases truthy : value.isTruthy = true <;> by_cases empty : value.plain = "" <;>
          simp [truthy, empty]
  · obtain ⟨given, sent⟩ := asked
    exact ⟨.error given, sent, fun answer same => by cases same⟩

def Initiated (container : Container) (key : String) (depot : Depot) :
    Except Failure ActiveSession -> Depot -> Prop
  | .ok session, next => session = ⟨container.bucket, key, session.uploadId, [], 0⟩ ∧
      exists answer settings, Sent (.createUpload container.bucket key settings) depot (.ok answer)
        next ∧ answer.uploadId? = some session.uploadId
  | .error _, next => exists given settings,
      Sent (.createUpload container.bucket key settings) depot given next ∧
        forall answer, given = .ok answer -> answer.uploadId? = none

theorem initiate_initiated (container : Container) (key : String) (depot : Depot) :
    Yields (container.initiate key) depot (Initiated container key depot) := by
  have named :=
    initiateUpload_named container.bucket key container.store.config.uploadSettings depot
  refine named.bind (fun uploadId next named => ?_) (fun failure next named => ?_)
  · obtain ⟨answer, sent, named⟩ := named
    by_cases empty : uploadId = ""
    next =>
      rw [if_pos empty] at named ⊢
      exact ⟨.ok answer, _, sent, fun other same => by cases same; exact named⟩
    next =>
      rw [if_neg empty] at named ⊢
      exact ⟨rfl, answer, _, sent, named⟩
  · obtain ⟨given, sent, unnamed⟩ := named
    exact ⟨given, _, sent, unnamed⟩

theorem uploadSteps_create
    (bucket key : String)
    (settings : UploadSettings)
    (answer : Answer) :
    uploadSteps [.called (.request (.createUpload bucket key settings)),
        .answered (.createUpload bucket key settings) (.ok answer)] =
      answer.uploadId?.toList.map (fun uploadId => .started ⟨bucket, key, uploadId⟩) := by
  rw [uploadSteps, List.filterMap_cons_none rfl, List.filterMap_cons]
  simp only [Event.uploadStep?]
  cases answer.uploadId? <;> rfl

theorem Initiated.steps
    {container : Container}
    {key : String}
    {depot next : Depot}
    {outcome : Except Failure ActiveSession}
    (initiated : Initiated container key depot outcome next) :
    uploadSteps next.exchange = uploadSteps depot.exchange ++
      outcome.toOption.toList.map (fun session => .started session.upload) := by
  cases outcome with
  | ok session =>
    obtain ⟨shape, answer, settings, sent, named⟩ := initiated
    have upload : session.upload = ⟨container.bucket, key, session.uploadId⟩ := by
      rw [shape]
      rfl
    rw [sent.steps, uploadSteps_create, named]
    simp [Except.toOption, upload]
  | error failure =>
    obtain ⟨given, settings, sent, unnamed⟩ := initiated
    cases given with
    | error failure => rw [sent.steps]; rfl
    | ok answer =>
      rw [sent.steps, uploadSteps_create, unnamed answer rfl]
      rfl

theorem Effect.service
    {service next : Service}
    {request : Request}
    {outcome : Except Failure Answer}
    (effect : Effect service request outcome next) :
    next = service ∨ next = (service.perform request).2 := by
  cases effect with
  | refused failure next spares => exact spares.imp_right And.right
  | lacking answer next lacks spares => exact spares.imp_right And.right
  | served => exact .inr rfl

theorem Effect.of_ok
    {service next : Service}
    {request : Request}
    {answer : Answer}
    (effect : Effect service request (.ok answer) next)
    (whole : Not (answer.Lacks request.method)) :
    service.perform request = (.ok answer, next) := by
  generalize given : Except.ok answer = outcome at effect
  cases effect with
  | refused failure next spares => cases given
  | lacking other next lacks spares =>
    cases given
    exact absurd lacks whole
  | served =>
    cases performed : service.perform request with
    | mk result left =>
      rw [performed] at given
      cases result with
      | ok other =>
        cases given
        rfl
      | error rejection => cases given

theorem Effect.of_error
    {service next : Service}
    {request : Request}
    {failure : Failure}
    (effect : Effect service request (.error failure) next)
    (making : request.method.isPreparing = false) :
    next = service ∨ exists rejection, service.perform request = (.error rejection, next) := by
  generalize given : Except.error failure = outcome at effect
  cases effect with
  | refused other next spares =>
    obtain same | ⟨preparing, _⟩ := spares
    · exact .inl same
    · rw [making] at preparing
      cases preparing
  | lacking answer next lacks spares => cases given
  | served =>
    cases performed : service.perform request with
    | mk result left =>
      rw [performed] at given
      cases result with
      | ok answer => cases given
      | error rejection => exact .inr ⟨rejection, rfl⟩

/-- An upload was started since a depot was as it was, and it is neither completed nor aborted. -/
structure Begun (origin : Depot) (upload : Upload) (depot : Depot) : Prop where
  schedule : depot.schedule = origin.schedule
  steps : uploadSteps depot.exchange = uploadSteps origin.exchange ++ [.started upload]
  objects : origin.schedule.FailsEarly -> depot.service.objects = origin.service.objects
  others : origin.schedule.FailsEarly -> forall uploadId, uploadId ≠ upload.uploadId ->
    depot.service.uploads.get? uploadId = origin.service.uploads.get? uploadId
  pending : origin.schedule.FailsEarly ->
    (depot.service.uploads.get? upload.uploadId).isSome = true

def Cut (whole : Body) (pieces : List Body) (left : Body) : Prop :=
  forall content, whole = .bytes content ->
    exists (contents : List (List UInt8)) (remaining : List UInt8),
      pieces = contents.map .bytes ∧ left = .bytes remaining ∧
        content = contents.flatten ++ remaining

structure Storing
    (origin : Depot)
    (session : ActiveSession)
    (sent : List Body)
    (depot : Depot) : Prop extends Begun origin session.upload depot where
  stored : origin.schedule.FailsEarly ->
    exists parts, depot.service.uploads.get? session.uploadId = some parts ∧
      List.Forall₂ (fun part body => part.number < session.nextNumber ∧
        Service.partBody? parts part.number = some body) session.parts sent
  bytesSent : session.bytesSent = ((sent.map Body.length).sum : Nat)
  cut : Cut origin.source.rest sent depot.source.rest

theorem Cut.refl (whole : Body) : Cut whole [] whole :=
  fun content isContent => ⟨[], content, rfl, isContent, rfl⟩

theorem Cut.read
    {whole body : Body}
    {pieces : List Body}
    {size : Int}
    {source next : Source}
    (cut : Cut whole pieces source.rest)
    (read : source.read size = (.ok body, next)) :
    Cut whole (pieces ++ [body]) next.rest := by
  intro content isContent
  obtain ⟨contents, remaining, isPieces, isLeft, whole⟩ := cut content isContent
  simp only [Source.read] at read
  split at read
  next => cases read
  next =>
    cases read
    refine ⟨contents ++ [remaining.take (source.granted size)],
      remaining.drop (source.granted size), ?_, ?_, ?_⟩
    · simp [isPieces, isLeft, Body.take]
    · simp [isLeft, Body.drop]
    · simp [whole]

theorem Begun.beside
    {origin depot next : Depot}
    {upload : Upload}
    (begun : Begun origin upload depot)
    (schedule : next.schedule = depot.schedule)
    (service : next.service = depot.service)
    (exchange : next.exchange = depot.exchange) :
    Begun origin upload next where
  schedule := schedule.trans begun.schedule
  steps := exchange ▸ begun.steps
  objects early := service ▸ begun.objects early
  others early := service ▸ begun.others early
  pending early := service ▸ begun.pending early

theorem Begun.sent
    {origin depot next : Depot}
    {upload : Upload}
    {request : Request}
    {outcome : Except Failure Answer}
    (begun : Begun origin upload depot)
    (sent : Sent request depot outcome next)
    (quiet : uploadSteps next.exchange = uploadSteps depot.exchange)
    (objects : origin.schedule.FailsEarly -> next.service.objects = depot.service.objects)
    (others : origin.schedule.FailsEarly -> forall uploadId, uploadId ≠ upload.uploadId ->
      next.service.uploads.get? uploadId = depot.service.uploads.get? uploadId)
    (pending : origin.schedule.FailsEarly ->
      (next.service.uploads.get? upload.uploadId).isSome = true) :
    Begun origin upload next where
  schedule := sent.schedule.trans begun.schedule
  steps := quiet.trans begun.steps
  objects early := (objects early).trans (begun.objects early)
  others early uploadId other :=
    (others early uploadId other).trans (begun.others early uploadId other)
  pending := pending

theorem Begun.partSent
    {origin depot next : Depot}
    {session : ActiveSession}
    {number : Int}
    {body : Body}
    {outcome : Except Failure Answer}
    (begun : Begun origin session.upload depot)
    (sent : Sent (.uploadPart session.bucket session.key session.uploadId number body) depot outcome
      next) :
    Begun origin session.upload next := by
  have spared : origin.schedule.FailsEarly ->
      next.service = depot.service ∨ exists parts, next.service = { depot.service with
        uploads := depot.service.uploads.set session.uploadId parts } := by
    intro early
    have effect := sent.effect (begun.schedule ▸ early) rfl
    obtain ⟨parts, stored⟩ := Option.isSome_iff_exists.mp (begun.pending early)
    have stored : depot.service.uploads.get? session.uploadId = some parts := stored
    refine effect.service.imp_right (fun performed => ⟨Service.storePart number body parts, ?_⟩)
    rw [performed, Service.perform_uploadPart stored]
  refine begun.sent sent (sent.quiet trivial) (fun early => ?_) (fun early uploadId other => ?_)
    (fun early => ?_)
  all_goals obtain same | ⟨parts, stored⟩ := spared early
  · rw [same]
  · rw [stored]
    rfl
  · rw [same]
  · rw [stored]
    have different : session.uploadId ≠ uploadId := Ne.symm other
    simp [different]
  · rw [same]
    exact begun.pending early
  · rw [stored]
    simp [ActiveSession.upload]

theorem Storing.aside
    {origin depot next : Depot}
    {session : ActiveSession}
    {sent : List Body}
    (storing : Storing origin session sent depot)
    (same : SameWork depot next) :
    Storing origin session sent next where
  toBegun := storing.toBegun.beside same.schedule same.service same.exchange
  stored early := same.service ▸ storing.stored early
  bytesSent := storing.bytesSent
  cut := same.source ▸ storing.cut

def Extended
    (origin : Depot)
    (session : ActiveSession)
    (sent : List Body) : Except Failure ActiveSession -> Depot -> Prop
  | .ok extended, next => extended.upload = session.upload ∧
      exists body, Storing origin extended (sent ++ [body]) next
  | .error _, next => Begun origin session.upload next

theorem Storing.partStored
    {origin depot middle next : Depot}
    {session : ActiveSession}
    {sent : List Body}
    {size : Int}
    {body : Body}
    {answer : Answer}
    {tag : Value}
    (storing : Storing origin session sent depot)
    (moved : Moved size depot (.ok body) middle)
    (asked : Sent
      (.uploadPart session.bucket session.key session.uploadId session.nextNumber body) middle
      (.ok answer) next)
    (tagged : answer.description.entry "ETag" = .ok tag) :
    Storing origin
      { session with
        parts := session.parts ++ [⟨session.nextNumber, tag⟩]
        bytesSent := session.bytesSent + body.length }
      (sent ++ [body]) next := by
  have begun := storing.toBegun.beside moved.schedule moved.service moved.exchange
  refine { begun.partSent asked with stored := ?_, bytesSent := ?_, cut := ?_ }
  · intro early
    obtain ⟨parts, found, matched⟩ := storing.stored early
    have whole : Not (answer.Lacks .uploadPart) := fun lacks => lacks tag tagged
    have performed := (asked.effect (begun.schedule ▸ early) rfl).of_ok whole
    rw [moved.service, Service.perform_uploadPart found] at performed
    have left : next.service = { depot.service with
        uploads := depot.service.uploads.set session.uploadId
          (Service.storePart session.nextNumber body parts) } :=
      (congrArg Prod.snd performed).symm
    refine ⟨Service.storePart session.nextNumber body parts, by simp [left], ?_⟩
    -- The number of the new part is larger than those of the parts before it.
    refine List.rel_append (matched.imp ?_) (.cons ?_ .nil)
    · intro part earlier known
      have different : session.nextNumber ≠ part.number := (Int.ne_of_lt known.1).symm
      rw [Service.partBody?_storePart, if_neg different]
      refine ⟨?_, known.2⟩
      have smaller := known.1
      simp only [ActiveSession.nextNumber, List.length_append, List.length_singleton] at smaller ⊢
      omega
    · rw [Service.partBody?_storePart, if_pos rfl]
      refine ⟨?_, rfl⟩
      simp only [ActiveSession.nextNumber, List.length_append, List.length_singleton]
      omega
  · simp [storing.bytesSent]
  · rw [asked.source]
    exact storing.cut.read (moved.read body rfl)

def PartStored
    (origin : Depot)
    (session : ActiveSession)
    (sent : List Body) : Except Failure UploadedPart -> Depot -> Prop
  | .ok uploaded, next => uploaded.part.number = session.nextNumber ∧
      exists body, Storing origin
        { session with
          parts := session.parts ++ [uploaded.part]
          bytesSent := session.bytesSent + uploaded.size } (sent ++ [body]) next
  | .error _, next => Begun origin session.upload next

theorem uploadPart_stored
    {origin depot : Depot}
    {session : ActiveSession}
    {sent : List Body}
    (storing : Storing origin session sent depot)
    (size : Int) :
    Yields (Client.uploadPart session.bucket session.key session.uploadId session.nextNumber size)
      depot (PartStored origin session sent) := by
  refine (readSource_moved size depot).bind (fun body middle moved => ?_)
    (fun failure middle moved => ?_)
  · have begun := storing.toBegun.beside moved.schedule moved.service moved.exchange
    refine (ask_asked _ _ middle).bind (fun answer next asked => ?_) (fun failure next asked => ?_)
    · simp only [Yields]
      cases tagged : answer.description.entry "ETag" with
      | error error => exact begun.partSent asked
      | ok tag => exact ⟨rfl, body, storing.partStored moved asked tagged⟩
    · obtain ⟨given, asked⟩ := asked
      exact begun.partSent asked
  · exact storing.toBegun.beside moved.schedule moved.service moved.exchange

theorem uploadNext_extended
    {origin depot : Depot}
    {session : ActiveSession}
    {sent : List Body}
    (storing : Storing origin session sent depot)
    (size : Int) :
    Yields (Container.uploadNext session size) depot (Extended origin session sent) := by
  refine (uploadPart_stored storing size).bind (fun uploaded next stored => ?_)
    (fun failure next begun => begun)
  obtain ⟨number, body, stored⟩ := stored
  rw [ActiveSession.addPart_next number, Yields, run_bind_ok _ (run_count _ next)]
  exact ⟨rfl, body, stored.aside ((SameWork.refl next).logs rfl)⟩

def PartsStored (origin : Depot) (upload : Upload) :
    Except Failure (ActiveSession × Except Failure Unit) -> Depot -> Prop
  | .ok (session, .ok ()), next => session.upload = upload ∧
      exists sent, Storing origin session sent next
  | .ok (session, .error _), next => session.upload = upload ∧ Begun origin upload next
  | .error _, _ => False

theorem uploadParts_stored
    {origin depot : Depot}
    {session : ActiveSession}
    {sent : List Body}
    (storing : Storing origin session sent depot)
    (plan : PartPlan)
    (partSize : Int)
    (left : Nat) :
    Yields (Container.uploadParts plan partSize left session) depot
      (PartsStored origin session.upload) := by
  -- The session, what was sent and the depot all change from part to part.
  induction left generalizing session sent depot with
  | zero => exact ⟨rfl, sent, storing⟩
  | succ left ih =>
    refine (uploadNext_extended storing _).attempt_bind (fun outcome next extended => ?_)
    cases outcome with
    | ok grown =>
      obtain ⟨same, body, stored⟩ := extended
      have rest := ih stored
      rw [same] at rest
      exact rest
    | error failure => exact ⟨rfl, extended⟩

def Replaced (origin : Depot) (bucket key : String) (size : Int) (depot : Depot) : Prop :=
  exists body : Body, body.length = size ∧
    (forall content, origin.source.rest = .bytes content ->
      body = .bytes (content.take size.toNat)) ∧
    depot.service.objects = Function.update origin.service.objects bucket
      ((origin.service.objects bucket).set key body)

structure Finished (origin : Depot) (upload : Upload) (size : Int) (depot : Depot) : Prop where
  schedule : depot.schedule = origin.schedule
  steps : uploadSteps depot.exchange =
    uploadSteps origin.exchange ++ [.started upload, .completed upload]
  object : origin.schedule.FailsEarly -> Replaced origin upload.bucket upload.key size depot
  gone : origin.schedule.FailsEarly -> forall uploadId,
    depot.service.uploads.get? uploadId =
      if uploadId = upload.uploadId then none else origin.service.uploads.get? uploadId

theorem Cut.join
    {whole left : Body}
    {pieces : List Body}
    (cut : Cut whole pieces left) :
    forall content, whole = .bytes content ->
      Body.join pieces = .bytes (content.take (pieces.map Body.length).sum) := by
  intro content isContent
  obtain ⟨contents, remaining, rfl, _, rfl⟩ := cut content isContent
  rw [Body.join_bytes, List.map_map]
  have size : ((contents.map (Body.length ∘ Body.bytes))).sum = contents.flatten.length := by
    rw [List.length_flatten]
    rfl
  rw [size, List.take_left]

theorem Cut.single
    {whole piece left : Body}
    (cut : Cut whole [piece] left) :
    forall content, whole = .bytes content -> piece = .bytes (content.take piece.length) := by
  intro content isContent
  obtain ⟨contents, remaining, isPiece, _, rfl⟩ := cut content isContent
  obtain ⟨only, rfl, rfl⟩ := List.map_eq_singleton_iff.mp isPiece.symm
  simp [Body.length]

theorem Storing.completed
    {origin depot next : Depot}
    {session : ActiveSession}
    {sent : List Body}
    {answer : Answer}
    (storing : Storing origin session sent depot)
    (asked : Sent
      (.completeUpload session.bucket session.key session.uploadId session.parts) depot (.ok answer)
      next) :
    Finished origin session.upload session.bytesSent next := by
  have performed : origin.schedule.FailsEarly ->
      next.service = { depot.service.setObjects session.bucket
        ((depot.service.objects session.bucket).set session.key (Body.join sent)) with
          uploads := depot.service.uploads.erase session.uploadId } := by
    intro early
    obtain ⟨parts, found, matched⟩ := storing.stored early
    have bodies := Service.mapM_partBody (matched.imp (fun _ _ known => known.2))
    have effect := (asked.effect (storing.schedule ▸ early) rfl).of_ok id
    rw [Service.perform_completeUpload found bodies] at effect
    exact (congrArg Prod.snd effect).symm
  refine {
    schedule := asked.schedule.trans storing.schedule
    steps := by
      rw [asked.steps, storing.steps, List.append_assoc]
      rfl
    object := fun early => ⟨Body.join sent, ?_, ?_, ?_⟩
    gone := fun early uploadId => ?_ }
  · rw [Body.length_join, storing.bytesSent]
  · intro content isContent
    rw [storing.cut.join content isContent, storing.bytesSent, Int.toNat_natCast]
  · rw [performed early]
    have objects := Service.objects_setObjects depot.service session.bucket
      ((depot.service.objects session.bucket).set session.key (Body.join sent))
    refine Eq.trans objects ?_
    rw [storing.objects early]
    rfl
  · rw [performed early]
    by_cases same : uploadId = session.upload.uploadId
    next =>
      rw [if_pos same, same]
      simp [ActiveSession.upload]
    next =>
      have different : uploadId ≠ session.uploadId := same
      rw [if_neg same, <- storing.others early uploadId same]
      simp [different]

theorem Storing.incomplete
    {origin depot next : Depot}
    {session : ActiveSession}
    {sent : List Body}
    {failure : Failure}
    (storing : Storing origin session sent depot)
    (asked : Sent
      (.completeUpload session.bucket session.key session.uploadId session.parts) depot
      (.error failure) next) :
    Begun origin session.upload next := by
  have same : origin.schedule.FailsEarly -> next.service = depot.service := by
    intro early
    obtain ⟨parts, found, matched⟩ := storing.stored early
    have bodies := Service.mapM_partBody (matched.imp (fun _ _ known => known.2))
    obtain same | ⟨rejection, rejected⟩ :=
      (asked.effect (storing.schedule ▸ early) rfl).of_error rfl
    · exact same
    · rw [Service.perform_completeUpload found bodies] at rejected
      cases rejected
  have quiet : uploadSteps next.exchange = uploadSteps depot.exchange := by
    rw [asked.steps]
    exact List.append_nil _
  refine storing.toBegun.sent asked quiet (fun early => ?_) (fun early uploadId _ => ?_)
    (fun early => ?_)
  · rw [same early]
  · rw [same early]
  · rw [same early]
    exact storing.pending early

theorem complete_finished
    {origin depot : Depot}
    {session : ActiveSession}
    {sent : List Body}
    (storing : Storing origin session sent depot)
    (size : Int) :
    Yields (Container.complete session size) depot (fun outcome next =>
      match outcome with
      | .ok () => Finished origin session.upload size next
      | .error _ => Begun origin session.upload next) := by
  rw [Container.complete]
  by_cases whole : session.bytesSent = size
  next =>
    rw [if_pos whole, <- whole]
    refine (ask_asked _ _ depot).bind (fun answer next asked => ?_) (fun failure next asked => ?_)
    · exact storing.completed asked
    · obtain ⟨given, asked⟩ := asked
      exact storing.incomplete asked
  next =>
    rw [if_neg whole]
    exact storing.toBegun

structure Refused (origin : Depot) (depot : Depot) : Prop where
  schedule : depot.schedule = origin.schedule
  steps : uploadSteps depot.exchange = uploadSteps origin.exchange
  objects : origin.schedule.FailsEarly -> depot.service.objects = origin.service.objects

theorem SameWork.refused {origin depot : Depot} (same : SameWork origin depot) :
    Refused origin depot where
  schedule := same.schedule
  steps := congrArg uploadSteps same.exchange
  objects _ := congrArg Service.objects same.service

theorem plain_of_uploadId?
    {answer : Answer}
    {value : Value}
    {uploadId : String}
    (found : answer.description.findEntry "UploadId" = .ok (some value))
    (named : answer.uploadId? = some uploadId) :
    value.plain = uploadId := by
  simp only [Answer.uploadId?, found] at named
  split at named
  next => exact Option.some.inj named
  next => cases named

theorem Initiated.storing
    {container : Container}
    {key : String}
    {depot next : Depot}
    {session : ActiveSession}
    (initiated : Initiated container key depot (.ok session) next) :
    Storing depot session [] next := by
  have steps := initiated.steps
  obtain ⟨shape, answer, settings, sent, named⟩ := initiated
  have performed : depot.schedule.FailsEarly ->
      next.service = { depot.service with
        started := depot.service.started + 1
        uploads := depot.service.uploads.set session.uploadId [] } := by
    intro early
    -- The session has an identifier, so the answer was a whole one and the service gave it.
    have whole : Not (answer.Lacks .createUpload) := by
      intro lacks
      rw [Answer.Lacks, named] at lacks
      cases lacks
    have effect := (sent.effect early rfl).of_ok whole
    rw [Service.perform_createUpload] at effect
    have isAnswer := Except.ok.inj (congrArg Prod.fst effect)
    have isId : "upload-" ++ toString (depot.service.started + 1) = session.uploadId := by
      have found : answer.description.findEntry "UploadId" =
          .ok (some (.text ("upload-" ++ toString (depot.service.started + 1)))) := by
        rw [<- isAnswer]
        rfl
      exact plain_of_uploadId? found named
    rw [<- isId]
    exact (congrArg Prod.snd effect).symm
  have parts : session.parts = [] := by rw [shape]
  refine {
    schedule := sent.schedule
    steps := by simpa [Except.toOption] using steps
    objects := fun early => by rw [performed early]; rfl
    others := fun early uploadId other => ?_
    pending := fun early => ?_
    stored := fun early => ⟨[], ?_, ?_⟩
    bytesSent := by rw [shape]; rfl
    cut := ?_ }
  · have different : session.uploadId ≠ uploadId := Ne.symm other
    simp [performed early, different]
  · simp [performed early, ActiveSession.upload]
  · simp [performed early]
  · rw [parts]
    exact .nil
  · rw [sent.source]
    exact Cut.refl _

theorem Initiated.refused
    {container : Container}
    {key : String}
    {depot next : Depot}
    {failure : Failure}
    (initiated : Initiated container key depot (.error failure) next) :
    Refused depot next := by
  have steps := initiated.steps
  obtain ⟨given, settings, sent, unnamed⟩ := initiated
  refine {
    schedule := sent.schedule
    steps := by simpa [Except.toOption] using steps
    objects := fun early => ?_ }
  obtain same | performed := (sent.effect early rfl).service
  · rw [same]
  · rw [performed, Service.perform_createUpload]
    rfl

inductive Followed (container : Container) (key : String) (size : Int) (origin : Depot) :
    UploadProgress × Except Failure ActiveSession -> Depot -> Prop
  | refused (failure : Failure) (next : Depot) (refused : Refused origin next) :
      Followed container key size origin (.notStarted, .error failure) next
  | stopped (session : ActiveSession) (failure : Failure) (next : Depot)
      (bucket : session.upload.bucket = container.bucket) (object : session.upload.key = key)
      (begun : Begun origin session.upload next) :
      Followed container key size origin (.active session, .error failure) next
  | finished (session : ActiveSession) (next : Depot)
      (bucket : session.upload.bucket = container.bucket) (object : session.upload.key = key)
      (finished : Finished origin session.upload size next) :
      Followed container key size origin (.completed, .ok session) next

theorem followPlan_followed
    (container : Container)
    (key : String)
    (size : Int)
    (plan : PartPlan)
    (depot : Depot) :
    Yields (container.followPlan key size plan) depot (fun outcome next =>
      exists ended, outcome = .ok ended ∧ Followed container key size depot ended next) := by
  refine (initiate_initiated container key depot).attempt_bind (fun started next initiated => ?_)
  cases started with
  | error failure => exact ⟨_, rfl, .refused failure next initiated.refused⟩
  | ok session =>
    have bucket : session.upload.bucket = container.bucket := by
      rw [initiated.1]
      rfl
    have object : session.upload.key = key := by
      rw [initiated.1]
      rfl
    have storing := initiated.storing
    refine yields_log _ ?_
    have logged := storing.aside (SameWork.logged next "info" "multipart_upload_started"
      [("bucket", .text session.bucket),
        ("key", .text key),
        ("upload_id", .text session.uploadId),
        ("parts", .int plan.partCount),
        ("size", .int size)])
    refine (uploadParts_stored logged plan _ _).bind ?_ (fun _ _ impossible => impossible.elim)
    intro progress left stored
    obtain ⟨grown, outcome⟩ := progress
    cases outcome with
    | error failure =>
      obtain ⟨same, begun⟩ := stored
      rw [<- same] at bucket object begun
      exact ⟨_, rfl, .stopped grown failure left bucket object begun⟩
    | ok _ =>
      obtain ⟨same, sent, storing⟩ := stored
      rw [<- same] at bucket object
      refine (complete_finished storing size).attempt_bind (fun outcome last completed => ?_)
      cases outcome with
      | error failure => exact ⟨_, rfl, .stopped grown failure last bucket object completed⟩
      | ok _ => exact ⟨_, rfl, .finished grown last bucket object completed⟩

end BlobDepot
