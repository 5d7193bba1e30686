import BlobDepot.Proofs.AcceptedWrites
import BlobDepot.Proofs.Tenancy

set_option autoImplicit false

namespace BlobDepot

open BlobDepot.Action

def Body.slices : Body -> List Nat -> List Body
  | _, [] => []
  | body, length :: rest => body.take length :: (body.drop length).slices rest

namespace Source

variable {source : Source} {size : Int}

theorem length_taken (source : Source) (size : Int) :
    (source.taken size).length = source.granted size := by
  rw [taken, Body.length_take, Nat.min_eq_left (source.granted_le size)]

theorem taken_of_whole (whole : ((source.taken size).length : Int) = size) :
    source.taken size = source.rest.take size.toNat := by
  have granted : source.granted size = size.toNat := by
    rw [length_taken] at whole
    omega
  rw [taken, granted]

theorem Sound.rest_after (sound : source.Sound) (size : Int) :
    (source.after size).rest = source.rest.drop (source.taken size).length := by
  have unfailing : source.nextEvent.failure = none := sound.sound _ (Nat.lt_succ_self _)
  rw [Source.after, Source.read, unfailing, length_taken]

theorem Sound.pieces_slices (sound : source.Sound) (sizes : List Int) :
    source.pieces sizes = source.rest.slices ((source.pieces sizes).map Body.length) := by
  induction sizes generalizing source with
  | nil => rfl
  | cons size sizes ih =>
    have first : source.taken size = source.rest.take (source.taken size).length := by
      rw [length_taken]
      rfl
    rw [pieces, List.map_cons, Body.slices, <- sound.rest_after, <- ih (sound.after size), <- first]

theorem pieces_within
    (source : Source)
    {sizes : List Int}
    (nonneg : forall size, size ∈ sizes -> 0 <= size) :
    List.Forall₂ (fun body part => (body.length : Int) <= part) (source.pieces sizes) sizes := by
  induction sizes generalizing source with
  | nil => exact .nil
  | cons size sizes ih =>
    exact .cons (source.length_taken_le (nonneg size List.mem_cons_self))
      (ih _ (fun other listed => nonneg other (.tail _ listed)))

end Source

def exchangeOf (answered : List (Request × Answer)) : List Event :=
  answered.flatMap (fun entry => entry.1.events (.ok entry.2))

theorem exchangeOf_append (before later : List (Request × Answer)) :
    exchangeOf (before ++ later) = exchangeOf before ++ exchangeOf later :=
  List.flatMap_append

def completedParts (count : Nat) : List CompletedPart :=
  (List.range' 1 count).map (fun number : Nat => ⟨number, partTag number⟩)

namespace Container

def put (container : Container) (key : String) (body : Body) (size : Int) : Request :=
  .putObject container.bucket key body size container.store.config.uploadSettings.sent

def partTrace
    (container : Container)
    (key uploadId : String)
    (bodies : List Body) : List (Request × Answer) :=
  (bodies.zipIdx 1).map (fun entry =>
    (.uploadPart container.bucket key uploadId entry.2 entry.1, .tagged entry.2))

def uploadTrace
    (container : Container)
    (key uploadId : String)
    (bodies : List Body)
    (last : Request) : List (Request × Answer) :=
  (container.creation key, .started uploadId) ::
    (container.partTrace key uploadId bodies ++ [(last, .empty)])

theorem contentLength_partTrace
    (container : Container)
    (key uploadId : String)
    (bodies : List Body) :
    (container.partTrace key uploadId bodies).map (fun entry => entry.1.contentLength?) =
      bodies.map (fun body => some (body.length : Int)) := by
  rw [partTrace, List.map_map]
  -- The numbers of the parts do not matter.
  generalize 1 = first
  induction bodies generalizing first with
  | nil => rfl
  | cons body rest ih => exact congrArg (List.cons _) (ih (first + 1))

end Container

namespace ActiveSession

theorem withParts_cons (session : ActiveSession) (body : Body) (rest : List Body) :
    session.withParts (body :: rest) = (session.withPart body).withParts rest :=
  rfl

theorem length_withPart (session : ActiveSession) (body : Body) :
    (session.withPart body).parts.length = session.parts.length + 1 := by
  simp [withPart]

theorem upload_withParts (session : ActiveSession) (bodies : List Body) :
    (session.withParts bodies).upload = session.upload := by
  induction bodies generalizing session with
  | nil => rfl
  | cons body rest ih => exact ih (session.withPart body)

theorem parts_withParts (session : ActiveSession) (bodies : List Body) :
    (session.withParts bodies).parts = session.parts ++
      (List.range' (session.parts.length + 1) bodies.length).map
        (fun number : Nat => ⟨number, partTag number⟩) := by
  induction bodies generalizing session with
  | nil => simp [withParts]
  | cons body rest ih =>
    rw [withParts_cons, ih, length_withPart, List.length_cons, List.range'_succ]
    simp [withPart, nextNumber]

theorem partEvents_eq (session : ActiveSession) (bodies : List Body) :
    session.partEvents bodies = exchangeOf
      ((bodies.zipIdx (session.parts.length + 1)).map (fun entry =>
        (.uploadPart session.bucket session.key session.uploadId entry.2 entry.1,
          .tagged entry.2))) := by
  induction bodies generalizing session with
  | nil => rfl
  | cons body rest ih =>
    rw [partEvents, ih, length_withPart, List.zipIdx_cons]
    rfl

end ActiveSession

section Session

variable {container : Container} {key uploadId : String} {bodies : List Body}

theorem completion_withParts :
    ((container.session key uploadId).withParts bodies).completion =
      .completeUpload container.bucket key uploadId (completedParts bodies.length) := by
  have upload := (container.session key uploadId).upload_withParts bodies
  have parts := (container.session key uploadId).parts_withParts bodies
  simp only [ActiveSession.upload, Upload.mk.injEq] at upload
  obtain ⟨bucket, object, isUpload⟩ := upload
  have fresh : (container.session key uploadId).parts = [] := rfl
  rw [fresh, List.nil_append] at parts
  rw [ActiveSession.completion, bucket, object, isUpload, parts]
  rfl

theorem abortion_withParts :
    ((container.session key uploadId).withParts bodies).abortion =
      .abortUpload container.bucket key uploadId := by
  have upload := (container.session key uploadId).upload_withParts bodies
  simp only [ActiveSession.upload, Upload.mk.injEq] at upload
  obtain ⟨bucket, object, isUpload⟩ := upload
  rw [ActiveSession.abortion, bucket, object, isUpload]
  rfl

theorem sendEvents_eq (last : Request) :
    container.sendEvents key uploadId bodies ++ last.events (.ok .empty) =
      exchangeOf (container.uploadTrace key uploadId bodies last) := by
  rw [Container.sendEvents, ActiveSession.partEvents_eq, Container.uploadTrace, List.append_assoc]
  exact congrArg _ (exchangeOf_append _ [(last, .empty)]).symm

end Session

/-- The bodies of the parts of so many bytes: as few as can be, each of them the next slice of the
stream and no longer than what was asked for. -/
structure PartBodies (source : Source) (size partSize : Int) (bodies : List Body) : Prop where
  count : (bodies.length : Int) = (size + partSize - 1) / partSize
  slices : bodies = source.rest.slices (bodies.map Body.length)
  within : List.Forall₂ (fun body part => (body.length : Int) <= part) bodies
    (partSizes size partSize)
  stated : forall (container : Container) (key uploadId : String),
    (container.partTrace key uploadId bodies).map (fun entry => entry.1.contentLength?) =
      bodies.map (fun body => some (body.length : Int))

theorem Source.Sound.partBodies
    {source : Source}
    {size partSize : Int}
    (sound : source.Sound)
    (positive : 0 < partSize)
    (filled : 0 < size) :
    PartBodies source size partSize (source.pieces (partSizes size partSize)) where
  count := by rw [length_pieces, length_partSizes positive filled]
  slices := sound.pieces_slices _
  within := source.pieces_within (fun _ => nonneg_of_mem_partSizes positive filled)
  stated container key uploadId := container.contentLength_partTrace key uploadId _

inductive SentAtOnce
    (container : Container)
    (key : String)
    (size : Int)
    (depot : Depot) : Except Failure Unit -> Depot -> Prop
  | stored (next : Depot)
      (whole : ((depot.source.taken size).length : Int) = size)
      (passed : Passed depot
        (exchangeOf [(container.put key (depot.source.rest.take size.toNat) size, .empty)])
        (fun metrics => (metrics.countUpload .single .success).countBytes size .single) next) :
      SentAtOnce container key size depot (.ok ()) next
  | short (next : Depot)
      (short : ((depot.source.taken size).length : Int) ≠ size)
      (passed : Passed depot [] (fun metrics => metrics.countUpload .single .failure) next) :
      SentAtOnce container key size depot (.error (.because (.putFailed key)
        (.of (Client.shortStream (depot.source.taken size).length size)))) next

/-- An upload in parts: whatever the stream gives, all of its parts are sent, and they are made an
object if all of them were given in full. -/
inductive SentInParts
    (container : Container)
    (key : String)
    (size : Int)
    (depot : Depot)
    (bodies : List Body) : Except Failure Unit -> Depot -> Prop
  | completed (next : Depot)
      (whole : bodies.map (fun body => (body.length : Int)) =
        partSizes size container.bufferSize)
      (passed : Passed depot
        (exchangeOf (container.uploadTrace key depot.service.nextUpload bodies
          (.completeUpload container.bucket key depot.service.nextUpload
            (completedParts bodies.length))))
        (fun metrics => ((metrics.countParts bodies).countUpload .multipart .success).countBytes
          size .multipart) next) :
      SentInParts container key size depot bodies (.ok ()) next
  | aborted (next : Depot)
      (short : bodies.map (fun body => (body.length : Int)) ≠
        partSizes size container.bufferSize)
      (passed : Passed depot
        (exchangeOf (container.uploadTrace key depot.service.nextUpload bodies
          (.abortUpload container.bucket key depot.service.nextUpload)))
        (fun metrics => ((metrics.countParts bodies).countAbort .success).countUpload .multipart
          .failure) next) :
      SentInParts container key size depot bodies
        (.error (.of (.sizeMismatch key size (bodies.map Body.length).sum))) next

section Undisturbed

variable {origin depot middle next : Depot} {borrowers : Nat} {container : Container} {size : Int}
variable {key : String} {outcome : Except Failure Unit}

theorem PutEnded.sent
    (ended : PutEnded origin.schedule container key size depot outcome next)
    (calm : origin.schedule.IsCalm) :
    SentAtOnce container key size depot outcome next := by
  cases ended with
  | stored _ whole passed =>
    rw [Source.taken_of_whole whole] at passed
    exact .stored next whole passed
  | short _ short passed => exact .short next short passed
  | failed failure _ faulted => exact absurd calm faulted.not_calm

theorem PartsEnded.sent
    (ended : PartsEnded origin.schedule container key size depot
      (depot.source.pieces (partSizes size container.bufferSize)) outcome next)
    (calm : origin.schedule.IsCalm)
    (filled : 0 < size) :
    SentInParts container key size depot
      (depot.source.pieces (partSizes size container.bufferSize)) outcome next := by
  -- No part is too long, so all of them came in full just if they do together.
  have sizes := depot.source.length_pieces_iff
    (fun _ => nonneg_of_mem_partSizes container.bufferSize_pos filled)
  rw [sum_partSizes] at sizes
  have sent : ((container.session key depot.service.nextUpload).withParts
      (depot.source.pieces (partSizes size container.bufferSize))).bytesSent =
        (((depot.source.pieces (partSizes size container.bufferSize)).map Body.length).sum : Nat) :=
    (bytesSent_withParts _ _).trans (Int.zero_add _)
  cases ended with
  | completed _ _ isSession whole passed =>
    rw [isSession, completion_withParts, sendEvents_eq] at passed
    rw [isSession, sent] at whole
    exact .completed next (sizes.mp whole) passed
  | aborted _ session isSession short passed =>
    have isKey : session.key = key := by
      have upload := (container.session key depot.service.nextUpload).upload_withParts
        (depot.source.pieces (partSizes size container.bufferSize))
      rw [isSession]
      exact congrArg Upload.key upload
    rw [isSession, abortion_withParts, sendEvents_eq] at passed
    rw [isSession, sent] at short
    rw [isKey, isSession, sent]
    exact .aborted next (fun whole => short (sizes.mpr whole)) passed
  | abandoned _ fault _ _ _ _ raised => exact absurd raised (calm.not_raises fault)
  | failed _ _ _ _ _ faulted => exact absurd calm faulted.not_calm

theorem SentAtOnce.since
    (idle : Idle depot middle)
    (sent : SentAtOnce container key size middle outcome next) :
    SentAtOnce container key size depot outcome next := by
  cases sent with
  | stored _ whole passed =>
    rw [idle.source] at whole passed
    exact .stored next whole (passed.since idle)
  | short _ short passed =>
    rw [idle.source] at short ⊢
    exact .short next short (passed.since idle)

theorem SentInParts.since
    {bodies : List Body}
    (idle : Idle depot middle)
    (sent : SentInParts container key size middle bodies outcome next) :
    SentInParts container key size depot bodies outcome next := by
  cases sent with
  | completed _ whole passed =>
    rw [idle.service] at passed
    exact .completed next whole (passed.since idle)
  | aborted _ short passed =>
    rw [idle.service] at passed
    exact .aborted next short (passed.since idle)

namespace Attended

theorem sentAtOnce
    (attended : Attended origin borrowers depot)
    (calm : origin.schedule.IsCalm)
    (sound : depot.source.Sound)
    (small : size <= container.bufferSize)
    (name : String)
    (failIfExists : Bool) :
    Yields (container.writeBlob name size failIfExists) depot
      (SentAtOnce container (container.key name) size depot) := by
  have leavesOpen := calm.leavesOpen container.store
  refine attended.writes leavesOpen (attended.canLend calm container.store)
    (fun middle attendedMiddle idle lends => ?_)
  rw [if_pos small]
  refine (attendedMiddle.uploadSingle calm.onlyFaults leavesOpen lends (idle.source ▸ sound)
    small _).mono (fun outcome next ended => ?_)
  exact (ended.2.sent calm).since idle

theorem sentInParts
    (attended : Attended origin borrowers depot)
    (calm : origin.schedule.IsCalm)
    (sound : depot.source.Sound)
    (least : container.store.config.minMultipartSize <= size)
    (allowed : size <= container.store.config.maxMultipartSize)
    (held : size <= Limits.partCount * container.bufferSize)
    (key : String) :
    Yields (container.uploadMultipart key size) depot (SentInParts container key size depot
      (depot.source.pieces (partSizes size container.bufferSize))) := by
  have filled : 0 < size := by
    have smallest := container.store.config.minMultipartSize_pos
    omega
  refine (attended.uploadMultipart calm.onlyFaults (calm.leavesOpen container.store)
    (attended.canLend calm container.store) sound least allowed held key).mono
    (fun outcome next ended => ended.2.sent calm filled)

theorem writeInParts
    (attended : Attended origin borrowers depot)
    (calm : origin.schedule.IsCalm)
    (sound : depot.source.Sound)
    (large : container.bufferSize < size)
    (allowed : size <= container.store.config.maxMultipartSize)
    (held : size <= Limits.partCount * container.bufferSize)
    (name : String)
    (failIfExists : Bool) :
    Yields (container.writeBlob name size failIfExists) depot
      (SentInParts container (container.key name) size depot
        (depot.source.pieces (partSizes size container.bufferSize))) := by
  have least := container.minMultipartSize_le
  refine attended.writes (calm.leavesOpen container.store) (attended.canLend calm container.store)
    (fun middle attendedMiddle idle _ => ?_)
  rw [if_neg (Int.not_le.mpr large)]
  refine (attendedMiddle.sentInParts calm (idle.source ▸ sound) (by omega) allowed held _).mono
    (fun outcome next sent => ?_)
  rw [idle.source] at sent
  exact sent.since idle

end Attended

end Undisturbed

/-- In every state that a run of a store reaches, as long as the store is open and no call is
disrupted, the requests of an upload, its outcome and its counters follow from what the stream
gives. -/
theorem upload_traced
    (store : Store)
    (origin : Depot)
    (steps : List StoreStep)
    (path : BlobPath)
    (source : Source)
    (calm : origin.schedule.IsCalm)
    (opened : origin.closed = false)
    (unmade : origin.current = none)
    (isOpen : (Tenancy.run store origin steps).depot.closed = false)
    (sound : source.Sound) :
    let container : Container := ⟨store, path⟩
    let depot := { (Tenancy.run store origin steps).depot with source := source }
    (forall size : Int, 0 <= size -> size <= container.bufferSize -> forall name failIfExists,
      Yields (container.writeBlob name size failIfExists) depot
        (SentAtOnce container (container.key name) size depot)) ∧
    (forall size : Int, store.config.minMultipartSize <= size ->
      size <= store.config.maxMultipartSize -> size <= Limits.partCount * container.bufferSize ->
        let bodies := source.pieces (partSizes size container.bufferSize)
        PartBodies source size container.bufferSize bodies ∧
        (forall key, Yields (container.uploadMultipart key size) depot
          (SentInParts container key size depot bodies)) ∧
        (container.bufferSize < size -> forall name failIfExists,
          Yields (container.writeBlob name size failIfExists) depot
            (SentInParts container (container.key name) size depot bodies))) := by
  intro container depot
  -- The stream is set after the run, which leaves the client as it was.
  have lent := Tenancy.lent_sourced (calm.leavesOpen store) opened unmade steps source
  have attended : Attended origin (Tenancy.run store origin steps).held.length depot :=
    ⟨lent, isOpen⟩
  refine ⟨fun size _ small name failIfExists => ?_, fun size least allowed held => ?_⟩
  · exact attended.sentAtOnce calm sound small name failIfExists
  · have filled : 0 < size := by
      have smallest := store.config.minMultipartSize_pos
      omega
    refine ⟨sound.partBodies container.bufferSize_pos filled, fun key => ?_,
      fun large name failIfExists => ?_⟩
    · exact attended.sentInParts calm sound least allowed held key
    · exact attended.writeInParts calm sound large allowed held name failIfExists

theorem upload_traced_short :
    let source : Source := {
      rest := .bytes [1, 2, 3, 4, 5]
      events := fun number => if number = 2 then { most := some 1 } else {} }
    let origin : Depot := {}
    let depot := { (Tenancy.run .small origin [.borrow]).depot with source := source }
    let bodies := [Body.bytes [1, 2], .bytes [3], .bytes [4]]
    origin.schedule.IsCalm ∧ source.Sound ∧
      Yields (Container.uploadMultipart ⟨.small, {}⟩ "k" 5) depot
        (SentInParts ⟨.small, {}⟩ "k" 5 depot bodies) := by
  intro source origin depot bodies
  have calm : origin.schedule.IsCalm := fun _ _ => rfl
  have sound : source.Sound := by
    refine ⟨fun number _ => ?_, fun number _ => ?_⟩ <;> by_cases second : number = 2 <;>
      simp [source, second]
  have traced := upload_traced .small origin [.borrow] {} source calm rfl rfl rfl sound
  have sent := (traced.2 5 (by decide) (by decide) (by decide)).2.1 "k"
  exact ⟨calm, sound, sent⟩

end BlobDepot
