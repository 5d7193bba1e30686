import BlobDepot.Proofs.Calm
import BlobDepot.Proofs.Dispatch
import BlobDepot.Proofs.UploadOutcomes

set_option autoImplicit false

namespace BlobDepot

open BlobDepot.Action

def Config.Accepts (config : Config) (size : Int) : Prop :=
  size <= config.bufferSize ∨
    size <= config.maxMultipartSize ∧ size <= Limits.partCount * config.bufferSize

instance (config : Config) (size : Int) : Decidable (config.Accepts size) :=
  inferInstanceAs (Decidable (_ ∨ _ ∧ _))

theorem exceeds_iff {container : Container} {size : Int} :
    container.Exceeds size <-> Not (container.store.config.Accepts size) := by
  have positive := container.bufferSize_pos
  have isBuffer : (container.store.config.bufferSize : Int) = container.bufferSize := rfl
  have parts : (size + container.bufferSize - 1) / container.bufferSize <= Limits.partCount <->
      size <= Limits.partCount * container.bufferSize := by
    rw [<- Int.lt_add_one_iff, Int.ediv_lt_iff_lt_mul positive, Int.add_mul]
    omega
  simp only [Container.Exceeds, Config.Accepts, isBuffer, <- parts]
  omega

theorem writeBlob_refuses
    {container : Container}
    {size : Int}
    (refused : Not (container.store.config.Accepts size))
    (name : String)
    (failIfExists : Bool)
    (depot : Depot) :
    Yields (container.writeBlob name size failIfExists) depot (fun outcome next =>
      (exists error, outcome = .error (.of (.argument error))) ∧ Idle depot next) := by
  obtain ⟨entries, refuses⟩ :=
    Container.writeUnguarded_exceeds (exceeds_iff.mpr refused) name failIfExists depot
  rw [Container.writeBlob_eq_writeUnguarded, Yields, refuses]
  exact ⟨⟨_, rfl⟩, (SameWork.refl depot).logs rfl, rfl⟩

theorem firstFault?_events (request : Request) (answer : Answer) :
    firstFault? (request.events (.ok answer)) = none :=
  rfl

theorem firstFault?_append (before later : List Event) :
    firstFault? (before ++ later) = (firstFault? before).or (firstFault? later) :=
  List.findSome?_append

theorem firstFault?_partEvents (session : ActiveSession) (bodies : List Body) :
    firstFault? (session.partEvents bodies) = none := by
  induction bodies generalizing session with
  | nil => rfl
  | cons body rest ih =>
    rw [ActiveSession.partEvents, firstFault?_append, firstFault?_events, ih]
    rfl

theorem bytesSent_withParts (session : ActiveSession) (bodies : List Body) :
    (session.withParts bodies).bytesSent =
      session.bytesSent + ((bodies.map Body.length).sum : Nat) := by
  induction bodies generalizing session with
  | nil => simp [ActiveSession.withParts]
  | cons body rest ih =>
    have later := ih (session.withPart body)
    simp only [ActiveSession.withParts, List.foldl_cons] at later ⊢
    rw [later, ActiveSession.withPart, List.map_cons, List.sum_cons]
    push_cast
    omega

section Given

variable {origin depot : Depot} {borrowers : Nat} {size : Int} {container : Container}

theorem Attended.givenAtOnce
    (attended : Attended origin borrowers depot)
    (faulty : origin.schedule.OnlyFaults)
    (leavesOpen : LeavesOpen container.store origin.schedule)
    (canLend : container.store.CanLend depot)
    (gives : depot.source.Gives size)
    (nonneg : 0 <= size)
    (small : size <= container.bufferSize)
    (key : String) :
    Yields (container.uploadSingle key size) depot (fun outcome next =>
      Attended origin borrowers next ∧ Caused origin.schedule .blobIO depot outcome next) := by
  refine (attended.uploadSingle faulty leavesOpen canLend gives.toSound small key).mono
    (fun outcome next ended => ⟨ended.1, ?_⟩)
  have whole : ((depot.source.taken size).length : Int) = size := gives.taken nonneg
  cases ended.2 with
  | stored _ _ passed => exact passed.met
  | short _ short _ => exact absurd whole short
  | failed failure _ faulted => exact ⟨rfl, failure, rfl, faulted⟩

theorem Attended.givenInParts
    (attended : Attended origin borrowers depot)
    (faulty : origin.schedule.OnlyFaults)
    (leavesOpen : LeavesOpen container.store origin.schedule)
    (canLend : container.store.CanLend depot)
    (gives : depot.source.Gives size)
    (least : container.store.config.minMultipartSize <= size)
    (allowed : size <= container.store.config.maxMultipartSize)
    (held : size <= Limits.partCount * container.bufferSize)
    (key : String) :
    Yields (container.uploadMultipart key size) depot (fun outcome next =>
      Attended origin borrowers next ∧ Caused origin.schedule .blobIO depot outcome next) := by
  have positive := container.bufferSize_pos
  have filled : 0 < size := by
    have smallest := container.store.config.minMultipartSize_pos
    omega
  have sizes := sum_partSizes size container.bufferSize
  have pieces := (sizes.symm ▸ gives : depot.source.Gives _).pieces
    (fun part => nonneg_of_mem_partSizes positive filled)
  have whole : (((container.session key depot.service.nextUpload).withParts
      (depot.source.pieces (partSizes size container.bufferSize))).bytesSent : Int) = size := by
    have total := (depot.source.length_pieces_iff
      (fun part => nonneg_of_mem_partSizes positive filled)).mpr pieces
    rw [bytesSent_withParts, total, sizes]
    exact Int.zero_add size
  -- As the stream gave enough no upload ends short, aborted or not.
  refine (attended.uploadMultipart faulty leavesOpen canLend gives.toSound least allowed held
    key).mono (fun outcome next ended => ⟨ended.1, ?_⟩)
  cases ended.2 with
  | completed _ _ _ _ passed =>
    have unfaulted := passed.met
    simp only [Container.sendEvents, firstFault?_append, firstFault?_events,
      firstFault?_partEvents, Option.or_none] at unfaulted
    exact unfaulted
  | aborted _ session isSession short _ => exact absurd (isSession ▸ whole) short
  | abandoned _ _ _ session isSession short _ => exact absurd (isSession ▸ whole) short
  | failed reported failure _ problem cause faulted =>
    exact ⟨congrArg Problem.kind problem, failure, cause, faulted⟩

theorem Caused.since
    {α : Type}
    {schedule : Schedule}
    {kind : Kind}
    {middle next : Depot}
    {outcome : Except Failure α}
    (caused : Caused schedule kind middle outcome next)
    (met : Met none depot middle) :
    Caused schedule kind depot outcome next := by
  cases outcome with
  | ok result => exact met.trans caused
  | error failure =>
    obtain ⟨isKind, cause, isCause, faulted⟩ := caused
    exact ⟨isKind, cause, isCause, faulted.since met⟩

theorem Attended.writeBlob
    (attended : Attended origin borrowers depot)
    (faulty : origin.schedule.OnlyFaults)
    (leavesOpen : LeavesOpen container.store origin.schedule)
    (canLend : container.store.CanLend depot)
    (gives : depot.source.Gives size)
    (nonneg : 0 <= size)
    (accepted : container.store.config.Accepts size)
    (name : String)
    (failIfExists : Bool) :
    Yields (container.writeBlob name size failIfExists) depot (fun outcome next =>
      Attended origin borrowers next ∧ Caused origin.schedule .blobIO depot outcome next) := by
  refine attended.writes leavesOpen canLend (fun middle attendedMiddle idle lends => ?_)
  rw [<- idle.source] at gives
  split
  next small =>
    exact (attendedMiddle.givenAtOnce faulty leavesOpen lends gives nonneg small _).mono
      (fun outcome next ended => ⟨ended.1, ended.2.since idle.met⟩)
  next above =>
    have large : container.bufferSize < size := Int.not_le.mp above
    have least := container.minMultipartSize_le
    obtain ⟨allowed, held⟩ := accepted.resolve_left above
    exact (attendedMiddle.givenInParts faulty leavesOpen lends gives (by omega) allowed held _).mono
      (fun outcome next ended => ⟨ended.1, ended.2.since idle.met⟩)

theorem aloof_pageSize (pageSize : Nat) : Aloof (fun depot => depot.service.pageSize = pageSize) :=
  SameWork.aloof_of_stable (fun _ _ same holds => same.service ▸ holds)

theorem lasting_pageSize (pageSize : Nat) :
    Lasting (fun _ => True) (fun depot => depot.service.pageSize = pageSize) where
  logs := (aloof_pageSize pageSize).logs
  reads _ := keeps_readSource (aloof_pageSize pageSize).close (fun _ _ _ holds => holds)
  sends request _ := keeps_send (fun _ holds => holds) (fun _ _ holds => holds)
    (fun depot holds => (depot.service.perform_pageSize request).trans holds)
    (aloof_pageSize pageSize).close

namespace Schedule.IsCalm

variable {schedule : Schedule}

theorem onlyFaults (calm : schedule.IsCalm) : schedule.OnlyFaults := by
  intro request number disruption listed
  rw [calm] at listed
  cases listed

theorem not_raises (calm : schedule.IsCalm) (failure : Failure) :
    Not (schedule.Raises failure) := by
  rintro ⟨method, number, raised⟩
  rw [outcome?, calm] at raised
  cases raised

end Schedule.IsCalm

theorem Faulted.not_calm
    {schedule : Schedule}
    {depot next : Depot}
    {failure : Failure}
    (faulted : Faulted schedule depot failure next) :
    Not schedule.IsCalm := by
  intro calm
  obtain ⟨_, fault, _, _, _, raised, _⟩ := faulted
  exact calm.not_raises fault raised

theorem Steady.writeBlob
    (steady : Steady origin borrowers depot)
    (gives : depot.source.Gives size)
    (nonneg : 0 <= size)
    (accepted : container.store.config.Accepts size)
    (name : String)
    (failIfExists : Bool) :
    Yields (container.writeBlob name size failIfExists) depot (fun outcome next =>
      outcome = .ok () ∧ Steady origin borrowers next ∧
        Replaced depot container.bucket (container.key name) size next) := by
  have leavesOpen := steady.calm.leavesOpen container.store
  have paged : (container.writeBlob name size failIfExists depot).2.service.pageSize =
      depot.service.pageSize :=
    ((aloof_pageSize _).lending container.store).writeBlob (fun _ => lasting_pageSize _) name size
      failIfExists depot rfl
  -- What is left behind is known of any write, and that this one succeeds from its faults.
  have written := writeBlob_written steady.lent leavesOpen name size failIfExists
  have ended := steady.attended.writeBlob steady.calm.onlyFaults leavesOpen
    (steady.canLend container.store) gives nonneg accepted name failIfExists
  rw [Yields] at written ended ⊢
  obtain ⟨attended, caused⟩ := ended
  cases isOk : (container.writeBlob name size failIfExists depot).1 with
  | error failure =>
    rw [isOk] at caused
    obtain ⟨_, cause, _, faulted⟩ := caused
    exact absurd steady.calm faulted.not_calm
  | ok _ =>
    refine ⟨rfl, ⟨attended.lent, attended.opened, steady.calm, paged ▸ steady.paged⟩, ?_⟩
    rw [isOk] at written
    cases written with
    | finished upload _ bucket object finished =>
      rw [<- bucket, <- object]
      exact finished.object steady.failsEarly
    | stored _ stored => exact stored.object steady.failsEarly

end Given

end BlobDepot
