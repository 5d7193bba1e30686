import BlobDepot.Proofs.Batches
import BlobDepot.Proofs.Calls
import BlobDepot.Proofs.Sessions

set_option autoImplicit false

namespace BlobDepot

open BlobDepot.Action

def Request.ChangesOnly (bucket : String) (allowed : String -> Prop) : Request -> Prop
  | .putObject other key .. | .completeUpload other key .. | .deleteObject other key =>
      other = bucket ∧ allowed key
  | .deleteObjects other keys _ => other = bucket ∧ forall key, key ∈ keys -> allowed key
  | _ => True

theorem Request.ChangesOnly.mono
    {bucket : String}
    {allowed more : String -> Prop}
    {request : Request}
    (only : request.ChangesOnly bucket allowed)
    (implies : forall key, allowed key -> more key) :
    request.ChangesOnly bucket more := by
  cases request with
  | putObject _ key | completeUpload _ key | deleteObject _ key =>
    exact only.imp_right (implies key)
  | deleteObjects => exact only.imp_right (fun all key listed => implies key (all key listed))
  | _ => trivial

/-- What goes on to hold while requests of some sort are sent, the stream is read, and entries
are logged and counters changed. -/
structure Lasting (sort : Request -> Prop) (kept : Depot -> Prop) : Prop where
  logs : forall depot journal, journal.events = depot.journal.events -> kept depot ->
    kept { depot with journal := journal }
  reads : forall size, Keeps kept (Client.readSource size)
  sends : forall request, sort request -> Keeps kept (send request)

namespace Lasting

variable {sort : Request -> Prop} {kept : Depot -> Prop}

theorem weaken
    {other : Request -> Prop}
    (lasting : Lasting sort kept)
    (implies : forall request, other request -> sort request) :
    Lasting other kept :=
  ⟨lasting.logs, lasting.reads, fun request ofOther => lasting.sends request (implies _ ofOther)⟩

theorem count (lasting : Lasting sort kept) (change : Metrics -> Metrics) :
    Keeps kept (Action.count change) :=
  fun depot holds => lasting.logs depot _ rfl holds

theorem log
    (lasting : Lasting sort kept)
    (level event : String)
    (fields : List (String × Value)) :
    Keeps kept (Action.log level event fields) :=
  fun depot holds => lasting.logs depot _ rfl holds

theorem given (lasting : Lasting sort kept) {fact : Prop} :
    Lasting sort (fun depot => fact ∧ kept depot) where
  logs depot journal events holds := ⟨holds.1, lasting.logs depot journal events holds.2⟩
  reads size depot holds := ⟨holds.1, lasting.reads size depot holds.2⟩
  sends request ofSort depot holds := ⟨holds.1, lasting.sends request ofSort depot holds.2⟩

theorem ask
    (lasting : Lasting sort kept)
    {request : Request}
    (ofSort : sort request)
    (doing : String) :
    Keeps kept (Client.ask request doing) := by
  refine (lasting.sends request ofSort).attempt.bind (fun outcome => ?_)
  cases outcome with
  | ok answer => exact keeps_pure answer
  | error failure => exact keeps_throw _

theorem objectExists
    (lasting : Lasting sort kept)
    {bucket key : String}
    (ofSort : sort (.headObject bucket key)) :
    Keeps kept (Client.objectExists bucket key) := by
  refine (lasting.sends _ ofSort).attempt.bind (fun outcome => ?_)
  cases outcome with
  | ok answer => exact keeps_pure true
  | error failure =>
    refine Keeps.ite ?_ (keeps_throw failure)
    refine (keeps_shaped _).bind (fun absent => ?_)
    exact Keeps.ite (keeps_pure false) (keeps_throw _)

theorem getObject
    (lasting : Lasting sort kept)
    {bucket key : String}
    (ofSort : sort (.getObject bucket key)) :
    Keeps kept (Client.getObject bucket key) := by
  refine (lasting.ask ofSort _).bind (fun answer => ?_)
  cases answer with
  | content body => exact keeps_pure _
  | data value => exact (keeps_shaped _).bind (fun _ => keeps_pure _)

theorem putObject
    (lasting : Lasting sort kept)
    {bucket key : String}
    {length : Int}
    {settings : UploadSettings}
    (ofSort : forall body, sort (.putObject bucket key body length settings.sent)) :
    Keeps kept (Client.putObject bucket key length settings) := by
  refine (lasting.reads length).bind (fun body => ?_)
  refine Keeps.ite ?_ (keeps_fail _)
  exact (lasting.ask (ofSort body) _).bind (fun _ => keeps_pure _)

theorem initiateUpload
    (lasting : Lasting sort kept)
    {bucket key : String}
    {settings : UploadSettings}
    (ofSort : sort (.createUpload bucket key settings.sent)) :
    Keeps kept (Client.initiateUpload bucket key settings) := by
  refine (lasting.ask ofSort _).bind (fun answer => ?_)
  refine (keeps_shaped _).bind (fun found => ?_)
  cases found with
  | none => exact keeps_pure ""
  | some value => exact keeps_pure _

theorem uploadPart
    (lasting : Lasting sort kept)
    {bucket key uploadId : String}
    {number size : Int}
    (ofSort : forall body, sort (.uploadPart bucket key uploadId number body)) :
    Keeps kept (Client.uploadPart bucket key uploadId number size) := by
  refine (lasting.reads size).bind (fun body => ?_)
  refine (lasting.ask (ofSort body) _).bind (fun answer => ?_)
  exact (keeps_shaped _).bind (fun tag => keeps_pure _)

theorem completeUpload
    (lasting : Lasting sort kept)
    {bucket key uploadId : String}
    {parts : List CompletedPart}
    (ofSort : sort (.completeUpload bucket key uploadId parts)) :
    Keeps kept (Client.completeUpload bucket key uploadId parts) :=
  (lasting.ask ofSort _).bind (fun _ => keeps_pure _)

theorem abortUpload
    (lasting : Lasting sort kept)
    {bucket key uploadId : String}
    (ofSort : sort (.abortUpload bucket key uploadId)) :
    Keeps kept (Client.abortUpload bucket key uploadId) :=
  (lasting.ask ofSort _).bind (fun _ => keeps_pure _)

theorem deleteObject
    (lasting : Lasting sort kept)
    {bucket key : String}
    (ofSort : sort (.deleteObject bucket key)) :
    Keeps kept (Client.deleteObject bucket key) :=
  (lasting.ask ofSort _).bind (fun _ => keeps_pure _)

theorem bulkDelete
    (lasting : Lasting sort kept)
    {bucket : String}
    {keys : List String}
    {quiet : Bool}
    (ofSort : sort (.deleteObjects bucket keys quiet)) :
    Keeps kept (Client.bulkDelete bucket keys quiet) := by
  refine (lasting.ask ofSort _).bind (fun answer => ?_)
  refine (keeps_shaped _).bind (fun found => ?_)
  cases found with
  | none => exact keeps_pure _
  | some complaints =>
    refine Keeps.ite ?_ (keeps_pure _)
    exact (keeps_shaped _).bind (fun _ => keeps_fail _)

theorem listPage
    (lasting : Lasting sort kept)
    {bucket start : String}
    {token : Option Value}
    (ofSort : sort (.listObjects bucket start token)) :
    Keeps kept (Client.listPage bucket start token) :=
  (lasting.ask ofSort _).bind (fun _ => keeps_shaped _)

theorem listNext
    (lasting : Lasting sort kept)
    {page : ListingPage}
    (ofSort : forall token, sort (.listObjects page.bucket page.start (some token))) :
    Keeps kept (Client.listNext page) :=
  Keeps.ite (lasting.listPage (ofSort _)) (keeps_fail _)

theorem reporting
    {α : Type}
    {work : Action α}
    (keeps : Keeps kept work)
    (kind : Kind)
    (problem : Problem) :
    Keeps kept (Container.reporting kind problem work) := by
  refine keeps.attempt.bind (fun outcome => ?_)
  cases outcome with
  | ok result => exact keeps_pure result
  | error failure => exact keeps_throw _

theorem initiate
    (lasting : Lasting sort kept)
    {container : Container}
    {key : String}
    (ofSort : forall settings, sort (.createUpload container.bucket key settings)) :
    Keeps kept (container.initiate key) := by
  refine (lasting.initiateUpload (ofSort _)).bind (fun uploadId => ?_)
  exact Keeps.ite (keeps_fail _) (keeps_pure _)

theorem uploadNext
    (lasting : Lasting sort kept)
    {session : ActiveSession}
    {size : Int}
    (ofSort : forall number body,
      sort (.uploadPart session.bucket session.key session.uploadId number body)) :
    Keeps kept (Container.uploadNext session size) := by
  refine (lasting.uploadPart (ofSort _)).bind (fun uploaded => ?_)
  exact (lasting.count _).bind (fun _ => keeps_checked _)

theorem complete
    (lasting : Lasting sort kept)
    {session : ActiveSession}
    {size : Int}
    (ofSort : forall parts,
      sort (.completeUpload session.bucket session.key session.uploadId parts)) :
    Keeps kept (Container.complete session size) :=
  Keeps.ite (lasting.completeUpload (ofSort _)) (keeps_fail _)

theorem deleteBatch
    (lasting : Lasting sort kept)
    {container : Container}
    {batch : DeleteBatch}
    (ofSort : sort (.deleteObjects container.bucket batch.keys true))
    (result : BulkResult) :
    Keeps kept (container.deleteBatch result batch) := by
  refine (lasting.bulkDelete ofSort).attempt.bind (fun outcome => ?_)
  cases outcome with
  | ok _ => exact (lasting.count _).bind (fun _ => keeps_pure _)
  | error failure =>
    refine Keeps.ite ?_ (keeps_throw failure)
    refine (lasting.count _).bind (fun _ => ?_)
    exact (lasting.log _ _ _).bind (fun _ => keeps_pure _)

theorem deleteBatches
    (lasting : Lasting sort kept)
    {container : Container}
    {batches : List DeleteBatch}
    (ofSort : forall batch, batch ∈ batches ->
      sort (.deleteObjects container.bucket batch.keys true))
    (result : BulkResult) :
    Keeps kept (container.deleteBatches result batches) := by
  induction batches generalizing result with
  | nil => exact keeps_pure result
  | cons batch rest ih =>
    refine (lasting.deleteBatch (ofSort batch List.mem_cons_self) result).bind ?_
    exact ih (fun later listed => ofSort later (List.mem_cons_of_mem _ listed))

theorem drain
    (lasting : Lasting sort kept)
    {container : Container}
    (ofSort : forall bucket start token, sort (.listObjects bucket start token))
    (pagesAtMost : Nat)
    (page : ListingPage)
    (listing : Container.Listing) :
    Keeps kept (container.drain pagesAtMost page listing) := by
  -- The page and the listing change from page to page.
  induction pagesAtMost generalizing page listing with
  | zero =>
    refine (lasting.count _).bind (fun _ => ?_)
    refine (keeps_shaped _).bind (fun extended => ?_)
    exact Keeps.ite (keeps_fail _) (keeps_pure _)
  | succ others ih =>
    refine (lasting.count _).bind (fun _ => ?_)
    refine (keeps_shaped _).bind (fun extended => ?_)
    refine Keeps.ite ?_ (keeps_pure _)
    exact (lasting.listNext (fun _ => ofSort _ _ _)).bind (fun next => ih next extended)

theorem uploadParts
    (lasting : Lasting sort kept)
    (ofSort : forall bucket key uploadId number body,
      sort (.uploadPart bucket key uploadId number body))
    (plan : PartPlan)
    (partSize : Int)
    (left : Nat)
    (session : ActiveSession) :
    Keeps kept (Container.uploadParts plan partSize left session) := by
  induction left generalizing session with
  | zero => exact keeps_pure _
  | succ left ih =>
    refine (lasting.uploadNext (ofSort _ _ _)).attempt.bind (fun outcome => ?_)
    cases outcome with
    | ok extended => exact ih extended
    | error failure => exact keeps_pure _

end Lasting

def ActiveSession.IsAt (session : ActiveSession) (bucket key : String) : Prop :=
  session.bucket = bucket ∧ session.key = key

namespace Container

theorem initiate_isAt (container : Container) (key : String) (depot : Depot) :
    Yields (container.initiate key) depot (fun outcome _ => forall session,
      outcome = .ok session -> session.IsAt container.bucket key) := by
  have initiated : Yields (Client.initiateUpload container.bucket key
      container.store.config.uploadSettings) depot (fun _ _ => True) := trivial
  apply initiated.bind
  · intro uploadId next _
    by_cases unnamed : uploadId = ""
    next =>
      rw [if_pos unnamed]
      exact nofun
    next =>
      rw [if_neg unnamed]
      rintro session ⟨⟩
      exact ⟨rfl, rfl⟩
  · exact fun _ _ _ => nofun

variable {bucket key : String}

theorem uploadNext_isAt
    {session : ActiveSession}
    (isAt : session.IsAt bucket key)
    (size : Int)
    (depot : Depot) :
    Yields (uploadNext session size) depot (fun outcome _ => forall extended,
      outcome = .ok extended -> extended.IsAt bucket key) := by
  have uploaded : Yields (Client.uploadPart session.bucket session.key session.uploadId
      session.nextNumber size) depot (fun _ _ => True) := trivial
  apply uploaded.bind
  · intro part next _
    apply yields_count
    by_cases inOrder : part.part.number = session.nextNumber
    next =>
      rw [ActiveSession.addPart_next inOrder]
      rintro extended ⟨⟩
      exact isAt
    next =>
      rw [ActiveSession.addPart_other inOrder]
      exact nofun
  · exact fun _ _ _ => nofun

theorem uploadParts_isAt
    {session : ActiveSession}
    (isAt : session.IsAt bucket key)
    (plan : PartPlan)
    (partSize : Int)
    (left : Nat)
    (depot : Depot) :
    Yields (uploadParts plan partSize left session) depot (fun outcome _ => forall ended,
      outcome = .ok ended -> ended.1.IsAt bucket key) := by
  induction left generalizing session depot with
  | zero =>
    rintro ended ⟨⟩
    exact isAt
  | succ left ih =>
    apply (uploadNext_isAt isAt _ depot).attempt_bind
    intro outcome next extends_
    cases outcome with
    | ok extended => exact ih (extends_ extended rfl) next
    | error failure =>
      rintro ended ⟨⟩
      exact isAt

end Container

theorem Lasting.followPlan
    {sort : Request -> Prop}
    {kept : Depot -> Prop}
    {container : Container}
    {key : String}
    (lasting : Lasting sort kept)
    (ofSort : forall request : Request,
      request.ChangesOnly container.bucket (fun other => other = key) -> sort request)
    (size : Int)
    (plan : PartPlan) :
    Keeps kept (container.followPlan key size plan) := by
  intro depot holds
  have starts : Keeps kept (container.initiate key) := lasting.initiate (fun _ => ofSort _ trivial)
  change Yields (container.followPlan key size plan) depot (fun _ next => kept next)
  apply ((container.initiate_isAt key depot).keeping starts holds).attempt_bind
  rintro started next ⟨isAt, holds⟩
  cases started with
  | error failure => exact holds
  | ok session =>
    apply yields_log
    have uploads := lasting.uploadParts (fun _ _ _ _ _ => ofSort _ trivial) plan
      container.bufferSize plan.partCount.toNat session
    have logged := lasting.logs next (next.journal.log "info" "multipart_upload_started"
      [("bucket", .text session.bucket),
        ("key", .text key),
        ("upload_id", .text session.uploadId),
        ("parts", .int plan.partCount),
        ("size", .int size)]) rfl holds
    apply ((Container.uploadParts_isAt (isAt session rfl) plan _ _ _).keeping uploads logged).bind
    · rintro ⟨grown, outcome⟩ left ⟨isAt, holds⟩
      cases outcome with
      | error failure => exact holds
      | ok _ =>
        -- The upload that is completed is the one that was started.
        have completes : Keeps kept (Container.complete grown size) :=
          lasting.complete (fun _ => ofSort _ (isAt _ rfl))
        apply completes.attempt.bind _ left holds
        intro completed
        cases completed with
        | error failure => exact keeps_pure _
        | ok _ => exact keeps_pure _
    · exact fun _ _ done => done.2

namespace Container

theorem uploadParts_settles
    (plan : PartPlan)
    (partSize : Int)
    (left : Nat)
    (session : ActiveSession) :
    Settles (uploadParts plan partSize left session) := by
  induction left generalizing session with
  | zero => exact settles_pure _
  | succ left ih =>
    refine (settles_attempt _).bind (fun outcome => ?_)
    cases outcome with
    | ok extended => exact ih extended
    | error failure => exact settles_pure _

theorem followPlan_settles
    (container : Container)
    (key : String)
    (size : Int)
    (plan : PartPlan) :
    Settles (container.followPlan key size plan) := by
  refine (settles_attempt _).bind (fun started => ?_)
  cases started with
  | error failure => exact settles_pure _
  | ok session =>
    refine (settles_log _ _ _).bind (fun _ => ?_)
    refine (uploadParts_settles plan _ _ session).bind (fun progress => ?_)
    obtain ⟨session, outcome⟩ := progress
    cases outcome with
    | error failure => exact settles_pure _
    | ok _ =>
      refine (settles_attempt _).bind (fun completed => ?_)
      cases completed with
      | error failure => exact settles_pure _
      | ok _ => exact settles_pure _

end Container

/-- What holds before the client of a store is borrowed and after it is given back, and what holds
in between. -/
structure Lending
    (store : Store)
    (outside : Depot -> Prop)
    (inside : Nat -> Depot -> Prop) : Prop where
  logs : forall depot journal, journal.events = depot.journal.events -> outside depot ->
    outside { depot with journal := journal }
  acquires : forall depot, outside depot ->
    match store.acquire depot with
    | (.ok reference, next) => inside reference next
    | (.error _, next) => outside next
  releases : forall reference depot, inside reference depot ->
    outside (Reference.release reference depot).2

namespace Lending

variable {outside : Depot -> Prop} {inside : Nat -> Depot -> Prop}

theorem count
    {store : Store}
    (lending : Lending store outside inside)
    (change : Metrics -> Metrics) :
    Keeps outside (Action.count change) :=
  fun depot holds => lending.logs depot _ rfl holds

theorem log
    {store : Store}
    (lending : Lending store outside inside)
    (level event : String)
    (fields : List (String × Value)) :
    Keeps outside (Action.log level event fields) :=
  fun depot holds => lending.logs depot _ rfl holds

theorem borrowing
    {store : Store}
    {α : Type}
    {work : Action α}
    (lending : Lending store outside inside)
    (works : forall reference, Keeps (inside reference) work) :
    Keeps outside (store.borrowing work) := by
  intro depot holds
  have acquired := lending.acquires depot holds
  simp only [Store.borrowing, run_bind]
  cases ran : store.acquire depot with
  | mk outcome next =>
    rw [ran] at acquired
    cases outcome with
    | error failure => exact acquired
    | ok reference =>
      -- The client is given back whatever came of the work.
      have worked := works reference next acquired
      have released := lending.releases reference _ worked
      simp only [Reference.after, run_bind, run_attempt]
      cases given : Reference.release reference (work next).2 with
      | mk let_go left =>
        rw [given] at released
        cases let_go with
        | ok _ => simpa using released
        | error failure => exact released

variable {container : Container} {sort : Request -> Prop}

theorem blobExists
    (lending : Lending container.store outside inside)
    (lasting : forall reference, Lasting sort (inside reference))
    {name : String}
    (ofSort : sort (.headObject container.bucket (container.key name))) :
    Keeps outside (container.blobExists name) :=
  Lasting.reporting (lending.borrowing (fun reference => (lasting reference).objectExists ofSort))
    _ _

theorem readBlob
    (lending : Lending container.store outside inside)
    (lasting : forall reference, Lasting sort (inside reference))
    {name : String}
    (ofSort : sort (.getObject container.bucket (container.key name))) :
    Keeps outside (container.readBlob name) := by
  refine lending.borrowing (fun reference => ?_)
  refine ((lasting reference).getObject ofSort).attempt.bind (fun outcome => ?_)
  cases outcome with
  | ok content => exact keeps_pure content
  | error failure => exact keeps_throw _

theorem deleteBlobIfExists
    (lending : Lending container.store outside inside)
    (lasting : forall reference, Lasting sort (inside reference))
    {name : String}
    (ofSort : sort (.deleteObject container.bucket (container.key name))) :
    Keeps outside (container.deleteBlobIfExists name) := by
  have borrowed := lending.borrowing (fun reference => (lasting reference).deleteObject ofSort)
  exact (Lasting.reporting borrowed _ _).bind (fun _ => lending.count _)

theorem deleteBlob
    (lending : Lending container.store outside inside)
    (lasting : forall reference, Lasting sort (inside reference))
    {name : String}
    (heads : sort (.headObject container.bucket (container.key name)))
    (deletes : sort (.deleteObject container.bucket (container.key name))) :
    Keeps outside (container.deleteBlob name) := by
  refine (lending.blobExists lasting heads).bind (fun found => ?_)
  exact Keeps.ite (lending.deleteBlobIfExists lasting deletes) (keeps_fail _)

theorem deleteBlobsIfExist
    (lending : Lending container.store outside inside)
    (lasting : forall reference, Lasting sort (inside reference))
    {names : List String}
    (ofSort : forall keys, (forall key, key ∈ keys -> key ∈ names.map container.key) ->
      sort (.deleteObjects container.bucket keys true)) :
    Keeps outside (container.deleteBlobsIfExist names) := by
  refine Keeps.ite (keeps_pure _) ?_
  obtain ⟨batches, parted⟩ : exists batches,
      DeleteBatch.partition (names.map container.key) Limits.bulkDeletes = .ok batches := ⟨_, rfl⟩
  rw [parted]
  have ofNames : forall batch, batch ∈ batches -> forall key, key ∈ batch.keys ->
      key ∈ names.map container.key := by
    intro batch listed key member
    rw [<- (DeleteBatch.partition_eq_ok_iff.mp parted).2.keys]
    exact List.mem_flatMap.mpr ⟨batch, listed, member⟩
  have deletes : forall reference, Keeps (inside reference) (container.deleteBatches {} batches) :=
    fun reference => (lasting reference).deleteBatches
      (fun batch listed => ofSort batch.keys (ofNames batch listed)) {}
  refine (lending.borrowing deletes).bind (fun result => ?_)
  cases result.primary with
  | none => exact keeps_pure _
  | some failed => exact keeps_throw _

theorem listBlobs
    (lending : Lending container.store outside inside)
    (lasting : forall reference, Lasting sort (inside reference))
    (ofSort : forall bucket start token, sort (.listObjects bucket start token))
    (selection : Option String) :
    Keeps outside (container.listBlobs selection) := by
  refine Lasting.reporting (lending.borrowing (fun reference => ?_)) _ _
  refine ((lasting reference).listPage (ofSort _ _ _)).bind (fun page => ?_)
  refine keeps_get.bind (fun depot => ?_)
  exact (lasting reference).drain ofSort _ _ _

theorem uploadSingle
    (lending : Lending container.store outside inside)
    (lasting : forall reference, Lasting sort (inside reference))
    {key : String}
    (ofSort : forall request : Request,
      request.ChangesOnly container.bucket (fun other => other = key) -> sort request)
    (size : Int) :
    Keeps outside (container.uploadSingle key size) := by
  refine Keeps.optional (fun _ => keeps_fail _) ?_
  refine Keeps.optional (fun _ => keeps_fail _) ?_
  have puts : forall reference, Keeps (inside reference)
      (Client.putObject container.store.config.bucket key size
        container.store.config.uploadSettings) :=
    fun reference => (lasting reference).putObject (fun _ => ofSort _ ⟨rfl, rfl⟩)
  refine (lending.borrowing puts).attempt.bind (fun outcome => ?_)
  cases outcome with
  | ok _ => exact (lending.count _).bind (fun _ => lending.log _ _ _)
  | error failure =>
    exact Keeps.ite ((lending.count _).bind (fun _ => keeps_throw _)) (keeps_throw failure)

theorem borrowForPlan
    (lending : Lending container.store outside inside)
    (lasting : forall reference, Lasting sort (inside reference))
    {key : String}
    (ofSort : forall request : Request,
      request.ChangesOnly container.bucket (fun other => other = key) -> sort request)
    (size : Int)
    (plan : PartPlan) :
    Keeps outside (container.borrowForPlan key size plan) := by
  intro depot holds
  have acquired := lending.acquires depot holds
  simp only [Container.borrowForPlan, run_bind, run_attempt]
  cases ran : container.store.acquire depot with
  | mk outcome next =>
    rw [ran] at acquired
    cases outcome with
    | error failure => exact acquired
    | ok reference =>
      have worked := (lasting reference).followPlan ofSort size plan next acquired
      -- Following a plan does not fail as such, so the client is given back in any case.
      obtain ⟨progress, left, followed⟩ :=
        Container.followPlan_settles container key size plan next
      rw [followed] at worked
      have released := lending.releases reference left worked
      simp only [run_bind_ok _ followed, run_bind, run_attempt]
      cases (Reference.release reference left).1 with
      | ok _ => exact released
      | error failure => exact released

theorem abort
    (lending : Lending container.store outside inside)
    (lasting : forall reference, Lasting sort (inside reference))
    (ofSort : forall bucket key uploadId, sort (.abortUpload bucket key uploadId))
    (progress : UploadProgress)
    (failure : Failure) :
    Keeps outside (container.abort progress failure) := by
  cases progress with
  | notStarted => exact keeps_pure failure
  | completed => exact keeps_pure failure
  | active session =>
    have borrowed := lending.borrowing (fun reference => (lasting reference).abortUpload
      (ofSort session.bucket session.key session.uploadId))
    refine borrowed.attempt.bind (fun outcome => ?_)
    cases outcome with
    | ok _ =>
      exact (lending.count _).bind (fun _ => (lending.log _ _ _).bind (fun _ => keeps_pure _))
    | error aborted =>
      refine Keeps.ite ?_ (keeps_throw aborted)
      exact (lending.count _).bind (fun _ => (lending.log _ _ _).bind (fun _ => keeps_pure _))

theorem uploadMultipart
    (lending : Lending container.store outside inside)
    (lasting : forall reference, Lasting sort (inside reference))
    {key : String}
    (ofSort : forall request : Request,
      request.ChangesOnly container.bucket (fun other => other = key) -> sort request)
    (size : Int) :
    Keeps outside (container.uploadMultipart key size) := by
  refine Keeps.optional (fun _ => keeps_fail _) ?_
  refine Keeps.optional (fun _ => keeps_fail _) ?_
  refine (keeps_checked _).bind (fun plan => ?_)
  refine Keeps.optional (fun _ => keeps_fail _) ?_
  refine Keeps.optional (fun _ => keeps_fail _) ?_
  refine (lending.borrowForPlan lasting ofSort size plan).bind (fun ended => ?_)
  obtain ⟨progress, outcome⟩ := ended
  cases outcome with
  | ok session => exact (lending.count _).bind (fun _ => lending.log _ _ _)
  | error failure =>
    refine (lending.abort lasting (fun _ _ _ => ofSort _ trivial) _ _).bind (fun reported => ?_)
    exact (lending.count _).bind (fun _ => keeps_throw _)

theorem writeBlobOn
    (lending : Lending container.store outside inside)
    (lasting : forall reference, Lasting sort (inside reference))
    {name : String}
    (ofSort : forall request : Request,
      request.ChangesOnly container.bucket (fun other => other = container.key name) ->
        sort request)
    (size : Int)
    (failIfExists : Bool) :
    Keeps outside (container.writeBlob name size failIfExists) := by
  refine Keeps.optional (fun _ => lending.log _ _ _) ?_
  exact Keeps.ite (lending.uploadSingle lasting ofSort size)
    (lending.uploadMultipart lasting ofSort size)

theorem writeBlob
    (lending : Lending container.store outside inside)
    (lasting : forall reference, Lasting (fun _ => True) (inside reference))
    (name : String)
    (size : Int)
    (failIfExists : Bool) :
    Keeps outside (container.writeBlob name size failIfExists) :=
  lending.writeBlobOn lasting (fun _ _ => trivial) size failIfExists

end Lending

end BlobDepot
