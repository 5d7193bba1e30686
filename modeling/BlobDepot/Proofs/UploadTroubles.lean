import BlobDepot.Proofs.Transfers
import BlobDepot.Proofs.Troubles

set_option autoImplicit false

namespace BlobDepot

open BlobDepot.Action

structure Prepares (events : List Event) : Prop where
  unstored : events.any Event.stores = false
  unaborted : abortAnswer? events = none

theorem Prepares.append
    {before later : List Event}
    (first : Prepares before)
    (second : Prepares later) :
    Prepares (before ++ later) where
  unstored := by rw [List.any_append, first.unstored, second.unstored, Bool.or_false]
  unaborted := by rw [abortAnswer?_append, first.unaborted, second.unaborted, Option.or_none]

theorem prepares_nil : Prepares [] :=
  ⟨rfl, rfl⟩

structure Starts
    (key : String)
    (outcome : Except Failure ActiveSession)
    (events : List Event) : Prop where
  tells : Tells events outcome
  prepares : Prepares events
  sent : sentLength events = 0
  started : startedUpload? events = outcome.toOption.map ActiveSession.uploadId
  fresh : forall session, outcome = .ok session -> session.key = key ∧ session.bytesSent = 0

structure Advances
    (session next : ActiveSession)
    (outcome : Except Failure Unit)
    (events : List Event) : Prop where
  tells : Tells events outcome
  prepares : Prepares events
  unstarted : startedUpload? events = none
  key : next.key = session.key
  uploadId : next.uploadId = session.uploadId
  sent : outcome = .ok () -> next.bytesSent = session.bytesSent + sentLength events

theorem Advances.trans
    {first middle last : ActiveSession}
    {outcome : Except Failure Unit}
    {before later : List Event}
    (advances : Advances first middle (.ok ()) before)
    (rest : Advances middle last outcome later) :
    Advances first last outcome (before ++ later) where
  tells := advances.tells.after rest.tells
  prepares := advances.prepares.append rest.prepares
  unstarted := by rw [startedUpload?_append, advances.unstarted, rest.unstarted, Option.or_none]
  key := rest.key.trans advances.key
  uploadId := rest.uploadId.trans advances.uploadId
  sent done := by
    rw [rest.sent done, advances.sent rfl, sentLength_append]
    omega

structure PartTold
    (session : ActiveSession)
    (outcome : Except Failure UploadedPart)
    (events : List Event) : Prop where
  tells : Tells events outcome
  prepares : Prepares events
  unstarted : startedUpload? events = none
  sent : forall uploaded, outcome = .ok uploaded ->
    uploaded.part.number = session.nextNumber ∧ uploaded.size = sentLength events

theorem partTold_of_answer
    (session : ActiveSession)
    (size : Int)
    (body : Body)
    (given : Except Failure Answer) :
    PartTold session
      ((session.partRequest body).conclude given (fun answer =>
        ⟨⟨session.nextNumber, (answer.description.entry "ETag").toOption.getD .null⟩, body.length⟩))
      (.read size (.ok body) :: (session.partRequest body).events given) where
  tells := by
    have read : Tells [.read size (.ok body)] (.ok () : Except Failure Unit) := rfl
    have asked : (session.partRequest body).method ≠ .abortUpload := by
      simp [ActiveSession.partRequest, Request.method]
    exact read.after (Request.tells_conclude asked given _)
  prepares := ⟨rfl, rfl⟩
  unstarted := by cases given <;> rfl
  sent uploaded concluded := by
    obtain ⟨answer, rfl, _, rfl⟩ := Request.of_conclude concluded
    simp [sentLength, Request.events, ActiveSession.partRequest, Event.sentLength]

def UploadProgress.pending? : UploadProgress -> Option String
  | .active session => some session.uploadId
  | _ => none

structure PartsTold
    (key : String)
    (size : Int)
    (ended : UploadProgress × Except Failure ActiveSession)
    (events : List Event) : Prop where
  troubled : (partsTrouble? key size events).map Trouble.failure =
    match ended.2 with
    | .ok _ => none
    | .error failure => some failure
  stored : events.any Event.stores = ended.2.isOk
  unaborted : abortAnswer? events = none
  pending : ended.1.pending? = if ended.2.isOk then none else startedUpload? events

theorem PartsTold.failed
    {key : String}
    {size : Int}
    {progress : UploadProgress}
    {failure : Failure}
    {events : List Event}
    (tells : Tells events (.error failure : Except Failure ActiveSession))
    (prepares : Prepares events)
    (pending : progress.pending? = startedUpload? events) :
    PartsTold key size (progress, .error failure) events := by
  obtain ⟨trouble, found, fails⟩ := tells
  exact {
    troubled := by simp [partsTrouble?, found, fails]
    stored := prepares.unstored
    unaborted := prepares.unaborted
    pending := pending }

theorem Answer.ne_empty_of_uploadId?
    {answer : Answer}
    {uploadId : String}
    (named : answer.uploadId? = some uploadId) :
    uploadId ≠ "" := by
  simp only [Answer.uploadId?] at named
  split at named
  next value _ =>
    by_cases empty : value.plain = ""
    next => simp [empty] at named
    next =>
      split at named
      next =>
        cases named
        exact empty
      next => cases named
  next => cases named

structure AllSent (key : String) (session : ActiveSession) (events : List Event) : Prop where
  key : session.key = key
  untroubled : firstTrouble? events = none
  prepares : Prepares events
  named : startedUpload? events = some session.uploadId
  length : session.bytesSent = sentLength events

namespace AllSent

variable {key : String} {session : ActiveSession} {events : List Event} {size : Int}

theorem completed
    (allSent : AllSent key session events)
    (whole : session.bytesSent = size)
    (given : Except Failure Answer) :
    PartsTold key size
      (match given with
        | .ok _ => (.completed, .ok session)
        | .error failure => (.active session, .error (failure.told session.completion.doing)))
      (events ++ session.completion.events given) := by
  have asked : session.completion.method ≠ .abortUpload := by
    simp [ActiveSession.completion, Request.method]
  have tells := Request.tells_conclude asked given (fun _ => ())
  have length : sentLength (events ++ session.completion.events given) = size := by
    rw [sentLength_append, <- allSent.length, whole]
    simp [ActiveSession.completion, Event.sentLength]
  have prepares := allSent.prepares
  cases given with
  | ok answer =>
    have untroubled : firstTrouble? (session.completion.events (.ok answer)) = none := tells
    exact {
      troubled := by simp [partsTrouble?, allSent.untroubled, untroubled, length]
      stored := by
        simp [prepares.unstored, ActiveSession.completion, Request.events, Event.stores,
          Except.isOk, Except.toBool]
      unaborted := by simp [prepares.unaborted, ActiveSession.completion, Event.abortAnswer?]
      pending := rfl }
  | error failure =>
    obtain ⟨trouble, found, fails⟩ := tells
    exact {
      troubled := by simp [partsTrouble?, allSent.untroubled, found, fails]
      stored := by
        simp [prepares.unstored, ActiveSession.completion, Request.events, Event.stores,
          Except.isOk, Except.toBool]
      unaborted := by simp [prepares.unaborted, ActiveSession.completion, Event.abortAnswer?]
      pending := by simp [allSent.named, UploadProgress.pending?, Except.isOk, Except.toBool] }

theorem short
    (allSent : AllSent key session events)
    (short : session.bytesSent ≠ size) :
    PartsTold key size
      (.active session, .error (.of (.sizeMismatch session.key size session.bytesSent)))
      events where
  troubled := by
    rw [allSent.length] at short
    simp [partsTrouble?, allSent.untroubled, short, Trouble.failure, allSent.key, allSent.length]
  stored := allSent.prepares.unstored
  unaborted := allSent.prepares.unaborted
  pending := allSent.named.symm

end AllSent

section Steps

variable {origin depot : Depot} {others : Nat}

theorem Lent.initiateUpload
    (lent : Lent origin (others + 1) depot)
    (bucket key : String)
    (settings : UploadSettings) :
    Works origin others (Client.initiateUpload bucket key settings) depot (fun outcome events =>
      exists given, events = (Request.createUpload bucket key settings.sent).events given ∧
        match given with
        | .error failure => outcome = .error (failure.told "Failed to create multipart upload")
        | .ok answer =>
            match answer.description.findEntry "UploadId" with
            | .error error => outcome = .error (.of (.shape error))
            | .ok _ => outcome = .ok (answer.uploadId?.getD "")) := by
  refine (lent.asks (.createUpload bucket key settings.sent)).bind
    (fun answer left events lentLeft asked => ?_) (fun failure events asked => ?_)
  · obtain ⟨given, rfl, same⟩ := asked
    cases given with
    | error _ => cases same
    | ok _ =>
      cases same
      cases found : answer.description.findEntry "UploadId" with
      | error error => exact .ends lentLeft rfl ⟨.ok answer, List.append_nil _, by simp [found]⟩
      | ok entry =>
        cases entry with
        | none =>
          refine .ends lentLeft rfl ⟨.ok answer, List.append_nil _, ?_⟩
          simp [found, Answer.uploadId?]
        | some value =>
          refine .ends lentLeft rfl ⟨.ok answer, List.append_nil _, ?_⟩
          by_cases truthy : value.isTruthy = true <;> by_cases empty : value.plain = "" <;>
            simp [found, Answer.uploadId?, truthy, empty]
  · obtain ⟨given, rfl, same⟩ := asked
    cases given with
    | ok _ => cases same
    | error fault =>
      cases same
      exact ⟨.error fault, rfl, rfl⟩

theorem Lent.initiate
    (lent : Lent origin (others + 1) depot)
    (container : Container)
    (key : String) :
    Works origin others (container.initiate key) depot (fun outcome events =>
      exists settings given,
        events = (Request.createUpload container.bucket key settings).events given ∧
        outcome = (Request.createUpload container.bucket key settings).conclude given
          (fun answer => ⟨container.bucket, key, answer.uploadId?.getD "", [], 0⟩)) := by
  refine (lent.initiateUpload _ _ _).bind (fun uploadId left events lentLeft named => ?_)
    (fun failure events named => ?_)
  · obtain ⟨given, rfl, named⟩ := named
    cases given with
    | error fault => cases named
    | ok answer =>
      cases found : answer.description.findEntry "UploadId" with
      | error error => simp [found] at named
      | ok entry =>
        have isId : uploadId = answer.uploadId?.getD "" := by simpa [found] using named
        cases known : answer.uploadId? with
        | none =>
          have empty : uploadId = "" := by simp [isId, known]
          rw [if_pos empty]
          refine .ends lentLeft rfl ⟨_, .ok answer, List.append_nil _, ?_⟩
          simp [Request.conclude, Request.complaint?, found, known]
        | some text =>
          have isText : uploadId = text := by simp [isId, known]
          rw [if_neg (isText ▸ answer.ne_empty_of_uploadId? known)]
          refine .ends lentLeft rfl ⟨_, .ok answer, List.append_nil _, ?_⟩
          simp [Request.conclude, Request.complaint?, found, known, isText, Container.bucket]
  · obtain ⟨given, rfl, named⟩ := named
    cases given with
    | error fault =>
      cases named
      exact ⟨_, .error fault, rfl, rfl⟩
    | ok answer =>
      cases found : answer.description.findEntry "UploadId" with
      | ok entry => simp [found] at named
      | error error =>
        refine ⟨_, .ok answer, rfl, ?_⟩
        simpa [Request.conclude, Request.complaint?, found] using named

theorem Lent.starts
    (lent : Lent origin (others + 1) depot)
    (container : Container)
    (key : String) :
    Works origin others (container.initiate key) depot (Starts key) := by
  refine (lent.initiate container key).mono (fun outcome events started => ?_)
  obtain ⟨settings, given, rfl, rfl⟩ := started
  refine ⟨Request.tells_conclude (by simp [Request.method]) given _, ⟨rfl, rfl⟩, ?_, ?_, ?_⟩
  · simp [Event.sentLength]
  · cases given with
    | error failure => simp [Request.conclude, Event.started?, Except.toOption]
    | ok answer =>
      cases found : answer.description.findEntry "UploadId" with
      | error error =>
        simp [Request.conclude, Request.complaint?, Event.started?, found, Answer.uploadId?,
          Except.toOption]
      | ok entry =>
        cases known : answer.uploadId? <;>
          simp [Request.conclude, Request.complaint?, Event.started?, found, known, Except.toOption]
  · intro session made
    obtain ⟨_, _, _, rfl⟩ := Request.of_conclude made
    exact ⟨rfl, rfl⟩

theorem Lent.uploadPart
    (lent : Lent origin (others + 1) depot)
    (session : ActiveSession)
    (size : Int) :
    Works origin others
      (Client.uploadPart session.bucket session.key session.uploadId session.nextNumber size) depot
      (PartTold session) := by
  refine (lent.readSource size).bind (fun body middle events lentMiddle read => ?_)
    (fun failure events read => ?_)
  · subst read
    refine (lentMiddle.asks (session.partRequest body)).bind
      (fun answer left events lentLeft asked => ?_) (fun failure events asked => ?_)
    · obtain ⟨given, rfl, same⟩ := asked
      cases given with
      | error _ => cases same
      | ok _ =>
        cases same
        have told := partTold_of_answer session size body (.ok answer)
        rw [<- List.append_nil (Event.read size (.ok body) :: _)] at told
        cases tagged : answer.description.entry "ETag" with
        | error error =>
          refine .ends lentLeft rfl ?_
          simpa [Request.conclude, Request.complaint?, ActiveSession.partRequest, tagged] using told
        | ok tag =>
          refine .ends lentLeft rfl ?_
          simpa [Request.conclude, Request.complaint?, ActiveSession.partRequest, tagged,
            Except.toOption] using told
    · obtain ⟨given, rfl, same⟩ := asked
      cases given with
      | ok _ => cases same
      | error fault =>
        cases same
        exact partTold_of_answer session size body (.error fault)
  · subst read
    exact ⟨⟨.other failure, rfl, rfl⟩, ⟨rfl, rfl⟩, rfl, fun _ impossible => by cases impossible⟩

theorem Lent.uploadNext
    (lent : Lent origin (others + 1) depot)
    (session : ActiveSession)
    (size : Int) :
    Works origin others (Container.uploadNext session size) depot (fun outcome events =>
      match outcome with
      | .ok extended => Advances session extended (.ok ()) events
      | .error failure => Advances session session (.error failure) events) := by
  refine (lent.uploadPart session size).bind (fun uploaded left events lentLeft told => ?_)
    (fun failure events told => ?_)
  · obtain ⟨number, length⟩ := told.sent uploaded rfl
    have counted : Traced left [] { left with journal := left.journal.count (fun metrics =>
        { metrics with partSizes := metrics.partSizes ++ [uploaded.size] }) } :=
      ⟨(List.append_nil _).symm, rfl⟩
    refine .after (run_count _ left) counted ?_
    -- The part bears the number that is next, so the session takes it.
    rw [ActiveSession.addPart_next number]
    refine .ends (lentLeft.logs rfl) rfl ?_
    rw [List.append_nil]
    exact {
      tells := told.tells
      prepares := told.prepares
      unstarted := told.unstarted
      key := rfl
      uploadId := rfl
      sent := fun _ => by rw [ActiveSession.push, length] }
  · exact {
      tells := told.tells
      prepares := told.prepares
      unstarted := told.unstarted
      key := rfl
      uploadId := rfl
      sent := fun impossible => by cases impossible }

theorem Lent.uploadParts
    (lent : Lent origin (others + 1) depot)
    (plan : PartPlan)
    (partSize : Int)
    (left : Nat)
    (session : ActiveSession) :
    Works origin others (Container.uploadParts plan partSize left session) depot
      (fun result events => exists ended, result = .ok ended ∧
        Advances session ended.1 ended.2 events) := by
  induction left generalizing session depot with
  | zero =>
    refine .ends lent rfl ⟨(session, .ok ()), rfl, ?_⟩
    exact ⟨rfl, prepares_nil, rfl, rfl, rfl, fun _ => (Int.add_zero _).symm⟩
  | succ left ih =>
    refine (lent.uploadNext session _).attempt_bind
      (fun outcome middle events lentMiddle told => ?_)
    cases outcome with
    | ok extended =>
      refine (ih lentMiddle extended).mono (fun result later advanced => ?_)
      obtain ⟨ended, rfl, rest⟩ := advanced
      exact ⟨ended, rfl, told.trans rest⟩
    | error failure =>
      refine .ends lentMiddle rfl ⟨(session, .error failure), rfl, ?_⟩
      rwa [List.append_nil]

theorem Lent.complete
    (lent : Lent origin (others + 1) depot)
    (session : ActiveSession)
    (size : Int) :
    Works origin others (Container.complete session size) depot (fun outcome events =>
      if session.bytesSent = size then
        exists given, events = session.completion.events given ∧
          outcome = session.completion.conclude given (fun _ => ())
      else
        events = [] ∧
          outcome = .error (.of (.sizeMismatch session.key size session.bytesSent))) := by
  rw [Container.complete]
  by_cases whole : session.bytesSent = size
  next =>
    simp only [if_pos whole]
    refine (lent.asks session.completion).bind (fun answer left events lentLeft asked => ?_)
      (fun failure events asked => ?_)
    · obtain ⟨given, rfl, same⟩ := asked
      cases given with
      | error _ => cases same
      | ok _ => exact .ends lentLeft rfl ⟨.ok _, List.append_nil _, rfl⟩
    · obtain ⟨given, rfl, same⟩ := asked
      cases given with
      | ok _ => cases same
      | error fault =>
        cases same
        exact ⟨.error fault, rfl, rfl⟩
  next =>
    simp only [if_neg whole]
    exact .ends lent rfl ⟨rfl, rfl⟩

theorem Lent.followPlan
    (lent : Lent origin (others + 1) depot)
    (container : Container)
    (key : String)
    (size : Int)
    (plan : PartPlan) :
    Works origin others (container.followPlan key size plan) depot (fun result events =>
      exists ended, result = .ok ended ∧ PartsTold key size ended events) := by
  refine (lent.starts container key).attempt_bind (fun started left events lentLeft starts => ?_)
  cases started with
  | error failure =>
    refine .ends lentLeft rfl ⟨_, rfl, ?_⟩
    rw [List.append_nil]
    exact .failed starts.tells starts.prepares starts.started.symm
  | ok session =>
    obtain ⟨isKey, none_sent⟩ := starts.fresh session rfl
    refine .log_bind lentLeft (fun logged lentLogged => ?_)
    have uploads := lentLogged.uploadParts plan container.bufferSize plan.partCount.toNat session
    refine uploads.bind (fun result middle sent lentMiddle advanced => ?_)
      (fun failure sent impossible => ?_)
    · obtain ⟨ended, same, advances⟩ := advanced
      cases same
      obtain ⟨grown, outcome⟩ := result
      have tells := starts.tells.after advances.tells
      have prepares := starts.prepares.append advances.prepares
      have isId : grown.uploadId = session.uploadId := advances.uploadId
      have named : startedUpload? (events ++ sent) = some grown.uploadId := by
        simp [starts.started, isId, Except.toOption]
      cases outcome with
      | error failure =>
        refine .ends lentMiddle rfl ⟨_, rfl, ?_⟩
        rw [List.append_nil]
        exact .failed tells prepares named.symm
      | ok _ =>
        have allSent : AllSent key grown (events ++ sent) := {
          key := advances.key.trans isKey
          untroubled := tells
          prepares := prepares
          named := named
          length := by
            rw [advances.sent rfl, none_sent, sentLength_append, starts.sent] }
        refine (lentMiddle.complete grown size).attempt_bind
          (fun outcome last final lentLast completes => ?_)
        by_cases whole : grown.bytesSent = size
        next =>
          rw [if_pos whole] at completes
          obtain ⟨given, rfl, rfl⟩ := completes
          have told := allSent.completed whole given
          cases given with
          | ok answer =>
            refine .ends lentLast rfl ⟨_, rfl, ?_⟩
            rwa [List.append_nil, <- List.append_assoc]
          | error failure =>
            refine .ends lentLast rfl ⟨_, rfl, ?_⟩
            rwa [List.append_nil, <- List.append_assoc]
        next =>
          rw [if_neg whole] at completes
          obtain ⟨rfl, rfl⟩ := completes
          refine .ends lentLast rfl ⟨_, rfl, ?_⟩
          simp only [List.append_nil]
          exact allSent.short whole
    · obtain ⟨_, impossible, _⟩ := impossible
      cases impossible

end Steps

end BlobDepot
