import BlobDepot.Proofs.Deletions
import BlobDepot.Proofs.Drains
import BlobDepot.Proofs.Reports

set_option autoImplicit false

namespace BlobDepot

open BlobDepot.Action

def Answer.Identifies (answer : Answer) : Prop :=
  exists fields, answer.description = .map fields ∧
    (Value.lookup "UploadId" fields = none ∨ Value.lookup "UploadId" fields = some .null ∨
      exists uploadId, Value.lookup "UploadId" fields = some (.text uploadId))

def Answer.Tags (answer : Answer) : Prop :=
  exists fields tag, answer.description = .map fields ∧
    Value.lookup "ETag" fields = some (.text tag)

def Answer.Lists (answer : Answer) : Prop :=
  exists fields, answer.description = .map fields ∧
    (Value.lookup "Contents" fields = none ∨ exists items listed,
      Value.lookup "Contents" fields = some (.list items) ∧
        List.Forall₂ Value.Describes items listed)

def Answer.Fits (answer : Answer) : Method -> Prop
  | .getObject => exists body, answer = .content body
  | .createUpload => answer.Identifies
  | .uploadPart => answer.Tags
  | .deleteObjects => IsDeletion (.ok answer)
  | .listObjects => answer.Lists
  | _ => True

inductive FitsRequest (method : Method) : Except Failure Answer -> Prop
  | answered (answer : Answer) (fits : answer.Fits method) : FitsRequest method (.ok answer)
  | failed (failure : Failure) (fault : failure.IsFault) : FitsRequest method (.error failure)

theorem FitsRequest.deletion {given : Except Failure Answer}
    (fits : FitsRequest .deleteObjects given) :
    IsDeletion given := by
  cases fits with
  | answered answer fits => exact fits
  | failed failure fault => exact .failed failure fault

/-- No request closes the store, and what answers one in the place of the service fits it. -/
def Schedule.AnswersFit (schedule : Schedule) : Prop :=
  forall (request : Request) number disruption,
    disruption ∈ schedule.disruptions request.method number ->
      disruption.closesStore = false ∧
        forall outcome, disruption.outcome = some outcome -> FitsRequest request.method outcome

theorem Schedule.answersFit_calm : calm.AnswersFit := by
  intro request number disruption listed
  cases listed

namespace Schedule.AnswersFit

variable {schedule : Schedule}

theorem add
    {method : Method}
    {disruption : Disruption}
    (fitting : schedule.AnswersFit)
    (harmless : disruption.closesStore = false)
    (fits : forall outcome, disruption.outcome = some outcome -> FitsRequest method outcome)
    (numbers : List Nat) :
    (schedule.add method numbers disruption).AnswersFit := by
  intro request number added listed
  obtain earlier | new := List.mem_append.mp listed
  · exact fitting request number added earlier
  · split at new
    next hit =>
      rw [List.mem_singleton.mp new, hit.1]
      exact ⟨harmless, fits⟩
    next => cases new

theorem keepsOpen (fitting : schedule.AnswersFit) (request : Request) :
    schedule.KeepsOpen request.method :=
  fun number disruption listed => (fitting request number disruption listed).1

end Schedule.AnswersFit

theorem Answer.Shows.lists
    {answer : Answer}
    {listed : List (String × Int)}
    {following : Option Value}
    (shows : answer.Shows listed following) :
    answer.Lists := by
  obtain ⟨fields, described, contents, _⟩ := shows
  refine ⟨fields, described, ?_⟩
  rcases contents with ⟨absent, _⟩ | ⟨items, present, describe⟩
  next => exact .inl absent
  next => exact .inr ⟨items, listed, present, describe⟩

namespace Service

theorem fits_of_performed
    {service : Service}
    {request : Request}
    {answer : Answer}
    (performed : (service.perform request).1 = .ok answer) :
    answer.Fits request.method := by
  cases request with
  | getObject bucket key =>
    simp only [perform] at performed
    split at performed
    next => cases performed
    next body _ => exact ⟨body, (Except.ok.inj performed).symm⟩
  | createUpload bucket key settings =>
    cases performed
    exact ⟨_, rfl, .inr (.inr ⟨_, rfl⟩)⟩
  | uploadPart bucket key uploadId number body =>
    simp only [perform] at performed
    split at performed
    next => cases performed
    next =>
      cases performed
      exact ⟨_, _, rfl, rfl⟩
  | deleteObjects bucket keys quiet =>
    cases performed
    exact .answered _ [] rfl (.inl rfl)
  | listObjects bucket start token =>
    cases named : tokenIndex? token with
    | none => simp [perform, named] at performed
    | some index =>
      rw [perform_listObjects named] at performed
      cases performed
      exact (page_shows _ _ _ _).lists
  | _ => trivial

theorem answer_fits (service : Service) (request : Request) :
    FitsRequest request.method (service.answer request).1 := by
  cases performed : (service.perform request).1 with
  | ok given =>
    rw [answer, performed]
    exact .answered _ (fits_of_performed performed)
  | error rejection =>
    rw [answer, performed]
    exact .failed _ (isFault_of_rejected performed)

theorem respond_fits
    {request : Request}
    {disruptions : List Disruption}
    (fitting : forall disruption outcome, disruption ∈ disruptions ->
      disruption.outcome = some outcome -> FitsRequest request.method outcome)
    (service : Service) :
    FitsRequest request.method (service.respond request disruptions).1 := by
  induction disruptions generalizing service with
  | nil => exact service.answer_fits request
  | cons disruption rest ih =>
    have later := ih (fun other outcome listed => fitting other outcome (.tail _ listed))
    rw [respond]
    cases prepared : service.prepare request disruption with
    | mk early middle =>
      cases early with
      | error failure =>
        -- Only an effect that came first and was rejected ends the call here.
        rw [prepare] at prepared
        split at prepared
        next =>
          have answered := service.answer_fits request
          cases outcome : (service.answer request).1 with
          | ok answer => simp [outcome, Except.map] at prepared
          | error other =>
            rw [outcome] at answered prepared
            cases prepared
            cases answered with
            | failed _ fault => exact .failed _ fault
        next => cases prepared
      | ok _ =>
        cases given : disruption.outcome with
        | none => exact later middle
        | some outcome => exact fitting disruption outcome List.mem_cons_self given

end Service

theorem Responded.fits
    {origin depot next : Depot}
    {borrowers : Nat}
    {request : Request}
    {given : Except Failure Answer}
    (responded : Responded origin borrowers request depot given next)
    (fitting : origin.schedule.AnswersFit) :
    FitsRequest request.method given := by
  have fits := Service.respond_fits (fun disruption outcome listed =>
    (fitting request (depot.journal.callCount request.method + 1) disruption listed).2 outcome)
    depot.service
  rw [responded.response] at fits
  exact fits

end BlobDepot
