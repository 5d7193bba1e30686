import BlobDepot.Proofs.Answers
import BlobDepot.Proofs.Faults
import BlobDepot.Proofs.Pages

set_option autoImplicit false

namespace BlobDepot

open BlobDepot.Action

def Value.Describes (value : Value) (entry : String × Int) : Prop :=
  exists fields, value = .map fields ∧ lookup "Key" fields = some (.text entry.1) ∧
    (lookup "Size" fields = some (.int entry.2) ∨ lookup "Size" fields = none ∧ entry.2 = 0)

/-- An answer lists some objects, and names the page after it unless it is the last one. -/
def Answer.Shows
    (answer : Answer)
    (listed : List (String × Int))
    (following : Option Value) : Prop :=
  exists fields, answer.description = .map fields ∧
    (Value.lookup "Contents" fields = none ∧ listed = [] ∨ exists items,
      Value.lookup "Contents" fields = some (.list items) ∧
        List.Forall₂ Value.Describes items listed) ∧
    ((Value.lookup "IsTruncated" fields).getD .null).isTruthy = following.isSome ∧
    forall token, following = some token ->
      Value.lookup "NextContinuationToken" fields = some token ∧ token.isTruthy = true

theorem listed_of_describes
    {value : Value}
    {entry : String × Int}
    (describes : value.Describes entry) :
    Client.listed value = .ok (.text entry.1, entry.2) := by
  obtain ⟨fields, rfl, key, size⟩ := describes
  have hasKey : (Value.map fields).entry "Key" = .ok (.text entry.1) := by
    rw [Value.entry, key]
  rw [Client.listed, hasKey]
  rcases size with sized | ⟨unsized, empty⟩
  next =>
    simp only [Value.findEntry, sized]
    rfl
  next =>
    simp only [Value.findEntry, unsized, empty]
    rfl

theorem pageOf_shown
    {answer : Answer}
    {listed : List (String × Int)}
    {following : Option Value}
    (shows : answer.Shows listed following)
    (bucket start : String) :
    exists token, (forall named, following = some named -> token = named) ∧
      Client.pageOf bucket start answer.description = .ok
        ⟨bucket, start, listed.map (fun entry => (.text entry.1, entry.2)), following.isSome,
          token⟩ := by
  obtain ⟨fields, described, contents, truncated, token⟩ := shows
  refine ⟨(Value.lookup "NextContinuationToken" fields).getD .null, ?_, ?_⟩
  · rintro named rfl
    rw [(token named rfl).1]
    rfl
  · obtain ⟨items, found, reads⟩ : exists items,
        ((Value.lookup "Contents" fields).getD (.list [])).items = .ok items ∧
          items.mapM Client.listed =
            .ok (listed.map (fun entry => (.text entry.1, entry.2))) := by
      -- An answer without a list of objects shows none.
      rcases contents with ⟨absent, none⟩ | ⟨items, present, describe⟩
      next => exact ⟨[], by rw [absent]; rfl, by rw [none]; rfl⟩
      next =>
        refine ⟨items, by rw [present]; rfl, mapM_of_forall₂ ?_⟩
        rw [List.forall₂_map_right_iff]
        exact describe.imp (fun _ _ => listed_of_describes)
    rw [Client.pageOf, described]
    simp only [Value.findEntry, bind, Except.bind, found, reads, truncated]
    rfl

def Depot.pageAnswer
    (depot : Depot)
    (bucket start : String)
    (number : Nat)
    (token : Option Value) : Except Failure Answer :=
  (depot.service.respond (.listObjects bucket start token)
    (depot.schedule.disruptions .listObjects number)).1

def Service.ListsLike (service other : Service) : Prop :=
  other.objects = service.objects ∧ other.pageSize = service.pageSize

namespace Service

variable {service other : Service}

theorem perform_listObjects
    {token : Option Value}
    {index : Nat}
    (named : tokenIndex? token = some index)
    (service : Service)
    (bucket start : String) :
    service.perform (.listObjects bucket start token) =
      (.ok (.data (page (service.objects bucket) start index service.pageSize)),
        service.reach bucket) := by
  simp only [perform, reachesBucket, if_true, objects_reach, Request.bucket, named]
  rfl

theorem answer_listObjects (service : Service) (bucket start : String) (token : Option Value) :
    service.answer (.listObjects bucket start token) =
      (match tokenIndex? token with
        | some index => .ok (.data (page (service.objects bucket) start index service.pageSize))
        | none => .error (.of (.rejected (.of "ListObjectsV2" "InvalidArgument"
            "The continuation token provided is incorrect" 400))),
        service.reach bucket) := by
  cases named : tokenIndex? token with
  | some index => rw [answer, perform_listObjects named]; rfl
  | none =>
    simp only [answer, perform, reachesBucket, if_true, named]
    rfl

theorem ListsLike.trans
    {last : Service}
    (first : service.ListsLike other)
    (second : other.ListsLike last) :
    service.ListsLike last :=
  ⟨second.1.trans first.1, second.2.trans first.2⟩

theorem ListsLike.answer
    (like : ListsLike service other)
    (bucket start : String)
    (token : Option Value) :
    (other.answer (.listObjects bucket start token)).1 =
        (service.answer (.listObjects bucket start token)).1 ∧
      ListsLike service (other.answer (.listObjects bucket start token)).2 := by
  obtain ⟨objects, pageSize⟩ := like
  simp only [answer_listObjects, objects, pageSize]
  refine ⟨trivial, ?_, ?_⟩
  · exact (objects_reach _ _).trans objects
  · exact pageSize

theorem ListsLike.respond
    (like : ListsLike service other)
    (bucket start : String)
    (token : Option Value)
    (disruptions : List Disruption) :
    (Service.respond (.listObjects bucket start token) other disruptions).1 =
        (Service.respond (.listObjects bucket start token) service disruptions).1 ∧
      ListsLike service
        (Service.respond (.listObjects bucket start token) other disruptions).2 := by
  induction disruptions generalizing other with
  | nil => exact like.answer bucket start token
  | cons disruption rest ih =>
    have same : ListsLike service service := ⟨rfl, rfl⟩
    obtain ⟨outcome, after⟩ := like.answer bucket start token
    obtain ⟨_, afterSelf⟩ := same.answer bucket start token
    rw [Service.respond, Service.respond, prepare, prepare]
    -- A listing changes no objects, so one that comes first leaves the rest the same answer.
    by_cases early : disruption.effectFirst = true
    next =>
      simp only [early, if_true, outcome]
      cases (service.answer (.listObjects bucket start token)).1 with
      | error failure => exact ⟨rfl, after⟩
      | ok answer =>
        cases disruption.outcome with
        | some given => exact ⟨rfl, after⟩
        | none => exact ⟨(ih after).1.trans (ih afterSelf).1.symm, (ih after).2⟩
    next =>
      simp only [early, Bool.false_eq_true, if_false]
      cases disruption.outcome with
      | some given => exact ⟨rfl, like⟩
      | none => exact ih like

end Service

def Schedule.ListsCalmly (schedule : Schedule) (number : Nat) : Prop :=
  forall later, number <= later -> schedule.disruptions .listObjects later = []

theorem pageAnswer_of_calm
    {depot : Depot}
    {number : Nat}
    (calm : depot.schedule.ListsCalmly number)
    (bucket start : String)
    (token : Option Value) :
    depot.pageAnswer bucket start number token =
      match Service.tokenIndex? token with
      | some index => .ok (.data (Service.page (depot.service.objects bucket) start index
          depot.service.pageSize))
      | none => .error (.of (.rejected (.of "ListObjectsV2" "InvalidArgument"
          "The continuation token provided is incorrect" 400))) := by
  rw [Depot.pageAnswer, calm number (Nat.le_refl number), Service.respond,
    Service.answer_listObjects]

structure PageAsked
    (origin : Depot)
    (borrowers : Nat)
    (request : Request)
    (depot : Depot)
    (given : Except Failure Answer)
    (next : Depot) : Prop where
  attended : Attended origin borrowers next
  exchange : next.exchange = depot.exchange ++ request.events given
  calls : next.journal.callCount .listObjects = depot.journal.callCount .listObjects + 1
  like : depot.service.ListsLike next.service
  schedule : next.schedule = depot.schedule

namespace PageAsked

variable {origin depot next : Depot} {borrowers : Nat} {request : Request}
variable {given : Except Failure Answer}

theorem answers (asked : PageAsked origin borrowers request depot given next) :
    next.pageAnswer = depot.pageAnswer := by
  funext bucket start number token
  rw [Depot.pageAnswer, asked.schedule]
  exact (asked.like.respond bucket start token _).1

theorem counted
    (asked : PageAsked origin borrowers request depot given next)
    (change : Metrics -> Metrics) :
    PageAsked origin borrowers request depot given
      { next with journal := next.journal.count change } :=
  ⟨asked.attended.logs rfl, asked.exchange, asked.calls, asked.like, asked.schedule⟩

end PageAsked

namespace Attended

variable {origin depot : Depot} {borrowers : Nat}

theorem askPage
    (attended : Attended origin (borrowers + 1) depot)
    (keepsOpen : origin.schedule.KeepsOpen .listObjects)
    (bucket start : String)
    (token : Option Value) :
    Yields (Client.ask (.listObjects bucket start token) "Failed to list objects") depot
      (fun outcome next =>
        let given := depot.pageAnswer bucket start (depot.journal.callCount .listObjects + 1) token
        outcome = given.mapError (fun failure => failure.told "Failed to list objects") ∧
          PageAsked origin (borrowers + 1) (.listObjects bucket start token) depot given next) := by
  refine (attended.ask (.listObjects bucket start token) keepsOpen _).mono
    (fun outcome next asked => ?_)
  obtain ⟨given, responded, isOutcome⟩ := asked
  have schedule := attended.lent.sameSchedule
  have response := responded.response
  simp only [Request.method] at response
  -- The number of the call is one more than the calls that were counted before.
  have isGiven : given =
      depot.pageAnswer bucket start (depot.journal.callCount .listObjects + 1) token := by
    rw [Depot.pageAnswer, schedule, response]
  have same : depot.service.ListsLike depot.service := ⟨rfl, rfl⟩
  have like := (same.respond bucket start token (origin.schedule.disruptions .listObjects
    (depot.journal.callCount .listObjects + 1))).2
  rw [response] at like
  rw [<- isGiven]
  exact ⟨isOutcome, responded.attended, responded.sent.exchange,
    responded.sent.callCount (.listObjects bucket start token), like, responded.sent.schedule⟩

theorem listPage_shown
    (attended : Attended origin (borrowers + 1) depot)
    (keepsOpen : origin.schedule.KeepsOpen .listObjects)
    {bucket start : String}
    {token : Option Value}
    {answer : Answer}
    {listed : List (String × Int)}
    {following : Option Value}
    (given : depot.pageAnswer bucket start (depot.journal.callCount .listObjects + 1) token =
      .ok answer)
    (shows : answer.Shows listed following) :
    exists named next, (forall token, following = some token -> named = token) ∧
      Client.listPage bucket start token depot =
        (.ok ⟨bucket, start, listed.map (fun entry => (.text entry.1, entry.2)), following.isSome,
          named⟩, next) ∧
      PageAsked origin (borrowers + 1) (.listObjects bucket start token) depot (.ok answer)
        next := by
  have asked := attended.askPage keepsOpen bucket start token
  rw [given] at asked
  obtain ⟨outcome, pageAsked⟩ := asked
  obtain ⟨named, isNamed, page⟩ := pageOf_shown shows bucket start
  have ran : Client.ask (.listObjects bucket start token) "Failed to list objects" depot =
      (.ok answer, _) := Prod.ext outcome rfl
  refine ⟨named, _, isNamed, ?_, pageAsked⟩
  rw [Client.listPage, run_bind_ok _ ran, page]
  rfl

theorem listPage_fault
    (attended : Attended origin (borrowers + 1) depot)
    (keepsOpen : origin.schedule.KeepsOpen .listObjects)
    {bucket start : String}
    {token : Option Value}
    {failure : Failure}
    (given : depot.pageAnswer bucket start (depot.journal.callCount .listObjects + 1) token =
      .error failure)
    (fault : failure.IsFault) :
    exists next, Client.listPage bucket start token depot =
        (.error (failure.reported "Failed to list objects"), next) ∧
      PageAsked origin (borrowers + 1) (.listObjects bucket start token) depot (.error failure)
        next := by
  have asked := attended.askPage keepsOpen bucket start token
  rw [given] at asked
  obtain ⟨outcome, pageAsked⟩ := asked
  have ran : Client.ask (.listObjects bucket start token) "Failed to list objects" depot =
      (.error (failure.reported "Failed to list objects"), _) :=
    Prod.ext (outcome.trans (congrArg Except.error (fault.told _))) rfl
  exact ⟨_, run_bind_error _ ran, pageAsked⟩

end Attended

end BlobDepot
